import Automation.Condition.Grammar

/-!
Derivations in the grammar of conditions.

A derivation tree has one constructor for each alternative of the grammar, with a repetition as a
chain. `lexemes` is the text that a tree derives and `formula` the condition that it means. The
grammar is unambiguous: what a tree derives, followed by tokens that cannot belong to it, fixes the
tree and the place where it ends.
-/

namespace Automation.Condition

/-- A token that stands for a value. -/
abbrev Operand := { lexeme : Lexeme // lexeme.isValue = true }

mutual

/-- A derivation of a disjunction: conjunctions with `||` between them. -/
inductive DisjunctionTree where
  | last (conjunction : ConjunctionTree)
  | either (conjunction : ConjunctionTree) (rest : DisjunctionTree)

/-- A derivation of a conjunction: comparisons with `&&` between them. -/
inductive ConjunctionTree where
  | last (comparand : ComparandTree)
  | both (comparand : ComparandTree) (rest : ConjunctionTree)

/-- A derivation of a comparison, a negation or a condition in parentheses. -/
inductive ComparandTree where
  | value (operand : Operand)
  | compare (left : Operand) (comparison : Comparison) (right : Operand)
  | negation (comparand : ComparandTree)
  | parentheses (disjunction : DisjunctionTree)

end

mutual

/-- What a disjunction derives. -/
def DisjunctionTree.lexemes : DisjunctionTree → List Lexeme
  | .last conjunction => conjunction.lexemes
  | .either conjunction rest => conjunction.lexemes ++ .operator .either :: rest.lexemes

/-- What a conjunction derives. -/
def ConjunctionTree.lexemes : ConjunctionTree → List Lexeme
  | .last comparand => comparand.lexemes
  | .both comparand rest => comparand.lexemes ++ .operator .both :: rest.lexemes

/-- What a comparison derives. -/
def ComparandTree.lexemes : ComparandTree → List Lexeme
  | .value operand => [operand.val]
  | .compare left comparison right =>
      [left.val, .operator (.comparison comparison), right.val]
  | .negation comparand => .operator .negation :: comparand.lexemes
  | .parentheses disjunction => .opening :: disjunction.lexemes ++ [.closing]

end

mutual

/-- What a disjunction means. Repetitions group to the left. -/
def DisjunctionTree.formula : DisjunctionTree → Formula
  | .last conjunction => conjunction.formula
  | .either conjunction rest => rest.joined conjunction.formula

/-- What a disjunction means after a formula and `||`. -/
def DisjunctionTree.joined (left : Formula) : DisjunctionTree → Formula
  | .last conjunction => .either left conjunction.formula
  | .either conjunction rest => rest.joined (.either left conjunction.formula)

/-- What a conjunction means. Repetitions group to the left. -/
def ConjunctionTree.formula : ConjunctionTree → Formula
  | .last comparand => comparand.formula
  | .both comparand rest => rest.joined comparand.formula

/-- What a conjunction means after a formula and `&&`. -/
def ConjunctionTree.joined (left : Formula) : ConjunctionTree → Formula
  | .last comparand => .both left comparand.formula
  | .both comparand rest => rest.joined (.both left comparand.formula)

/-- What a comparison means. -/
def ComparandTree.formula : ComparandTree → Formula
  | .value operand => .value operand.val
  | .compare left comparison right => .compare left.val comparison right.val
  | .negation comparand => .negation comparand.formula
  | .parentheses disjunction => disjunction.formula

end

/-! ### Trees and the grammar -/

mutual

theorem DisjunctionTree.derives : (tree : DisjunctionTree) →
    Disjunction tree.lexemes tree.formula
  | .last conjunction => .single conjunction.derives
  | .either conjunction rest => rest.derives_joined (.single conjunction.derives)

theorem DisjunctionTree.derives_joined {left : List Lexeme} {formula : Formula}
    (derived : Disjunction left formula) : (tree : DisjunctionTree) →
    Disjunction (left ++ .operator .either :: tree.lexemes) (tree.joined formula)
  | .last conjunction => .either derived conjunction.derives
  | .either conjunction rest => by
      have extended := rest.derives_joined (.either derived conjunction.derives)
      simpa only [DisjunctionTree.lexemes, DisjunctionTree.joined, List.append_assoc,
        List.cons_append] using extended

theorem ConjunctionTree.derives : (tree : ConjunctionTree) →
    Conjunction tree.lexemes tree.formula
  | .last comparand => .single comparand.derives
  | .both comparand rest => rest.derives_joined (.single comparand.derives)

theorem ConjunctionTree.derives_joined {left : List Lexeme} {formula : Formula}
    (derived : Conjunction left formula) : (tree : ConjunctionTree) →
    Conjunction (left ++ .operator .both :: tree.lexemes) (tree.joined formula)
  | .last comparand => .both derived comparand.derives
  | .both comparand rest => by
      have extended := rest.derives_joined (.both derived comparand.derives)
      simpa only [ConjunctionTree.lexemes, ConjunctionTree.joined, List.append_assoc,
        List.cons_append] using extended

theorem ComparandTree.derives : (tree : ComparandTree) → Comparand tree.lexemes tree.formula
  | .value operand => .value operand.property
  | .compare left _ right => .compare left.property right.property
  | .negation comparand => .negation comparand.derives
  | .parentheses disjunction => .parentheses disjunction.derives

end

/-- Add a conjunction at the end of a disjunction. -/
def DisjunctionTree.snoc (conjunction : ConjunctionTree) : DisjunctionTree → DisjunctionTree
  | .last first => .either first (.last conjunction)
  | .either first rest => .either first (rest.snoc conjunction)

/-- Add a comparison at the end of a conjunction. -/
def ConjunctionTree.snoc (comparand : ComparandTree) : ConjunctionTree → ConjunctionTree
  | .last first => .both first (.last comparand)
  | .both first rest => .both first (rest.snoc comparand)

theorem DisjunctionTree.lexemes_snoc (conjunction : ConjunctionTree) : (tree : DisjunctionTree) →
    (tree.snoc conjunction).lexemes = tree.lexemes ++ .operator .either :: conjunction.lexemes
  | .last first => by simp [snoc, lexemes]
  | .either first rest => by simp [snoc, lexemes, lexemes_snoc conjunction rest]

theorem DisjunctionTree.joined_snoc (conjunction : ConjunctionTree) (left : Formula) :
    (tree : DisjunctionTree) →
    (tree.snoc conjunction).joined left = .either (tree.joined left) conjunction.formula
  | .last first => by simp [snoc, joined]
  | .either first rest => by simp [snoc, joined, joined_snoc conjunction _ rest]

theorem DisjunctionTree.formula_snoc (conjunction : ConjunctionTree) (tree : DisjunctionTree) :
    (tree.snoc conjunction).formula = .either tree.formula conjunction.formula := by
  cases tree with
  | last first => simp [snoc, formula, joined]
  | either first rest => simp [snoc, formula, joined_snoc]

theorem ConjunctionTree.lexemes_snoc (comparand : ComparandTree) : (tree : ConjunctionTree) →
    (tree.snoc comparand).lexemes = tree.lexemes ++ .operator .both :: comparand.lexemes
  | .last first => by simp [snoc, lexemes]
  | .both first rest => by simp [snoc, lexemes, lexemes_snoc comparand rest]

theorem ConjunctionTree.joined_snoc (comparand : ComparandTree) (left : Formula) :
    (tree : ConjunctionTree) →
    (tree.snoc comparand).joined left = .both (tree.joined left) comparand.formula
  | .last first => by simp [snoc, joined]
  | .both first rest => by simp [snoc, joined, joined_snoc comparand _ rest]

theorem ConjunctionTree.formula_snoc (comparand : ComparandTree) (tree : ConjunctionTree) :
    (tree.snoc comparand).formula = .both tree.formula comparand.formula := by
  cases tree with
  | last first => simp [snoc, formula, joined]
  | both first rest => simp [snoc, formula, joined_snoc]

mutual

theorem Disjunction.exists_tree {lexemes : List Lexeme} {formula : Formula} :
    Disjunction lexemes formula →
    ∃ tree : DisjunctionTree, tree.lexemes = lexemes ∧ tree.formula = formula
  | .single derived => by
      obtain ⟨tree, rfl, rfl⟩ := derived.exists_tree
      exact ⟨.last tree, rfl, rfl⟩
  | .either left right => by
      obtain ⟨leftTree, rfl, rfl⟩ := left.exists_tree
      obtain ⟨rightTree, rfl, rfl⟩ := right.exists_tree
      exact ⟨leftTree.snoc rightTree, leftTree.lexemes_snoc rightTree,
        leftTree.formula_snoc rightTree⟩

theorem Conjunction.exists_tree {lexemes : List Lexeme} {formula : Formula} :
    Conjunction lexemes formula →
    ∃ tree : ConjunctionTree, tree.lexemes = lexemes ∧ tree.formula = formula
  | .single derived => by
      obtain ⟨tree, rfl, rfl⟩ := derived.exists_tree
      exact ⟨.last tree, rfl, rfl⟩
  | .both left right => by
      obtain ⟨leftTree, rfl, rfl⟩ := left.exists_tree
      obtain ⟨rightTree, rfl, rfl⟩ := right.exists_tree
      exact ⟨leftTree.snoc rightTree, leftTree.lexemes_snoc rightTree,
        leftTree.formula_snoc rightTree⟩

theorem Comparand.exists_tree {lexemes : List Lexeme} {formula : Formula} :
    Comparand lexemes formula →
    ∃ tree : ComparandTree, tree.lexemes = lexemes ∧ tree.formula = formula
  | .value isValue => ⟨.value ⟨_, isValue⟩, rfl, rfl⟩
  | .compare left right => ⟨.compare ⟨_, left⟩ _ ⟨_, right⟩, rfl, rfl⟩
  | .negation derived => by
      obtain ⟨tree, rfl, rfl⟩ := derived.exists_tree
      exact ⟨.negation tree, rfl, rfl⟩
  | .parentheses derived => by
      obtain ⟨tree, rfl, rfl⟩ := derived.exists_tree
      exact ⟨.parentheses tree, rfl, rfl⟩

end

/-- The grammar derives a text with a meaning exactly where a tree does. -/
theorem disjunction_iff_exists_tree {lexemes : List Lexeme} {formula : Formula} :
    Disjunction lexemes formula ↔
      ∃ tree : DisjunctionTree, tree.lexemes = lexemes ∧ tree.formula = formula := by
  constructor
  · exact Disjunction.exists_tree
  · rintro ⟨tree, rfl, rfl⟩
    exact tree.derives

/-! ### Unambiguity -/

/-- Tokens that do not go on with a comparison after a value. -/
def endsComparand : List Lexeme → Bool
  | .operator (.comparison _) :: _ => false
  | _ => true

/-- Tokens that do not go on with a conjunction. -/
def endsConjunction : List Lexeme → Bool
  | .operator .both :: _ => false
  | rest => endsComparand rest

/-- Tokens that do not go on with a disjunction. -/
def endsDisjunction : List Lexeme → Bool
  | .operator .either :: _ => false
  | rest => endsConjunction rest

theorem endsConjunction_of_endsDisjunction {rest : List Lexeme}
    (ends : endsDisjunction rest = true) : endsConjunction rest = true := by
  unfold endsDisjunction at ends
  split at ends
  · contradiction
  · exact ends

theorem endsComparand_of_endsConjunction {rest : List Lexeme}
    (ends : endsConjunction rest = true) : endsComparand rest = true := by
  unfold endsConjunction at ends
  split at ends
  · contradiction
  · exact ends

mutual

theorem DisjunctionTree.unique {rest rest' : List Lexeme}
    (ends : endsDisjunction rest = true) (ends' : endsDisjunction rest' = true) :
    (left right : DisjunctionTree) → left.lexemes ++ rest = right.lexemes ++ rest' →
    left = right ∧ rest = rest'
  | .last left, .last right, same => by
      obtain ⟨rfl, rests⟩ := ConjunctionTree.unique (endsConjunction_of_endsDisjunction ends)
        (endsConjunction_of_endsDisjunction ends') left right same
      exact ⟨rfl, rests⟩
  | .last left, .either right more, same => by
      simp only [DisjunctionTree.lexemes, List.append_assoc] at same
      obtain ⟨_, rfl⟩ := ConjunctionTree.unique (endsConjunction_of_endsDisjunction ends)
        rfl left right same
      simp [endsDisjunction] at ends
  | .either left more, .last right, same => by
      simp only [DisjunctionTree.lexemes, List.append_assoc] at same
      obtain ⟨_, rfl⟩ := ConjunctionTree.unique rfl
        (endsConjunction_of_endsDisjunction ends') left right same
      simp [endsDisjunction] at ends'
  | .either left more, .either right more', same => by
      simp only [DisjunctionTree.lexemes, List.append_assoc, List.cons_append] at same
      obtain ⟨rfl, rests⟩ := ConjunctionTree.unique rfl rfl left right same
      obtain ⟨rfl, rfl⟩ := DisjunctionTree.unique ends ends' more more' (List.cons.inj rests).2
      exact ⟨rfl, rfl⟩

theorem ConjunctionTree.unique {rest rest' : List Lexeme}
    (ends : endsConjunction rest = true) (ends' : endsConjunction rest' = true) :
    (left right : ConjunctionTree) → left.lexemes ++ rest = right.lexemes ++ rest' →
    left = right ∧ rest = rest'
  | .last left, .last right, same => by
      obtain ⟨rfl, rests⟩ := ComparandTree.unique (endsComparand_of_endsConjunction ends)
        (endsComparand_of_endsConjunction ends') left right same
      exact ⟨rfl, rests⟩
  | .last left, .both right more, same => by
      simp only [ConjunctionTree.lexemes, List.append_assoc] at same
      obtain ⟨_, rfl⟩ := ComparandTree.unique (endsComparand_of_endsConjunction ends)
        rfl left right same
      simp [endsConjunction] at ends
  | .both left more, .last right, same => by
      simp only [ConjunctionTree.lexemes, List.append_assoc] at same
      obtain ⟨_, rfl⟩ := ComparandTree.unique rfl
        (endsComparand_of_endsConjunction ends') left right same
      simp [endsConjunction] at ends'
  | .both left more, .both right more', same => by
      simp only [ConjunctionTree.lexemes, List.append_assoc, List.cons_append] at same
      obtain ⟨rfl, rests⟩ := ComparandTree.unique rfl rfl left right same
      obtain ⟨rfl, rfl⟩ := ConjunctionTree.unique ends ends' more more' (List.cons.inj rests).2
      exact ⟨rfl, rfl⟩

theorem ComparandTree.unique {rest rest' : List Lexeme}
    (ends : endsComparand rest = true) (ends' : endsComparand rest' = true) :
    (left right : ComparandTree) → left.lexemes ++ rest = right.lexemes ++ rest' →
    left = right ∧ rest = rest'
  | .value left, .value right, same => by
      obtain ⟨operands, rfl⟩ := List.cons.inj same
      exact ⟨congrArg _ (Subtype.ext operands), rfl⟩
  | .compare left comparison operand, .compare right comparison' operand', same => by
      simp only [ComparandTree.lexemes, List.cons_append, List.nil_append, List.cons.injEq,
        Lexeme.operator.injEq, Operator.comparison.injEq] at same
      obtain ⟨lefts, rfl, rights, rfl⟩ := same
      exact ⟨by rw [Subtype.ext lefts, Subtype.ext rights], rfl⟩
  | .negation left, .negation right, same => by
      obtain ⟨rfl, rfl⟩ := ComparandTree.unique ends ends' left right (List.cons.inj same).2
      exact ⟨rfl, rfl⟩
  | .parentheses left, .parentheses right, same => by
      simp only [ComparandTree.lexemes, List.cons_append, List.append_assoc, List.nil_append,
        List.cons.injEq, true_and] at same
      obtain ⟨rfl, closed⟩ := DisjunctionTree.unique rfl rfl left right same
      exact ⟨rfl, (List.cons.inj closed).2⟩
  | .value _, .compare _ _ _, same => by
      simp only [ComparandTree.lexemes, List.cons_append, List.nil_append, List.cons.injEq] at same
      rw [same.2] at ends
      simp [endsComparand] at ends
  | .compare _ _ _, .value _, same => by
      simp only [ComparandTree.lexemes, List.cons_append, List.nil_append, List.cons.injEq] at same
      rw [← same.2] at ends'
      simp [endsComparand] at ends'
  | .value left, .negation _, same | .compare left _ _, .negation _, same
  | .value left, .parentheses _, same | .compare left _ _, .parentheses _, same => by
      have isValue := left.property
      rw [(List.cons.inj same).1] at isValue
      simp [Lexeme.isValue] at isValue
  | .negation _, .value right, same | .negation _, .compare right _ _, same
  | .parentheses _, .value right, same | .parentheses _, .compare right _ _, same => by
      have isValue := right.property
      rw [← (List.cons.inj same).1] at isValue
      simp [Lexeme.isValue] at isValue
  | .negation _, .parentheses _, same | .parentheses _, .negation _, same => by
      simp [ComparandTree.lexemes] at same

end

/-- At most one tree derives a text. -/
theorem DisjunctionTree.lexemes_injective {left right : DisjunctionTree}
    (same : left.lexemes = right.lexemes) : left = right := by
  have ended : left.lexemes ++ [] = right.lexemes ++ [] := by rw [same]
  exact (DisjunctionTree.unique rfl rfl left right ended).1

end Automation.Condition
