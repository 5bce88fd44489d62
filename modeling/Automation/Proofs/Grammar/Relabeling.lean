import Automation.Proofs.Grammar.Derivation

/-!
Other values in the place of values.

The grammar only asks whether a token stands for a value. So a relabeling that puts values in the
place of values, and leaves operators and parentheses alone, takes the derivations of a text to
those of the relabeled text, and each of these comes from one of the text.
-/

namespace Automation.Condition

/-- A relabeling of tokens that keeps values values and everything else what it is. -/
structure KeepsGrammar (relabel : Lexeme → Lexeme) : Prop where
  isValue : ∀ lexeme, (relabel lexeme).isValue = lexeme.isValue
  marks : ∀ lexeme, lexeme.isValue = false → relabel lexeme = lexeme

/-- A condition with its tokens relabeled. -/
def Formula.map (relabel : Lexeme → Lexeme) : Formula → Formula
  | .value operand => .value (relabel operand)
  | .compare left comparison right => .compare (relabel left) comparison (relabel right)
  | .negation formula => .negation (formula.map relabel)
  | .both left right => .both (left.map relabel) (right.map relabel)
  | .either left right => .either (left.map relabel) (right.map relabel)

/-- A relabeled condition means what the condition means when its tokens are read as relabeled. -/
theorem Formula.denote_map (relabel : Lexeme → Lexeme) (reading : Reading) (formula : Formula) :
    (formula.map relabel).denote reading =
      formula.denote fun lexeme => reading (relabel lexeme) := by
  induction formula with
  | value operand => rfl
  | compare left comparison right => rfl
  | negation formula inductionHypothesis => simp only [map, denote, inductionHypothesis]
  | both left right leftHypothesis rightHypothesis =>
      simp only [map, denote, leftHypothesis, rightHypothesis]
  | either left right leftHypothesis rightHypothesis =>
      simp only [map, denote, leftHypothesis, rightHypothesis]

section

variable {relabel : Lexeme → Lexeme} (keeps : KeepsGrammar relabel)
include keeps

/-- What is relabeled to an operator or a parenthesis is that operator or parenthesis. -/
theorem KeepsGrammar.eq_of_mark {lexeme mark : Lexeme} (noValue : mark.isValue = false)
    (same : relabel lexeme = mark) : lexeme = mark := by
  rw [← same, keeps.marks]
  rw [← keeps.isValue, same]
  exact noValue

mutual

theorem Disjunction.map {lexemes : List Lexeme} {formula : Formula} :
    Disjunction lexemes formula → Disjunction (lexemes.map relabel) (formula.map relabel)
  | .single derived => .single derived.map
  | .either left right => by
      rw [List.map_append, List.map_cons, keeps.marks _ rfl]
      exact .either left.map right.map

theorem Conjunction.map {lexemes : List Lexeme} {formula : Formula} :
    Conjunction lexemes formula → Conjunction (lexemes.map relabel) (formula.map relabel)
  | .single derived => .single derived.map
  | .both left right => by
      rw [List.map_append, List.map_cons, keeps.marks _ rfl]
      exact .both left.map right.map

theorem Comparand.map {lexemes : List Lexeme} {formula : Formula} :
    Comparand lexemes formula → Comparand (lexemes.map relabel) (formula.map relabel)
  | .value isValue => .value (by rw [keeps.isValue, isValue])
  | .compare left right => by
      rw [List.map_cons, List.map_cons, keeps.marks (.operator _) rfl]
      exact .compare (by rw [keeps.isValue, left]) (by rw [keeps.isValue, right])
  | .negation derived => by
      rw [List.map_cons, keeps.marks _ rfl]
      exact .negation derived.map
  | .parentheses derived => by
      rw [List.map_append, List.map_cons, List.map_cons, List.map_nil, keeps.marks _ rfl,
        keeps.marks .closing rfl]
      exact .parentheses derived.map

end

mutual

theorem Disjunction.of_map {relabeled lexemes : List Lexeme} {formula : Formula}
    (same : lexemes.map relabel = relabeled) : Disjunction relabeled formula →
    ∃ original, Disjunction lexemes original ∧ formula = original.map relabel
  | .single derived => by
      obtain ⟨original, inner, rfl⟩ := derived.of_map same
      exact ⟨original, .single inner, rfl⟩
  | .either left right => by
      obtain ⟨leftLexemes, others, rfl, isLeft, isOthers⟩ := List.map_eq_append_iff.mp same
      obtain ⟨mark, rightLexemes, rfl, isMark, isRight⟩ := List.map_eq_cons_iff.mp isOthers
      obtain ⟨leftOriginal, leftDerived, rfl⟩ := left.of_map isLeft
      obtain ⟨rightOriginal, rightDerived, rfl⟩ := right.of_map isRight
      rw [keeps.eq_of_mark rfl isMark]
      exact ⟨_, .either leftDerived rightDerived, rfl⟩

theorem Conjunction.of_map {relabeled lexemes : List Lexeme} {formula : Formula}
    (same : lexemes.map relabel = relabeled) : Conjunction relabeled formula →
    ∃ original, Conjunction lexemes original ∧ formula = original.map relabel
  | .single derived => by
      obtain ⟨original, inner, rfl⟩ := derived.of_map same
      exact ⟨original, .single inner, rfl⟩
  | .both left right => by
      obtain ⟨leftLexemes, others, rfl, isLeft, isOthers⟩ := List.map_eq_append_iff.mp same
      obtain ⟨mark, rightLexemes, rfl, isMark, isRight⟩ := List.map_eq_cons_iff.mp isOthers
      obtain ⟨leftOriginal, leftDerived, rfl⟩ := left.of_map isLeft
      obtain ⟨rightOriginal, rightDerived, rfl⟩ := right.of_map isRight
      rw [keeps.eq_of_mark rfl isMark]
      exact ⟨_, .both leftDerived rightDerived, rfl⟩

theorem Comparand.of_map {relabeled lexemes : List Lexeme} {formula : Formula}
    (same : lexemes.map relabel = relabeled) : Comparand relabeled formula →
    ∃ original, Comparand lexemes original ∧ formula = original.map relabel
  | .value isValue => by
      obtain ⟨operand, rest, rfl, rfl, isRest⟩ := List.map_eq_cons_iff.mp same
      obtain rfl := List.map_eq_nil_iff.mp isRest
      rw [keeps.isValue] at isValue
      exact ⟨_, .value isValue, rfl⟩
  | .compare left right => by
      obtain ⟨leftOperand, others, rfl, rfl, isOthers⟩ := List.map_eq_cons_iff.mp same
      obtain ⟨mark, last, rfl, isMark, isLast⟩ := List.map_eq_cons_iff.mp isOthers
      obtain ⟨rightOperand, rest, rfl, rfl, isRest⟩ := List.map_eq_cons_iff.mp isLast
      obtain rfl := List.map_eq_nil_iff.mp isRest
      rw [keeps.isValue] at left right
      rw [keeps.eq_of_mark rfl isMark]
      exact ⟨_, .compare left right, rfl⟩
  | .negation derived => by
      obtain ⟨mark, others, rfl, isMark, isOthers⟩ := List.map_eq_cons_iff.mp same
      obtain ⟨original, inner, rfl⟩ := derived.of_map isOthers
      rw [keeps.eq_of_mark rfl isMark]
      exact ⟨_, .negation inner, rfl⟩
  | .parentheses derived => by
      obtain ⟨front, last, rfl, isFront, isLast⟩ := List.map_eq_append_iff.mp same
      obtain ⟨first, inside, rfl, isOpening, isInside⟩ := List.map_eq_cons_iff.mp isFront
      obtain ⟨final, rest, rfl, isClosing, isRest⟩ := List.map_eq_cons_iff.mp isLast
      obtain rfl := List.map_eq_nil_iff.mp isRest
      obtain ⟨original, inner, rfl⟩ := derived.of_map isInside
      rw [keeps.eq_of_mark rfl isOpening, keeps.eq_of_mark rfl isClosing]
      exact ⟨_, .parentheses inner, rfl⟩

end

end

end Automation.Condition
