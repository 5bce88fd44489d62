import Automation.Condition.Literal
import Automation.Proofs.Fallible
import Automation.Proofs.Grammar.Derivation

/-!
The verdict decides the grammar.

The reader takes tokens from the front and evaluates while it reads. It is sound: what it took is
derived by the grammar and has the truth that it found. It is complete: it takes everything that is
derived, provided that what follows cannot belong to it. Every third call at least takes a token,
so three calls for each token are enough.
-/

namespace Automation.Condition

variable {reading : Reading}

/-! ### Soundness -/

/-- Tokens start with a text of the grammar that has a given truth and is followed by `rest`. -/
def StartsWith (grammar : List Lexeme → Formula → Prop) (reading : Reading) (tokens : List Token)
    (truth : Bool) (rest : List Token) : Prop :=
  ∃ lexemes formula, grammar lexemes formula ∧
    tokens.map Token.lexeme = lexemes ++ rest.map Token.lexeme ∧
    formula.denote reading = .ok truth

theorem readOperands_sound {left : Lexeme} (isValue : left.isValue = true) {position : Nat}
    {tokens rest : List Token} {truth : Bool}
    (read : readOperands reading left tokens = .ok (truth, rest)) :
    StartsWith Comparand reading (⟨left, position⟩ :: tokens) truth rest := by
  simp only [readOperands, bind_eq_ok_iff] at read
  obtain ⟨leftValue, leftRead, read⟩ := read
  split at read
  · split at read
    · simp [refuse] at read
    · split at read
      case isTrue rightIsValue =>
        simp only [bind_eq_ok_iff, Except.ok.injEq, Prod.mk.injEq] at read
        obtain ⟨rightValue, rightRead, _, holds, rfl, rfl⟩ := read
        refine ⟨_, _, .compare isValue rightIsValue, rfl, ?_⟩
        simpa [Formula.denote, leftRead, rightRead] using holds
      case isFalse => simp [refuse] at read
  · simp only [Except.ok.injEq, Prod.mk.injEq] at read
    obtain ⟨rfl, rfl⟩ := read
    exact ⟨_, _, .value isValue, rfl, by simp [Formula.denote, leftRead]⟩

mutual

theorem readDisjunction_sound : (fuel : Nat) → {tokens rest : List Token} → {truth : Bool} →
    readDisjunction reading fuel tokens = .ok (truth, rest) →
    StartsWith Disjunction reading tokens truth rest
  | 0, _, _, _, read => by simp [readDisjunction, refuse] at read
  | fuel + 1, _, _, _, read => by
      simp only [readDisjunction, bind_eq_ok_iff] at read
      obtain ⟨⟨first, middle⟩, firstRead, read⟩ := read
      obtain ⟨lexemes, formula, derived, split, denoted⟩ := readConjunction_sound fuel firstRead
      obtain ⟨more, formula, derived, moreSplit, denoted⟩ :=
        readAlternatives_sound fuel (.single derived) denoted read
      exact ⟨_, formula, derived, by rw [split, moreSplit, List.append_assoc], denoted⟩

theorem readAlternatives_sound : (fuel : Nat) → {left : List Lexeme} → {formula : Formula} →
    {tokens rest : List Token} → {sofar truth : Bool} → Disjunction left formula →
    formula.denote reading = .ok sofar →
    readAlternatives reading fuel sofar tokens = .ok (truth, rest) →
    ∃ more formula', Disjunction (left ++ more) formula' ∧
      tokens.map Token.lexeme = more ++ rest.map Token.lexeme ∧
      formula'.denote reading = .ok truth
  | fuel, left, formula, tokens, rest, sofar, truth, derived, denoted, read => by
      unfold readAlternatives at read
      split at read
      case h_1 _ fuel _ tokens =>
        simp only [bind_eq_ok_iff] at read
        obtain ⟨⟨next, middle⟩, nextRead, read⟩ := read
        obtain ⟨lexemes, _, nextDerived, split, nextDenoted⟩ :=
          readConjunction_sound fuel nextRead
        obtain ⟨more, formula', extended, moreSplit, denoted⟩ :=
          readAlternatives_sound fuel (.either derived nextDerived)
            (by simp [Formula.denote, denoted, nextDenoted]) read
        refine ⟨.operator .either :: lexemes ++ more, formula', ?_, ?_, denoted⟩
        · simpa only [List.append_assoc, List.cons_append] using extended
        · simp [split, moreSplit]
      case h_2 =>
        simp only [Except.ok.injEq, Prod.mk.injEq] at read
        obtain ⟨rfl, rfl⟩ := read
        exact ⟨[], formula, by simpa using derived, rfl, denoted⟩

theorem readConjunction_sound : (fuel : Nat) → {tokens rest : List Token} → {truth : Bool} →
    readConjunction reading fuel tokens = .ok (truth, rest) →
    StartsWith Conjunction reading tokens truth rest
  | 0, _, _, _, read => by simp [readConjunction, refuse] at read
  | fuel + 1, _, _, _, read => by
      simp only [readConjunction, bind_eq_ok_iff] at read
      obtain ⟨⟨first, middle⟩, firstRead, read⟩ := read
      obtain ⟨lexemes, formula, derived, split, denoted⟩ := readComparand_sound fuel firstRead
      obtain ⟨more, formula, derived, moreSplit, denoted⟩ :=
        readFurther_sound fuel (.single derived) denoted read
      exact ⟨_, formula, derived, by rw [split, moreSplit, List.append_assoc], denoted⟩

theorem readFurther_sound : (fuel : Nat) → {left : List Lexeme} → {formula : Formula} →
    {tokens rest : List Token} → {sofar truth : Bool} → Conjunction left formula →
    formula.denote reading = .ok sofar →
    readFurther reading fuel sofar tokens = .ok (truth, rest) →
    ∃ more formula', Conjunction (left ++ more) formula' ∧
      tokens.map Token.lexeme = more ++ rest.map Token.lexeme ∧
      formula'.denote reading = .ok truth
  | fuel, left, formula, tokens, rest, sofar, truth, derived, denoted, read => by
      unfold readFurther at read
      split at read
      case h_1 _ fuel _ tokens =>
        simp only [bind_eq_ok_iff] at read
        obtain ⟨⟨next, middle⟩, nextRead, read⟩ := read
        obtain ⟨lexemes, _, nextDerived, split, nextDenoted⟩ :=
          readComparand_sound fuel nextRead
        obtain ⟨more, formula', extended, moreSplit, denoted⟩ :=
          readFurther_sound fuel (.both derived nextDerived)
            (by simp [Formula.denote, denoted, nextDenoted]) read
        refine ⟨.operator .both :: lexemes ++ more, formula', ?_, ?_, denoted⟩
        · simpa only [List.append_assoc, List.cons_append] using extended
        · simp [split, moreSplit]
      case h_2 =>
        simp only [Except.ok.injEq, Prod.mk.injEq] at read
        obtain ⟨rfl, rfl⟩ := read
        exact ⟨[], formula, by simpa using derived, rfl, denoted⟩

theorem readComparand_sound : (fuel : Nat) → {tokens rest : List Token} → {truth : Bool} →
    readComparand reading fuel tokens = .ok (truth, rest) →
    StartsWith Comparand reading tokens truth rest
  | 0, _, _, _, read => by simp [readComparand, refuse] at read
  | _ + 1, [], _, _, read => by simp [readComparand, refuse] at read
  | fuel + 1, ⟨lexeme, position⟩ :: tokens, _, _, read => by
      unfold readComparand at read
      split at read
      case h_1 isNegation =>
        simp only [bind_eq_ok_iff, Except.ok.injEq, Prod.mk.injEq] at read
        obtain ⟨⟨inner, middle⟩, innerRead, rfl, rfl⟩ := read
        obtain ⟨lexemes, formula, derived, split, denoted⟩ := readComparand_sound fuel innerRead
        refine ⟨_, _, .negation derived, ?_, by simp [Formula.denote, denoted]⟩
        simpa using ⟨isNegation, split⟩
      case h_2 isOpening =>
        simp only [bind_eq_ok_iff] at read
        obtain ⟨⟨inner, middle⟩, innerRead, read⟩ := read
        obtain ⟨lexemes, formula, derived, split, denoted⟩ :=
          readDisjunction_sound fuel innerRead
        dsimp only at read
        split at read
        · simp only [Except.ok.injEq, Prod.mk.injEq] at read
          obtain ⟨rfl, rfl⟩ := read
          refine ⟨_, _, .parentheses derived, ?_, denoted⟩
          simpa using ⟨isOpening, split⟩
        · simp [refuse] at read
      case h_3 =>
        split at read
        case isTrue isValue => exact readOperands_sound isValue read
        case isFalse => simp [refuse] at read

end

/-! ### Completeness -/

theorem readComparand_value {lexeme : Lexeme} (isValue : lexeme.isValue = true)
    (position fuel : Nat) (tokens : List Token) :
    readComparand reading (fuel + 1) (⟨lexeme, position⟩ :: tokens) =
      readOperands reading lexeme tokens := by
  cases lexeme <;> simp_all [readComparand, Lexeme.isValue]

theorem readOperands_of_ends {operand : Lexeme} {value : Value} {rest : List Token}
    (read : reading operand = .ok value) (ends : endsComparand (rest.map Token.lexeme) = true) :
    readOperands reading operand rest = .ok (value.truthy, rest) := by
  simp only [readOperands, read, ok_bind]
  split
  · simp [endsComparand] at ends
  · rfl

theorem readAlternatives_of_ends {rest : List Token}
    (ends : endsDisjunction (rest.map Token.lexeme) = true) (fuel : Nat) (truth : Bool) :
    readAlternatives reading fuel truth rest = .ok (truth, rest) := by
  unfold readAlternatives
  split
  · simp [endsDisjunction] at ends
  · rfl

theorem readFurther_of_ends {rest : List Token}
    (ends : endsConjunction (rest.map Token.lexeme) = true) (fuel : Nat) (truth : Bool) :
    readFurther reading fuel truth rest = .ok (truth, rest) := by
  unfold readFurther
  split
  · simp [endsConjunction] at ends
  · rfl

mutual

/-- A derived disjunction is taken as a whole, up to what may follow as its next alternative. -/
theorem Disjunction.read {lexemes : List Lexeme} {formula : Formula} :
    Disjunction lexemes formula → (tokens rest : List Token) → {truth : Bool} → {fuel : Nat} →
    tokens.map Token.lexeme = lexemes → formula.denote reading = .ok truth →
    endsConjunction (rest.map Token.lexeme) = true →
    3 * (tokens.length + rest.length) + 3 ≤ fuel →
    ∃ left, 3 * rest.length ≤ left ∧
      readDisjunction reading fuel (tokens ++ rest) = readAlternatives reading left truth rest
  | .single derived, tokens, rest, truth, fuel + 1, same, denoted, ends, enough => by
      obtain ⟨left, _, taken⟩ := derived.read tokens rest same denoted
        (endsComparand_of_endsConjunction ends) (Nat.le_of_succ_le_succ enough)
      refine ⟨fuel, by omega, ?_⟩
      simp [readDisjunction, taken, readFurther_of_ends ends]
  | .either first second, tokens, rest, truth, fuel, same, denoted, ends, enough => by
      obtain ⟨firstTokens, operatorTokens, rfl, firstSame, operatorSame⟩ :=
        List.map_eq_append_iff.mp same
      obtain ⟨⟨_, position⟩, secondTokens, rfl, rfl, secondSame⟩ :=
        List.map_eq_cons_iff.mp operatorSame
      simp only [Formula.denote, bind_eq_ok_iff, Except.ok.injEq] at denoted
      obtain ⟨firstTruth, firstDenoted, secondTruth, secondDenoted, rfl⟩ := denoted
      simp only [List.length_append, List.length_cons] at enough
      obtain ⟨left, room, taken⟩ := first.read firstTokens
        (⟨.operator .either, position⟩ :: (secondTokens ++ rest)) firstSame firstDenoted rfl
        (show _ ≤ fuel by simp only [List.length_append, List.length_cons]; omega)
      -- The fuel that is left covers the operator and the tokens of one more conjunction.
      simp only [List.length_append, List.length_cons] at room
      obtain ⟨left, rfl⟩ : ∃ smaller, left = smaller + 1 := ⟨left - 1, by omega⟩
      obtain ⟨_, _, secondTaken⟩ := second.read secondTokens rest secondSame secondDenoted
        (endsComparand_of_endsConjunction ends)
        (show 3 * (secondTokens.length + rest.length) + 2 ≤ left by omega)
      refine ⟨left, by omega, ?_⟩
      simp only [List.append_assoc, List.cons_append] at taken ⊢
      rw [taken]
      simp [readAlternatives, secondTaken, readFurther_of_ends ends]

/-- A derived conjunction is taken as a whole, up to what may follow as its next part. -/
theorem Conjunction.read {lexemes : List Lexeme} {formula : Formula} :
    Conjunction lexemes formula → (tokens rest : List Token) → {truth : Bool} → {fuel : Nat} →
    tokens.map Token.lexeme = lexemes → formula.denote reading = .ok truth →
    endsComparand (rest.map Token.lexeme) = true →
    3 * (tokens.length + rest.length) + 2 ≤ fuel →
    ∃ left, 3 * rest.length ≤ left ∧
      readConjunction reading fuel (tokens ++ rest) = readFurther reading left truth rest
  | .single derived, tokens, rest, truth, fuel + 1, same, denoted, ends, enough => by
      have taken := derived.read tokens rest same denoted ends (Nat.le_of_succ_le_succ enough)
      refine ⟨fuel, by omega, ?_⟩
      simp [readConjunction, taken]
  | .both first second, tokens, rest, truth, fuel, same, denoted, ends, enough => by
      obtain ⟨firstTokens, operatorTokens, rfl, firstSame, operatorSame⟩ :=
        List.map_eq_append_iff.mp same
      obtain ⟨⟨_, position⟩, secondTokens, rfl, rfl, secondSame⟩ :=
        List.map_eq_cons_iff.mp operatorSame
      simp only [Formula.denote, bind_eq_ok_iff, Except.ok.injEq] at denoted
      obtain ⟨firstTruth, firstDenoted, secondTruth, secondDenoted, rfl⟩ := denoted
      simp only [List.length_append, List.length_cons] at enough
      obtain ⟨left, room, taken⟩ := first.read firstTokens
        (⟨.operator .both, position⟩ :: (secondTokens ++ rest)) firstSame firstDenoted rfl
        (show _ ≤ fuel by simp only [List.length_append, List.length_cons]; omega)
      simp only [List.length_append, List.length_cons] at room
      obtain ⟨left, rfl⟩ : ∃ smaller, left = smaller + 1 := ⟨left - 1, by omega⟩
      have secondTaken := second.read secondTokens rest secondSame secondDenoted ends
        (show 3 * (secondTokens.length + rest.length) + 1 ≤ left by omega)
      refine ⟨left, by omega, ?_⟩
      simp only [List.append_assoc, List.cons_append] at taken ⊢
      rw [taken]
      simp [readFurther, secondTaken]

/-- A derived comparison is taken as a whole. -/
theorem Comparand.read {lexemes : List Lexeme} {formula : Formula} :
    Comparand lexemes formula → (tokens rest : List Token) → {truth : Bool} → {fuel : Nat} →
    tokens.map Token.lexeme = lexemes → formula.denote reading = .ok truth →
    endsComparand (rest.map Token.lexeme) = true →
    3 * (tokens.length + rest.length) + 1 ≤ fuel →
    readComparand reading fuel (tokens ++ rest) = .ok (truth, rest)
  | .value isValue, tokens, rest, truth, fuel + 1, same, denoted, ends, enough => by
      obtain ⟨⟨_, position⟩, _, rfl, rfl, nothing⟩ := List.map_eq_cons_iff.mp same
      obtain rfl := List.map_eq_nil_iff.mp nothing
      simp only [Formula.denote, map_eq_ok_iff] at denoted
      obtain ⟨value, read, rfl⟩ := denoted
      rw [List.singleton_append, readComparand_value isValue]
      exact readOperands_of_ends read ends
  | .compare leftIsValue rightIsValue, tokens, rest, truth, fuel + 1, same, denoted, ends,
      enough => by
      obtain ⟨⟨_, position⟩, _, rfl, rfl, operatorSame⟩ := List.map_eq_cons_iff.mp same
      obtain ⟨⟨_, operatorPosition⟩, _, rfl, rfl, rightSame⟩ :=
        List.map_eq_cons_iff.mp operatorSame
      obtain ⟨⟨_, rightPosition⟩, _, rfl, rfl, nothing⟩ := List.map_eq_cons_iff.mp rightSame
      obtain rfl := List.map_eq_nil_iff.mp nothing
      simp only [Formula.denote, bind_eq_ok_iff] at denoted
      obtain ⟨leftValue, leftRead, rightValue, rightRead, holds⟩ := denoted
      rw [List.cons_append, readComparand_value leftIsValue]
      simp [readOperands, leftRead, rightRead, rightIsValue, holds]
  | .negation derived, tokens, rest, truth, fuel + 1, same, denoted, ends, enough => by
      obtain ⟨⟨_, position⟩, inner, rfl, rfl, innerSame⟩ := List.map_eq_cons_iff.mp same
      simp only [Formula.denote, map_eq_ok_iff] at denoted
      obtain ⟨innerTruth, innerDenoted, rfl⟩ := denoted
      simp only [List.length_cons] at enough
      have taken := derived.read inner rest innerSame innerDenoted ends
        (show 3 * (inner.length + rest.length) + 1 ≤ fuel by omega)
      simp [readComparand, taken]
  | .parentheses derived, tokens, rest, truth, fuel + 1, same, denoted, ends, enough => by
      obtain ⟨⟨_, position⟩, _, rfl, rfl, closedSame⟩ := List.map_eq_cons_iff.mp same
      obtain ⟨inner, _, rfl, innerSame, closingSame⟩ := List.map_eq_append_iff.mp closedSame
      obtain ⟨⟨_, closingPosition⟩, _, rfl, rfl, nothing⟩ := List.map_eq_cons_iff.mp closingSame
      obtain rfl := List.map_eq_nil_iff.mp nothing
      simp only [List.length_cons, List.length_append, List.length_nil] at enough
      obtain ⟨left, _, taken⟩ := derived.read inner (⟨.closing, closingPosition⟩ :: rest)
        innerSame denoted rfl
        (show _ ≤ fuel by simp only [List.length_cons]; omega)
      rw [readAlternatives_of_ends rfl] at taken
      simp [readComparand, taken]

end

/-- The verdict is the truth of the condition that the tokens derive. -/
theorem verdict_eq_ok_iff {tokens : List Token} {truth : Bool} :
    verdict reading tokens = .ok truth ↔
      ∃ formula, Disjunction (tokens.map Token.lexeme) formula ∧
        formula.denote reading = .ok truth := by
  constructor
  · intro decided
    unfold verdict at decided
    split at decided
    · simp [refuse] at decided
    · simp only [bind_eq_ok_iff] at decided
      obtain ⟨⟨truth, rest⟩, read, decided⟩ := decided
      obtain ⟨lexemes, formula, derived, same, denoted⟩ := readDisjunction_sound _ read
      cases rest with
      | nil =>
          simp only [Except.ok.injEq] at decided
          simp only [List.map_nil, List.append_nil] at same
          exact ⟨formula, same ▸ derived, decided ▸ denoted⟩
      | cons token rest => simp [refuse] at decided
  · rintro ⟨formula, derived, denoted⟩
    obtain ⟨left, _, read⟩ := derived.read tokens [] rfl denoted rfl
      (show _ ≤ 3 * tokens.length + 3 by simp)
    rw [List.append_nil, readAlternatives_of_ends rfl] at read
    cases tokens with
    | nil => simp [readDisjunction, readConjunction, readComparand, refuse] at read
    | cons token tokens =>
        unfold verdict
        rw [if_neg (by simp), read]
        rfl

/-- The verdict is the truth of a tree of the tokens. -/
theorem verdict_eq_ok_iff_exists_tree {tokens : List Token} {truth : Bool} :
    verdict reading tokens = .ok truth ↔
      ∃ tree : DisjunctionTree, tree.lexemes = tokens.map Token.lexeme ∧
        tree.formula.denote reading = .ok truth := by
  rw [verdict_eq_ok_iff]
  constructor
  · rintro ⟨formula, derived, denoted⟩
    obtain ⟨tree, same, rfl⟩ := disjunction_iff_exists_tree.mp derived
    exact ⟨tree, same, denoted⟩
  · rintro ⟨tree, same, denoted⟩
    exact ⟨tree.formula, disjunction_iff_exists_tree.mpr ⟨tree, same, rfl⟩, denoted⟩

/-! ### Refusals -/

/-- Tokens whose values can be read and compared. -/
structure Unfailing (reading : Reading) (lexemes : List Lexeme) : Prop where
  readable : ∀ lexeme ∈ lexemes, lexeme.isValue = true → ∃ value, reading lexeme = .ok value
  comparable : ∀ left ∈ lexemes, ∀ right ∈ lexemes, left.isValue = true → right.isValue = true →
    ∀ leftValue rightValue, reading left = .ok leftValue → reading right = .ok rightValue →
    ∀ comparison : Comparison, ∃ truth, comparison.holds leftValue rightValue = .ok truth

theorem Unfailing.mono {lexemes fewer : List Lexeme} (unfailing : Unfailing reading lexemes)
    (contained : ∀ lexeme ∈ fewer, lexeme ∈ lexemes) : Unfailing reading fewer :=
  ⟨fun lexeme member => unfailing.readable lexeme (contained lexeme member),
    fun left leftMember right rightMember => unfailing.comparable left (contained left leftMember)
      right (contained right rightMember)⟩

/-- What a reader leaves can be read and compared where its tokens can. -/
theorem Unfailing.rest {grammar : List Lexeme → Formula → Prop} {tokens rest : List Token}
    {truth : Bool} (unfailing : Unfailing reading (tokens.map Token.lexeme))
    (found : StartsWith grammar reading tokens truth rest) :
    Unfailing reading (rest.map Token.lexeme) := by
  obtain ⟨lexemes, formula, _, same, _⟩ := found
  apply unfailing.mono
  intro lexeme member
  rw [same]
  exact List.mem_append_right _ member

theorem Unfailing.tail {token : Token} {tokens : List Token}
    (unfailing : Unfailing reading ((token :: tokens).map Token.lexeme)) :
    Unfailing reading (tokens.map Token.lexeme) :=
  unfailing.mono fun _ member => List.mem_cons_of_mem _ member

theorem readOperands_refuses {left : Lexeme} {tokens : List Token}
    {failure : Failure} (isValue : left.isValue = true)
    (unfailing : Unfailing reading (left :: tokens.map Token.lexeme))
    (failed : readOperands reading left tokens = .error failure) :
    ∃ refusal : Refusal, failure = refusal.failure := by
  obtain ⟨leftValue, leftRead⟩ := unfailing.readable left (by simp) isValue
  simp only [readOperands, leftRead, ok_bind] at failed
  split at failed
  · split at failed
    · exact ⟨_, (Except.error.inj failed).symm⟩
    · split at failed
      case isTrue comparison _ _ right _ rightIsValue =>
        obtain ⟨rightValue, rightRead⟩ := unfailing.readable right.lexeme (by simp) rightIsValue
        obtain ⟨truth, holds⟩ := unfailing.comparable left (by simp) right.lexeme (by simp)
          isValue rightIsValue leftValue rightValue leftRead rightRead comparison
        simp [rightRead, holds] at failed
      case isFalse => exact ⟨_, (Except.error.inj failed).symm⟩
  · simp at failed

mutual

theorem readDisjunction_refuses : (fuel : Nat) → {tokens : List Token} → {failure : Failure} →
    Unfailing reading (tokens.map Token.lexeme) →
    readDisjunction reading fuel tokens = .error failure →
    ∃ refusal : Refusal, failure = refusal.failure
  | 0, _, _, _, failed => ⟨_, (Except.error.inj failed).symm⟩
  | fuel + 1, _, _, unfailing, failed => by
      simp only [readDisjunction, bind_eq_error_iff] at failed
      obtain failed | ⟨⟨first, middle⟩, firstRead, failed⟩ := failed
      · exact readConjunction_refuses fuel unfailing failed
      · exact readAlternatives_refuses fuel
          (unfailing.rest (readConjunction_sound fuel firstRead)) failed

theorem readAlternatives_refuses : (fuel : Nat) → {tokens : List Token} → {truth : Bool} →
    {failure : Failure} → Unfailing reading (tokens.map Token.lexeme) →
    readAlternatives reading fuel truth tokens = .error failure →
    ∃ refusal : Refusal, failure = refusal.failure
  | fuel, tokens, truth, failure, unfailing, failed => by
      unfold readAlternatives at failed
      split at failed
      case h_1 _ fuel _ tokens =>
        simp only [bind_eq_error_iff] at failed
        obtain failed | ⟨⟨next, middle⟩, nextRead, failed⟩ := failed
        · exact readConjunction_refuses fuel unfailing.tail failed
        · exact readAlternatives_refuses fuel
            (unfailing.tail.rest (readConjunction_sound fuel nextRead)) failed
      case h_2 => simp at failed

theorem readConjunction_refuses : (fuel : Nat) → {tokens : List Token} → {failure : Failure} →
    Unfailing reading (tokens.map Token.lexeme) →
    readConjunction reading fuel tokens = .error failure →
    ∃ refusal : Refusal, failure = refusal.failure
  | 0, _, _, _, failed => ⟨_, (Except.error.inj failed).symm⟩
  | fuel + 1, _, _, unfailing, failed => by
      simp only [readConjunction, bind_eq_error_iff] at failed
      obtain failed | ⟨⟨first, middle⟩, firstRead, failed⟩ := failed
      · exact readComparand_refuses fuel unfailing failed
      · exact readFurther_refuses fuel
          (unfailing.rest (readComparand_sound fuel firstRead)) failed

theorem readFurther_refuses : (fuel : Nat) → {tokens : List Token} → {truth : Bool} →
    {failure : Failure} → Unfailing reading (tokens.map Token.lexeme) →
    readFurther reading fuel truth tokens = .error failure →
    ∃ refusal : Refusal, failure = refusal.failure
  | fuel, tokens, truth, failure, unfailing, failed => by
      unfold readFurther at failed
      split at failed
      case h_1 _ fuel _ tokens =>
        simp only [bind_eq_error_iff] at failed
        obtain failed | ⟨⟨next, middle⟩, nextRead, failed⟩ := failed
        · exact readComparand_refuses fuel unfailing.tail failed
        · exact readFurther_refuses fuel
            (unfailing.tail.rest (readComparand_sound fuel nextRead)) failed
      case h_2 => simp at failed

theorem readComparand_refuses : (fuel : Nat) → {tokens : List Token} → {failure : Failure} →
    Unfailing reading (tokens.map Token.lexeme) →
    readComparand reading fuel tokens = .error failure →
    ∃ refusal : Refusal, failure = refusal.failure
  | 0, _, _, _, failed => ⟨_, (Except.error.inj failed).symm⟩
  | _ + 1, [], _, _, failed => ⟨_, (Except.error.inj failed).symm⟩
  | fuel + 1, ⟨lexeme, position⟩ :: tokens, _, unfailing, failed => by
      unfold readComparand at failed
      split at failed
      case h_1 =>
        simp only [bind_eq_error_iff, reduceCtorEq, and_false, exists_false, or_false] at failed
        exact readComparand_refuses fuel unfailing.tail failed
      case h_2 =>
        simp only [bind_eq_error_iff] at failed
        obtain failed | ⟨_, _, failed⟩ := failed
        · exact readDisjunction_refuses fuel unfailing.tail failed
        · split at failed
          · simp at failed
          · exact ⟨_, (Except.error.inj failed).symm⟩
      case h_3 =>
        split at failed
        case isTrue isValue => exact readOperands_refuses isValue unfailing failed
        case isFalse => exact ⟨_, (Except.error.inj failed).symm⟩

end

/-- Where values can be read and compared, only the grammar refuses. -/
theorem verdict_refuses {tokens : List Token} {failure : Failure}
    (unfailing : Unfailing reading (tokens.map Token.lexeme))
    (failed : verdict reading tokens = .error failure) :
    ∃ refusal : Refusal, failure = refusal.failure := by
  unfold verdict at failed
  split at failed
  · exact ⟨_, (Except.error.inj failed).symm⟩
  · simp only [bind_eq_error_iff] at failed
    obtain failed | ⟨_, _, failed⟩ := failed
    · exact readDisjunction_refuses _ unfailing failed
    · split at failed
      · simp at failed
      · exact ⟨_, (Except.error.inj failed).symm⟩

mutual

theorem Disjunction.exists_truth {lexemes : List Lexeme} {formula : Formula} :
    Disjunction lexemes formula → Unfailing reading lexemes →
    ∃ truth, formula.denote reading = .ok truth
  | .single derived, unfailing => derived.exists_truth unfailing
  | .either left right, unfailing => by
      obtain ⟨leftTruth, leftDenoted⟩ := left.exists_truth (unfailing.mono (by simp +contextual))
      obtain ⟨rightTruth, rightDenoted⟩ :=
        right.exists_truth (unfailing.mono (by simp +contextual))
      exact ⟨leftTruth || rightTruth,
        by simp only [Formula.denote, leftDenoted, rightDenoted, ok_bind]⟩

theorem Conjunction.exists_truth {lexemes : List Lexeme} {formula : Formula} :
    Conjunction lexemes formula → Unfailing reading lexemes →
    ∃ truth, formula.denote reading = .ok truth
  | .single derived, unfailing => derived.exists_truth unfailing
  | .both left right, unfailing => by
      obtain ⟨leftTruth, leftDenoted⟩ := left.exists_truth (unfailing.mono (by simp +contextual))
      obtain ⟨rightTruth, rightDenoted⟩ :=
        right.exists_truth (unfailing.mono (by simp +contextual))
      exact ⟨leftTruth && rightTruth,
        by simp only [Formula.denote, leftDenoted, rightDenoted, ok_bind]⟩

theorem Comparand.exists_truth {lexemes : List Lexeme} {formula : Formula} :
    Comparand lexemes formula → Unfailing reading lexemes →
    ∃ truth, formula.denote reading = .ok truth
  | .value isValue, unfailing => by
      obtain ⟨value, read⟩ := unfailing.readable _ (List.mem_singleton_self _) isValue
      exact ⟨value.truthy, by simp only [Formula.denote, read, map_ok]⟩
  | @Comparand.compare _ _ comparison leftIsValue rightIsValue, unfailing => by
      obtain ⟨leftValue, leftRead⟩ := unfailing.readable _ (by simp) leftIsValue
      obtain ⟨rightValue, rightRead⟩ := unfailing.readable _ (by simp) rightIsValue
      obtain ⟨truth, holds⟩ := unfailing.comparable _ (by simp) _ (by simp) leftIsValue
        rightIsValue leftValue rightValue leftRead rightRead comparison
      exact ⟨truth, by simp only [Formula.denote, leftRead, rightRead, ok_bind, holds]⟩
  | .negation derived, unfailing => by
      obtain ⟨truth, denoted⟩ := derived.exists_truth (unfailing.mono (by simp +contextual))
      exact ⟨!truth, by simp only [Formula.denote, denoted, map_ok]⟩
  | .parentheses derived, unfailing =>
      derived.exists_truth (unfailing.mono (by simp +contextual))

end

/-- The verdict has the truth of the one derivation of its tokens, and it is refused where there is
no derivation. -/
theorem verdict_decides_grammar (tokens : List Token)
    (unfailing : Unfailing literalValue (tokens.map Token.lexeme)) :
    (∀ truth, verdict literalValue tokens = .ok truth ↔
      ∃ tree : DisjunctionTree, tree.lexemes = tokens.map Token.lexeme ∧
        tree.formula.denote literalValue = .ok truth) ∧
    (∀ tree other : DisjunctionTree, tree.lexemes = tokens.map Token.lexeme →
      other.lexemes = tokens.map Token.lexeme → tree = other) ∧
    ((∃ refusal : Refusal, verdict literalValue tokens = .error refusal.failure) ↔
      ¬ ∃ tree : DisjunctionTree, tree.lexemes = tokens.map Token.lexeme) := by
  refine ⟨fun truth => verdict_eq_ok_iff_exists_tree,
    fun tree other derived otherDerived => ?_, ?_⟩
  · exact DisjunctionTree.lexemes_injective (derived.trans otherDerived.symm)
  · constructor
    · rintro ⟨refusal, refused⟩ ⟨tree, same⟩
      have derived : Disjunction (tokens.map Token.lexeme) tree.formula := same ▸ tree.derives
      obtain ⟨truth, denoted⟩ := derived.exists_truth unfailing
      have decided := verdict_eq_ok_iff_exists_tree.mpr ⟨tree, same, denoted⟩
      rw [refused] at decided
      contradiction
    · intro underivable
      cases decided : verdict literalValue tokens with
      | ok truth =>
          obtain ⟨tree, same, _⟩ := verdict_eq_ok_iff_exists_tree.mp decided
          exact absurd ⟨tree, same⟩ underivable
      | error failure =>
          obtain ⟨refusal, rfl⟩ := verdict_refuses unfailing decided
          exact ⟨refusal, rfl⟩

theorem verdict_decides_negated_comparison :
    let tokens : List Token := [⟨.operator .negation, 0⟩, ⟨.word ['a'], 1⟩,
      ⟨.operator (.comparison .equal), 3⟩, ⟨.quoted ['\'', 'b', '\''], 6⟩]
    Unfailing literalValue (tokens.map Token.lexeme) ∧
      ∃ tree : DisjunctionTree, tree.lexemes = tokens.map Token.lexeme ∧
        tree.formula.denote literalValue = .ok true := by
  intro tokens
  have unfailing : Unfailing literalValue (tokens.map Token.lexeme) := by
    have texts (left right : String) (comparison : Comparison) :
        ∃ truth, comparison.holds (.text left) (.text right) = .ok truth := by
      cases comparison <;> exact ⟨_, rfl⟩
    simp only [tokens, List.map_cons, List.map_nil]
    constructor
    · simp only [List.mem_cons, List.not_mem_nil, or_false, forall_eq_or_imp, forall_eq]
      exact ⟨nofun, fun _ => ⟨_, rfl⟩, nofun, fun _ => ⟨_, rfl⟩⟩
    · simp only [List.mem_cons, List.not_mem_nil, or_false]
      rintro left (rfl | rfl | rfl | rfl) right (rfl | rfl | rfl | rfl) leftIsValue rightIsValue
        leftValue rightValue leftRead rightRead comparison <;>
      first
      | contradiction
      | cases leftRead; cases rightRead; exact texts _ _ comparison
  have decided : verdict literalValue tokens = .ok true :=
    toOption_eq_some_iff.mp (by decide +kernel +zetaReduce)
  exact ⟨unfailing, ((verdict_decides_grammar tokens unfailing).1 true).mp decided⟩

end Automation.Condition
