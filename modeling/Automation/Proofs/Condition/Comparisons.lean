import Automation.Condition.Comparison
import Automation.Proofs.Fallible
import Automation.Proofs.Value.Order

/-!
How the comparisons of conditions fit together.

`beside` is what an operand counts as next to another: a numeric text counts as its number next to a
number. A comparison asks the equality and the order of what its operands count as, so the verdicts
of all comparisons on two operands come from one equality and one order.
-/

namespace Automation

/-- Whether a value is a text that is a numeral, up to white space around it. -/
def Value.isNumericText : Value → Bool
  | .text characters => (Numeral.read? (Text.trim characters.toList)).isSome
  | _ => false

/-- If a value is the text of an integer, it has no more digits than an integer is read from. -/
def Value.KeepsDigitLimit (value : Value) : Prop :=
  ∀ characters numeral, value = .text characters →
    Numeral.read? (Text.trim characters.toList) = some numeral →
      numeral.fraction = none → numeral.whole.length ≤ digitLimit

theorem Binary64.isDefined_ofQuotient (negative : Bool) (numerator denominator : Nat) :
    (Value.float (ofQuotient negative numerator denominator)).isDefined = true := by
  fun_cases ofQuotient negative numerator denominator <;> rfl

theorem Binary64.isDefined_ofDecimal (negative : Bool) (coefficient : Nat) (exponent : Int) :
    (Value.float (ofDecimal negative coefficient exponent)).isDefined = true := by
  fun_cases ofDecimal negative coefficient exponent
  case case4 => exact isDefined_ofQuotient ..
  all_goals rfl

namespace Numeral

variable {numeral : Numeral}

/-- The value of a numeral that is not too long is a number. -/
theorem exists_value (short : numeral.fraction = none → numeral.whole.length ≤ digitLimit) :
    ∃ number, numeral.value = .ok number ∧ number.isNumber = true ∧ number.isDefined = true := by
  obtain ⟨negative, whole, fraction⟩ := numeral
  cases fraction with
  | some fraction => exact ⟨_, rfl, rfl, Binary64.isDefined_ofDecimal ..⟩
  | none =>
      have read : integerOfDigits negative whole =
          .ok (if negative then -(ofDigits whole : Int) else ofDigits whole) :=
        if_neg (Nat.not_lt.mpr (short rfl))
      exact ⟨.int _, by rw [value, read]; rfl, rfl, rfl⟩

end Numeral

namespace Condition

variable {left right countedLeft countedRight other operand counted : Value}

/-- What an operand counts as next to another one. -/
def beside (other : Value) : Value → Except Failure Value
  | .text characters =>
      if other.isNumber then do .ok ((← numericText? characters).getD (.text characters))
      else .ok (.text characters)
  | operand => .ok operand

theorem beside_of_not_isNumber (noNumber : other.isNumber = false) :
    beside other operand = .ok operand := by
  cases operand <;> simp [beside, noNumber]

theorem beside_text (characters : String) : beside (.text characters) operand = .ok operand :=
  beside_of_not_isNumber rfl

theorem beside_of_not_isNumericText (noNumeral : operand.isNumericText = false) :
    beside other operand = .ok operand := by
  cases operand with
  | text characters =>
      have unread : Numeral.read? (Text.trim characters.toList) = none := by
        simpa [Value.isNumericText] using noNumeral
      simp [beside, numericText?, unread]
  | _ => rfl

/-- A readable numeric text counts as a number next to a number. -/
theorem exists_beside (number : other.isNumber = true) (numeral : operand.isNumericText = true)
    (readable : operand.KeepsDigitLimit) :
    ∃ value, beside other operand = .ok value ∧ value.isNumber = true ∧ value.isDefined = true := by
  cases operand with
  | text characters =>
      obtain ⟨numeral, read⟩ := Option.isSome_iff_exists.mp numeral
      obtain ⟨value, isValue, known⟩ := numeral.exists_value (readable characters numeral rfl read)
      exact ⟨value, by simp [beside, numericText?, number, read, isValue], known⟩
  | _ => cases numeral

theorem isNumericText_of_not_text (noText : ∀ characters, operand = .text characters → False) :
    operand.isNumericText = false := by
  cases operand with
  | text characters => exact absurd rfl (noText characters)
  | _ => rfl

/-- Both operands of a comparison are read as what they count as. -/
theorem coerce_eq (left right : Value) : coerce left right =
    beside right left >>= fun countedLeft =>
      beside left right >>= fun countedRight => .ok (countedLeft, countedRight) := by
  fun_cases coerce left right
  case case1 characters number =>
    rw [beside_text, beside, if_pos number]
    cases numericText? characters <;> rfl
  case case2 characters noNumber =>
    rw [beside_text, beside_of_not_isNumber (by simpa using noNumber)]
    rfl
  case case3 characters noText number =>
    rw [beside_text, beside, if_pos number]
    cases numericText? characters <;> rfl
  case case4 characters noText noNumber =>
    rw [beside_text, beside_of_not_isNumber (by simpa using noNumber)]
    rfl
  case case5 noTextLeft noTextRight =>
    rw [beside_of_not_isNumericText (isNumericText_of_not_text noTextLeft),
      beside_of_not_isNumericText (isNumericText_of_not_text noTextRight)]
    rfl

/-- What an operand counts as is the operand itself, or a number for a numeric text. -/
structure CountsAs (other operand counted : Value) : Prop where
  beside_eq : beside other operand = .ok counted
  isDefined : counted.isDefined = true
  isNull : counted.isNull = operand.isNull
  isObject : counted.isObject = operand.isObject
  eq_self : other.isNumber = false ∨ operand.isNumericText = false → counted = operand
  isNumber : other.isNumber = true → operand.isNumericText = true → counted.isNumber = true

theorem exists_countsAs (defined : operand.isDefined = true) (readable : operand.KeepsDigitLimit)
    (other : Value) : ∃ counted, CountsAs other operand counted := by
  by_cases read : other.isNumber = true ∧ operand.isNumericText = true
  · obtain ⟨value, counts, number, valueDefined⟩ := exists_beside read.1 read.2 readable
    obtain ⟨noNull, noObject⟩ : value.isNull = false ∧ value.isObject = false := by
      cases value <;> first | exact ⟨rfl, rfl⟩ | cases number
    obtain ⟨textNoNull, textNoObject⟩ : operand.isNull = false ∧ operand.isObject = false := by
      cases operand <;> first | exact ⟨rfl, rfl⟩ | cases read.2
    exact ⟨value, counts, valueDefined, by rw [noNull, textNoNull], by rw [noObject, textNoObject],
      by simp [read], fun _ _ => number⟩
  · have unchanged : beside other operand = .ok operand := by
      cases number : other.isNumber with
      | false => exact beside_of_not_isNumber number
      | true => exact beside_of_not_isNumericText (by simpa [number] using read)
    exact ⟨operand, unchanged, defined, rfl, rfl, fun _ => rfl,
      fun number numeral => absurd ⟨number, numeral⟩ read⟩

theorem coerce_of_countsAs (countsLeft : CountsAs right left countedLeft)
    (countsRight : CountsAs left right countedRight) :
    coerce left right = .ok (countedLeft, countedRight) := by
  rw [coerce_eq, countsLeft.beside_eq, countsRight.beside_eq]
  rfl

theorem isNumericText_of_isNumber (number : operand.isNumber = true) :
    operand.isNumericText = false := by
  cases operand <;> first | rfl | cases number

theorem CountsAs.eq_of_isNumber (counts : CountsAs other operand counted)
    (number : operand.isNumber = true) : counted = operand :=
  counts.eq_self (.inr (isNumericText_of_isNumber number))

section Verdicts

variable {equal : Bool} {order : Option Ordering} {p : Prop}

/-- What the comparisons say of operands that are equal or not, and that have an order or none. -/
def verdictOf (equal : Bool) (order : Option Ordering) : Comparison → Bool
  | .equal => equal
  | .notEqual => !equal
  | .greater => order.any (· == .gt)
  | .less => order.any (· == .lt)
  | .atLeast => order.any (· != .lt)
  | .atMost => order.any (· != .gt)

/-- The comparison that says of two operands what the given one says of them turned around. -/
def Comparison.converse : Comparison → Comparison
  | .greater => .less
  | .less => .greater
  | .atLeast => .atMost
  | .atMost => .atLeast
  | comparison => comparison

theorem verdictOf_converse (equal : Bool) (order : Option Ordering) (comparison : Comparison) :
    verdictOf equal order comparison.converse =
      verdictOf equal (order.map Ordering.swap) comparison := by
  rcases order with _ | _ | _ | _ <;> cases comparison <;> rfl

theorem verdictOf_atMost_iff (equalOrder : order = some .eq ↔ equal = true ∧ p) :
    verdictOf equal order .atMost = true ↔
      verdictOf equal order .less = true ∨ (verdictOf equal order .equal = true ∧ p) := by
  simp only [verdictOf, ← equalOrder]
  rcases order with _ | _ | _ | _ <;> simp

/-- How many of the three comparisons hold that exclude one another. -/
def countHolding (verdict : Comparison → Bool) : Nat :=
  [Comparison.less, .equal, .greater].countP verdict

theorem countHolding_le_one (equalOrder : order = some .eq ↔ equal = true ∧ p)
    (kind : order ≠ none → p) : countHolding (verdictOf equal order) ≤ 1 := by
  rcases order with _ | _ | _ | _ <;> cases equal <;>
    simp_all [countHolding, verdictOf, List.countP_cons]

theorem countHolding_eq_one (equalOrder : order = some .eq ↔ equal = true ∧ p)
    (kind : order ≠ none → p) (ordered : order ≠ none) :
    countHolding (verdictOf equal order) = 1 := by
  rcases order with _ | _ | _ | _ <;> cases equal <;>
    simp_all [countHolding, verdictOf, List.countP_cons]

end Verdicts

section Operands

theorem looselyEqual_eq (countsLeft : CountsAs right left countedLeft)
    (countsRight : CountsAs left right countedRight) :
    looselyEqual left right = .ok (countedLeft.equals countedRight) := by
  by_cases null : left.isNull = true ∨ right.isNull = true
  · have counted : countedLeft.isNull = true ∨ countedRight.isNull = true := by
      rwa [countsLeft.isNull, countsRight.isNull]
    rw [looselyEqual, if_pos (by simpa using null), Value.equals_of_isNull counted,
      countsLeft.isNull, countsRight.isNull]
  · rw [looselyEqual, if_neg (by simpa using null),
      coerce_of_countsAs countsLeft countsRight, ok_bind]

theorem looselyOrdered_eq (test : Ordering → Bool) (countsLeft : CountsAs right left countedLeft)
    (countsRight : CountsAs left right countedRight) :
    looselyOrdered test left right = .ok ((countedLeft.order? countedRight).any test) := by
  by_cases null : left.isNull = true ∨ right.isNull = true
  · have counted : countedLeft.isNull = true ∨ countedRight.isNull = true := by
      rwa [countsLeft.isNull, countsRight.isNull]
    rw [looselyOrdered, if_pos (by simpa using null), Value.order?_of_isNull counted,
      Option.any_none]
  · rw [looselyOrdered, if_neg (by simpa using null),
      coerce_of_countsAs countsLeft countsRight, ok_bind]
    dsimp only
    rw [Value.ordered?_eq test _ _ countsLeft.isDefined countsRight.isDefined]
    cases countedLeft.order? countedRight <;> rfl

theorem holds_eq (countsLeft : CountsAs right left countedLeft)
    (countsRight : CountsAs left right countedRight) (comparison : Comparison) :
    comparison.holds left right =
      .ok (verdictOf (countedLeft.equals countedRight) (countedLeft.order? countedRight)
        comparison) := by
  have equality := looselyEqual_eq countsLeft countsRight
  cases comparison with
  | equal => exact equality
  | notEqual => rw [Comparison.holds, equality, map_ok, verdictOf]
  | _ => exact looselyOrdered_eq _ countsLeft countsRight

theorem compareBy_symbol (comparison : Comparison) (left right : Value) :
    compareBy (String.ofList comparison.symbol) left right = comparison.holds left right := by
  have known : Comparison.ofSymbol? comparison.symbol = some comparison := by
    cases comparison <;> rfl
  rw [compareBy, String.toList_ofList, known]

/-- Neither of two operands is null or an object. -/
def AreOrderable (left right : Value) : Prop :=
  ∀ operand ∈ [left, right], operand.isNull = false ∧ operand.isObject = false

theorem areOrderable_iff : AreOrderable left right ↔
    (left.isNull = false ∧ left.isObject = false)
      ∧ right.isNull = false ∧ right.isObject = false := by
  simp [AreOrderable]

/-- Operands of equal order are those that are equal and of a kind that has an order. -/
theorem order?_eq_eq_iff (leftDefined : left.isDefined = true)
    (rightDefined : right.isDefined = true) :
    left.order? right = some .eq ↔ left.equals right = true ∧ AreOrderable left right := by
  rw [areOrderable_iff]
  constructor
  · intro same
    have turned : right.order? left = some .eq := by
      rw [← Value.order?_swap left right leftDefined rightDefined, same]
      rfl
    obtain ⟨equal, leftKind⟩ :=
      (Value.order?_eq_eq_iff left right leftDefined rightDefined).mp same
    obtain ⟨-, rightKind⟩ := (Value.order?_eq_eq_iff right left rightDefined leftDefined).mp turned
    exact ⟨equal, leftKind, rightKind⟩
  · intro ⟨equal, leftKind, _⟩
    exact (Value.order?_eq_eq_iff left right leftDefined rightDefined).mpr ⟨equal, leftKind⟩

theorem areOrderable_of_order? (leftDefined : left.isDefined = true)
    (rightDefined : right.isDefined = true) (ordered : left.order? right ≠ none) :
    AreOrderable left right := by
  rw [areOrderable_iff]
  constructor <;> refine Classical.byContradiction fun noOrder => ordered ?_
  · exact Value.order?_eq_none noOrder
  · rw [← Value.order?_swap right left rightDefined leftDefined, Value.order?_eq_none noOrder]
    rfl

theorem order?_ne_none_of_numbers (leftDefined : left.isDefined = true)
    (rightDefined : right.isDefined = true) (leftNumber : left.isNumber = true)
    (rightNumber : right.isNumber = true) : left.order? right ≠ none := by
  obtain ⟨leftExact, leftIs⟩ := Value.exists_extended? leftDefined leftNumber
  obtain ⟨rightExact, rightIs⟩ := Value.exists_extended? rightDefined rightNumber
  rw [Value.order?_eq_some_compare leftIs rightIs]
  exact Option.some_ne_none _

theorem CountsAs.areOrderable_iff (countsLeft : CountsAs right left countedLeft)
    (countsRight : CountsAs left right countedRight) :
    AreOrderable countedLeft countedRight ↔ AreOrderable left right := by
  simp only [Condition.areOrderable_iff, countsLeft.isNull, countsLeft.isObject,
    countsRight.isNull, countsRight.isObject]

end Operands

/-- The verdicts of all comparisons, each taken by its symbol. -/
def AreVerdicts (left right : Value) (verdict : Comparison → Bool) : Prop :=
  ∀ comparison : Comparison,
    compareBy (String.ofList comparison.symbol) left right = .ok (verdict comparison)

/-- Two operands that always have an order: two texts, two numbers, or a number and a numeric
text. -/
def AreComparable (left right : Value) : Prop :=
  (∃ first second, left = .text first ∧ right = .text second)
    ∨ (left.isNumber = true ∧ (right.isNumber = true ∨ right.isNumericText = true))
    ∨ (left.isNumericText = true ∧ right.isNumber = true)

/-- What the verdicts of all comparisons on two operands have to do with one another. -/
structure IsCoherent (left right : Value) (verdict : Comparison → Bool) : Prop where
  notEqual : verdict .notEqual = !verdict .equal
  exclusive : countHolding verdict ≤ 1
  exhaustive : AreComparable left right → countHolding verdict = 1
  atMost : verdict .atMost = true ↔
    verdict .less = true ∨ (verdict .equal = true ∧ AreOrderable left right)
  less_iff : ∀ first second, left.extended? = some first → right.extended? = some second →
    (verdict .less = true ↔ first.compare second = .lt)
  equal_iff : ∀ first second, left.extended? = some first → right.extended? = some second →
    (verdict .equal = true ↔ first = second)

theorem order?_ne_none_of_areComparable (countsLeft : CountsAs right left countedLeft)
    (countsRight : CountsAs left right countedRight) (comparable : AreComparable left right) :
    countedLeft.order? countedRight ≠ none := by
  rcases comparable with ⟨first, second, rfl, rfl⟩ | ⟨leftNumber, rightKind⟩ |
    ⟨leftNumeral, rightNumber⟩
  · obtain rfl := countsLeft.eq_self (.inl rfl)
    obtain rfl := countsRight.eq_self (.inl rfl)
    exact Option.some_ne_none _
  · obtain rfl := countsLeft.eq_of_isNumber leftNumber
    refine order?_ne_none_of_numbers countsLeft.isDefined countsRight.isDefined leftNumber ?_
    rcases rightKind with rightNumber | rightNumeral
    · exact countsRight.eq_of_isNumber rightNumber ▸ rightNumber
    · exact countsRight.isNumber leftNumber rightNumeral
  · obtain rfl := countsRight.eq_of_isNumber rightNumber
    exact order?_ne_none_of_numbers countsLeft.isDefined countsRight.isDefined
      (countsLeft.isNumber rightNumber leftNumeral) rightNumber

theorem isCoherent_verdictOf (countsLeft : CountsAs right left countedLeft)
    (countsRight : CountsAs left right countedRight) :
    IsCoherent left right
      (verdictOf (countedLeft.equals countedRight) (countedLeft.order? countedRight)) := by
  have equalOrder := order?_eq_eq_iff countsLeft.isDefined countsRight.isDefined
  have ordered := areOrderable_of_order? countsLeft.isDefined countsRight.isDefined
  rw [countsLeft.areOrderable_iff countsRight] at equalOrder ordered
  have exact {first second : Extended} (leftIs : left.extended? = some first)
      (rightIs : right.extended? = some second) :
      countedLeft.order? countedRight = some (first.compare second) := by
    rw [countsLeft.eq_of_isNumber (Value.isNumber_of_extended? (by simp [leftIs])),
      countsRight.eq_of_isNumber (Value.isNumber_of_extended? (by simp [rightIs]))]
    exact Value.order?_eq_some_compare leftIs rightIs
  refine ⟨rfl, countHolding_le_one equalOrder ordered,
    fun comparable => countHolding_eq_one equalOrder ordered
      (order?_ne_none_of_areComparable countsLeft countsRight comparable),
    verdictOf_atMost_iff equalOrder, fun first second leftIs rightIs => ?_,
    fun first second leftIs rightIs => ?_⟩
  · rw [verdictOf, exact leftIs rightIs, Option.any_some, beq_iff_eq]
  · have orderable := ordered (by simp [exact leftIs rightIs])
    rw [verdictOf, ← and_iff_left (a := countedLeft.equals countedRight = true) orderable,
      ← equalOrder, exact leftIs rightIs, Option.some.injEq, Extended.compare_eq_eq_iff]

/-- On any two values of JSON without not-a-number, whose texts are not numerals that are too long,
every comparison has a verdict; the verdicts on the values turned around are those of the converse
comparisons, and they fit together. -/
theorem comparisons_cohere (left right : Value) (leftDefined : left.isDefined = true)
    (rightDefined : right.isDefined = true) (leftLimit : left.KeepsDigitLimit)
    (rightLimit : right.KeepsDigitLimit) :
    ∃ verdict, AreVerdicts left right verdict
      ∧ AreVerdicts right left (fun comparison => verdict comparison.converse)
      ∧ IsCoherent left right verdict := by
  obtain ⟨countedLeft, countsLeft⟩ := exists_countsAs leftDefined leftLimit right
  obtain ⟨countedRight, countsRight⟩ := exists_countsAs rightDefined rightLimit left
  refine ⟨verdictOf (countedLeft.equals countedRight) (countedLeft.order? countedRight),
    fun comparison => ?_, fun comparison => ?_, isCoherent_verdictOf countsLeft countsRight⟩
  · rw [compareBy_symbol, holds_eq countsLeft countsRight]
  · have equal := Value.equals_comm countedLeft countedRight countsLeft.isDefined
      countsRight.isDefined
    have order := Value.order?_swap countedLeft countedRight countsLeft.isDefined
      countsRight.isDefined
    have turned : verdictOf (countedRight.equals countedLeft) (countedRight.order? countedLeft)
        comparison = verdictOf (countedLeft.equals countedRight)
          (countedLeft.order? countedRight) comparison.converse := by
      rw [verdictOf_converse, equal, order]
    rw [compareBy_symbol, holds_eq countsRight countsLeft, turned]

/-- A number next to a numeric text with blanks around it. -/
theorem two_and_ten_cohere :
    ((Value.int 2).isDefined = true ∧ (Value.text " 10 ").isDefined = true)
      ∧ ((Value.int 2).KeepsDigitLimit ∧ (Value.text " 10 ").KeepsDigitLimit)
      ∧ AreComparable (.int 2) (.text " 10 ")
      ∧ ∃ verdict, AreVerdicts (.int 2) (.text " 10 ") verdict
        ∧ AreVerdicts (.text " 10 ") (.int 2) (fun comparison => verdict comparison.converse)
        ∧ IsCoherent (.int 2) (.text " 10 ") verdict := by
  have ten : Numeral.read? (Text.trim " 10 ".toList) = some ⟨false, [1, 0], none⟩ := by decide
  have leftLimit : (Value.int 2).KeepsDigitLimit := nofun
  have rightLimit : (Value.text " 10 ").KeepsDigitLimit := by
    rintro characters numeral same read -
    obtain rfl := Value.text.inj same
    obtain rfl := Option.some.inj (ten.symm.trans read)
    decide
  exact ⟨⟨rfl, rfl⟩, ⟨leftLimit, rightLimit⟩, .inr (.inl ⟨rfl, .inr (by decide)⟩),
    comparisons_cohere _ _ rfl rfl leftLimit rightLimit⟩

end Condition

end Automation
