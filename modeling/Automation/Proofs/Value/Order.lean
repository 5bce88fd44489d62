import Automation.Proofs.Value.Data
import Automation.Proofs.Value.Name
import Mathlib.Data.List.Perm.Subperm

/-!
How equality and order of values fit together.

`order?` is the order of two values itself, where `ordered?` asks a test about it. Among values of
JSON without not-a-number, equality is symmetric, the order of two values turned around is the order
of the values turned around, and values of equal order are equal. Equal values have an order unless
they are null or objects.
-/

namespace Automation

namespace Value

/-- The scalars of JSON without not-a-number. -/
def isDefinedScalar : Value → Bool
  | .float (.notANumber _) => false
  | value => value.isJsonScalar

/-- The values that are built from these scalars. -/
def isDefined (value : Value) : Bool := value.consistsOf isDefinedScalar

mutual

/-- The order of two values; values without an order have none. -/
def order? : Value → Value → Option Ordering
  | .text left, .text right => some (compare left right)
  | .list left, .list right => orderItems? left right
  | left, right => compareNumbers? left right

/-- The order of two lists: that of their first different items, else that of their lengths. -/
def orderItems? : List Value → List Value → Option Ordering
  | [], [] => some .eq
  | [], _ :: _ => some .lt
  | _ :: _, [] => some .gt
  | left :: lefts, right :: rights =>
      if sameItem left right then orderItems? lefts rights else left.order? right

end

end Value

theorem Extended.swap_compare (left right : Extended) :
    (left.compare right).swap = right.compare left := by
  cases left <;> cases right <;> try rfl
  next first second =>
    simp only [compare]
    grind [Ordering.swap]

namespace Value

section Numbers

variable {left right : Value}

theorem compareNumbers?_swap (left right : Value) :
    (compareNumbers? left right).map Ordering.swap = compareNumbers? right left := by
  unfold compareNumbers?
  cases left.extended? <;> cases right.extended? <;> simp [Extended.swap_compare]

theorem isNumber_of_extended? {value : Value} (isNumber : value.extended? ≠ none) :
    value.isNumber = true := by
  cases value <;> first | rfl | exact absurd rfl isNumber

theorem compareNumbers?_eq_none (noNumbers : ¬(left.isNumber = true ∧ right.isNumber = true)) :
    compareNumbers? left right = none := by
  unfold compareNumbers?
  split
  · next leftIs rightIs =>
      exact absurd ⟨isNumber_of_extended? (by simp [leftIs]),
        isNumber_of_extended? (by simp [rightIs])⟩ noNumbers
  · rfl

theorem exists_extended? {value : Value} (defined : value.isDefined = true)
    (isNumber : value.isNumber = true) : ∃ exact, value.extended? = some exact := by
  cases value with
  | float number =>
      cases number with
      | infinite negative => cases negative <;> exact ⟨_, rfl⟩
      | finite negative magnitude => exact ⟨_, rfl⟩
      | notANumber payload => cases defined
  | bool truth | int number => exact ⟨_, rfl⟩
  | _ => cases isNumber

end Numbers

section Equality

variable {left right : Value} {lefts rights : Fields}

theorem isDefined_object_iff {fields : Fields} : (object fields).isDefined = true ↔
    (Entries.keys fields).Nodup ∧ ∀ field ∈ fields, field.2.isDefined = true := by
  simp [isDefined, consistsOf, fieldsConsistOf_iff]

theorem isDefined_cons_iff {items : List Value} : (list (left :: items)).isDefined = true ↔
    left.isDefined = true ∧ (list items).isDefined = true := by
  simp [isDefined, consistsOf, itemsConsistOf]

theorem equalItems_cons (left right : Value) (lefts rights : List Value) :
    equalItems (left :: lefts) (right :: rights) =
      (sameItem left right && equalItems lefts rights) := by
  rw [equalItems, sameItem]

/-- Among defined values the same item is an equal one. -/
theorem sameItem_eq (defined : left.isDefined = true) :
    sameItem left right = left.equals right := by
  have distinct : left.isSameNotANumber right = false := by
    unfold isSameNotANumber
    split
    · cases defined
    · rfl
  rw [sameItem, distinct, Bool.or_false]

theorem equalFields_iff : equalFields lefts rights = true ↔ ∀ field ∈ lefts, ∃ right,
    Entries.get? field.1 rights = some right ∧ sameItem field.2 right = true := by
  induction lefts with
  | nil => simp [equalFields]
  | cons field rest inductionHypothesis =>
      obtain ⟨name, left⟩ := field
      rw [equalFields, Bool.and_eq_true, inductionHypothesis, List.forall_mem_cons]
      cases Entries.get? name rights <;> simp [sameItem]

theorem sameItem_comm_of_equals (leftDefined : left.isDefined = true)
    (rightDefined : right.isDefined = true) (same : left.equals right = right.equals left) :
    sameItem left right = sameItem right left := by
  rw [sameItem_eq leftDefined, sameItem_eq rightDefined, same]

/-- What each field of an object has in another object with as many fields, each field of the other
has in the one. -/
theorem forall_fields_turned {p : Value → Value → Prop}
    (leftDistinct : (Entries.keys lefts).Nodup) (rightDistinct : (Entries.keys rights).Nodup)
    (asMany : lefts.length = rights.length)
    (each : ∀ field ∈ lefts, ∃ right,
      Entries.get? field.1 rights = some right ∧ p field.2 right) :
    ∀ field ∈ rights, ∃ left, Entries.get? field.1 lefts = some left ∧ p left field.2 := by
  have inside : Entries.keys lefts ⊆ Entries.keys rights := by
    intro name member
    obtain ⟨field, inLeft, rfl⟩ := List.mem_map.mp member
    obtain ⟨right, found, -⟩ := each field inLeft
    exact List.mem_map.mpr ⟨_, Entries.mem_of_get? found, rfl⟩
  have permuted : (Entries.keys lefts).Perm (Entries.keys rights) :=
    (leftDistinct.subperm inside).perm_of_length_le (by simp [Entries.keys, asMany])
  intro field member
  have inLeft : field.1 ∈ Entries.keys lefts :=
    permuted.mem_iff.mpr (List.mem_map_of_mem member)
  obtain ⟨⟨name, left⟩, inLeft, same⟩ := List.mem_map.mp inLeft
  obtain ⟨right, found, holds⟩ := each _ inLeft
  have here : Entries.get? field.1 rights = some field.2 := Entries.get?_of_mem rightDistinct member
  rw [← same] at here
  obtain rfl := Option.some.inj (found.symm.trans here)
  exact ⟨left, same ▸ Entries.get?_of_mem leftDistinct inLeft, holds⟩

theorem equals_of_no_pair (noNulls : left = .null → right = .null → False)
    (noTexts : ∀ first second, left = .text first → right = .text second → False)
    (noLists : ∀ first second, left = .list first → right = .list second → False)
    (noObjects : ∀ first second, left = .object first → right = .object second → False)
    (noMappings : ∀ first second, left = .mapping first → right = .mapping second → False)
    (noForeigns : ∀ first label second other,
      left = .foreign first label → right = .foreign second other → False) :
    left.equals right =
      (left.isNumber && right.isNumber && compareNumbers? left right == some .eq) := by
  rw [equals] <;> assumption

theorem equals_of_isNull (null : left.isNull = true ∨ right.isNull = true) :
    left.equals right = (left.isNull && right.isNull) := by
  cases left <;> cases right <;> simp_all [equals, isNull, isNumber]

theorem equals_comm (left right : Value) (leftDefined : left.isDefined = true)
    (rightDefined : right.isDefined = true) : left.equals right = right.equals left := by
  revert leftDefined rightDefined
  refine equals.induct
    (fun left right => left.isDefined = true → right.isDefined = true →
      left.equals right = right.equals left)
    (fun _ _ => True)
    (fun lefts _ => ∀ field ∈ lefts, field.2.isDefined = true → ∀ right : Value,
      right.isDefined = true → field.2.equals right = right.equals field.2)
    (fun lefts rights => (list lefts).isDefined = true → (list rights).isDefined = true →
      equalItems lefts rights = equalItems rights lefts)
    ?nulls ?texts ?lists ?objects ?mappings ?foreigns ?others
    (fun _ => trivial) (fun _ _ _ _ _ _ => trivial) ?noField ?fields ?noItems ?items ?uneven
    left right
  case nulls => exact fun _ _ => rfl
  case texts =>
    intro left right _ _
    rw [equals, equals, Bool.beq_comm]
  case lists =>
    intro lefts rights items leftDefined rightDefined
    rw [equals, equals]
    exact items leftDefined rightDefined
  case objects =>
    intro lefts rights fields leftDefined rightDefined
    obtain ⟨leftDistinct, leftDefined⟩ := isDefined_object_iff.mp leftDefined
    obtain ⟨rightDistinct, rightDefined⟩ := isDefined_object_iff.mp rightDefined
    have same (leftField rightField : String × Value) (inLeft : leftField ∈ lefts)
        (inRight : rightField ∈ rights) :
        sameItem leftField.2 rightField.2 = sameItem rightField.2 leftField.2 := by
      have leftValue := leftDefined leftField inLeft
      have rightValue := rightDefined rightField inRight
      exact sameItem_comm_of_equals leftValue rightValue
        (fields leftField inLeft leftValue rightField.2 rightValue)
    rw [equals, equals, Bool.eq_iff_iff]
    simp only [Bool.and_eq_true, beq_iff_eq, equalFields_iff]
    constructor
    · rintro ⟨asMany, each⟩
      refine ⟨asMany.symm, fun field member => ?_⟩
      obtain ⟨left, found, equal⟩ :=
        forall_fields_turned (p := fun left right => sameItem left right = true) leftDistinct
          rightDistinct asMany each field member
      exact ⟨left, found, same _ field (Entries.mem_of_get? found) member ▸ equal⟩
    · rintro ⟨asMany, each⟩
      refine ⟨asMany.symm, fun field member => ?_⟩
      obtain ⟨right, found, equal⟩ :=
        forall_fields_turned (p := fun left right => sameItem left right = true) rightDistinct
          leftDistinct asMany each field member
      exact ⟨right, found, (same field _ member (Entries.mem_of_get? found)).symm ▸ equal⟩
  case mappings => exact fun _ _ _ leftDefined => nomatch leftDefined
  case foreigns => exact fun _ _ _ _ leftDefined => nomatch leftDefined
  case others =>
    intro left right noNulls noTexts noLists noObjects noMappings noForeigns _ _
    have turned : (compareNumbers? right left == some .eq) =
        (compareNumbers? left right == some .eq) := by
      rw [← compareNumbers?_swap left right]
      cases compareNumbers? left right with
      | none => rfl
      | some order => cases order <;> rfl
    rw [equals_of_no_pair noNulls noTexts noLists noObjects noMappings noForeigns,
      equals_of_no_pair (flip noNulls) (fun _ _ => flip (noTexts _ _))
        (fun _ _ => flip (noLists _ _)) (fun _ _ => flip (noObjects _ _))
        (fun _ _ => flip (noMappings _ _)) (fun _ _ _ _ => flip (noForeigns _ _ _ _)), turned,
      Bool.and_comm right.isNumber]
  case noField => simp
  case fields =>
    intro name left rest fields first others field member
    rcases List.mem_cons.mp member with rfl | inRest
    · exact fun leftDefined right => first right leftDefined
    · exact others field inRest
  case noItems => exact fun _ _ => rfl
  case items =>
    intro left lefts right rights first others leftsDefined rightsDefined
    obtain ⟨leftDefined, leftsDefined⟩ := isDefined_cons_iff.mp leftsDefined
    obtain ⟨rightDefined, rightsDefined⟩ := isDefined_cons_iff.mp rightsDefined
    rw [equalItems_cons, equalItems_cons, others leftsDefined rightsDefined,
      sameItem_comm_of_equals leftDefined rightDefined (first leftDefined rightDefined)]
  case uneven =>
    intro lefts rights noItems noMore _ _
    cases lefts <;> cases rights <;> simp_all [equalItems]

theorem sameItem_comm (leftDefined : left.isDefined = true)
    (rightDefined : right.isDefined = true) : sameItem left right = sameItem right left :=
  sameItem_comm_of_equals leftDefined rightDefined (equals_comm left right leftDefined rightDefined)

end Equality

section Order

variable {left right : Value} {lefts rights : List Value}

theorem order?_of_no_pair
    (noTexts : ∀ first second, left = .text first → right = .text second → False)
    (noLists : ∀ first second, left = .list first → right = .list second → False) :
    left.order? right = compareNumbers? left right := by
  rw [order?] <;> assumption

theorem orderItems?_cons (left right : Value) (lefts rights : List Value) :
    orderItems? (left :: lefts) (right :: rights) =
      if sameItem left right then orderItems? lefts rights else left.order? right := rfl

theorem order?_eq_some_compare {first second : Extended} (leftIs : left.extended? = some first)
    (rightIs : right.extended? = some second) :
    left.order? right = some (first.compare second) := by
  rw [order?_of_no_pair (by rintro _ _ rfl; cases leftIs) (by rintro _ _ rfl; cases leftIs),
    compareNumbers?, leftIs, rightIs]

/-- The order of two values turned around is the order of the values turned around. -/
theorem order?_swap (left right : Value) (leftDefined : left.isDefined = true)
    (rightDefined : right.isDefined = true) :
    (left.order? right).map Ordering.swap = right.order? left := by
  revert leftDefined rightDefined
  refine order?.induct
    (fun left right => left.isDefined = true → right.isDefined = true →
      (left.order? right).map Ordering.swap = right.order? left)
    (fun lefts rights => (list lefts).isDefined = true → (list rights).isDefined = true →
      (orderItems? lefts rights).map Ordering.swap = orderItems? rights lefts)
    ?texts (fun _ _ items => items) ?others (fun _ _ => rfl) (fun _ _ _ _ => rfl)
    (fun _ _ _ _ => rfl) ?same ?different left right
  case texts =>
    intro left right _ _
    exact congrArg some Std.OrientedCmp.eq_swap.symm
  case others =>
    intro left right noTexts noLists _ _
    rw [order?_of_no_pair noTexts noLists,
      order?_of_no_pair (fun _ _ => flip (noTexts _ _)) (fun _ _ => flip (noLists _ _))]
    exact compareNumbers?_swap left right
  case same =>
    intro left lefts right rights same items leftsDefined rightsDefined
    obtain ⟨leftDefined, leftsDefined⟩ := isDefined_cons_iff.mp leftsDefined
    obtain ⟨rightDefined, rightsDefined⟩ := isDefined_cons_iff.mp rightsDefined
    rw [orderItems?_cons, orderItems?_cons, ← sameItem_comm leftDefined rightDefined, if_pos same,
      if_pos same]
    exact items leftsDefined rightsDefined
  case different =>
    intro left lefts right rights different first leftsDefined rightsDefined
    obtain ⟨leftDefined, -⟩ := isDefined_cons_iff.mp leftsDefined
    obtain ⟨rightDefined, -⟩ := isDefined_cons_iff.mp rightsDefined
    rw [orderItems?_cons, orderItems?_cons, ← sameItem_comm leftDefined rightDefined,
      if_neg different, if_neg different]
    exact first leftDefined rightDefined

/-- A test of the order of two values is a test of their order. -/
theorem ordered?_eq (test : Ordering → Bool) (left right : Value)
    (leftDefined : left.isDefined = true) (rightDefined : right.isDefined = true) :
    left.ordered? test right = (left.order? right).map test := by
  revert leftDefined rightDefined
  refine order?.induct
    (fun left right => left.isDefined = true → right.isDefined = true →
      left.ordered? test right = (left.order? right).map test)
    (fun lefts rights => (list lefts).isDefined = true → (list rights).isDefined = true →
      orderedItems? test lefts rights = (orderItems? lefts rights).map test)
    (fun _ _ _ _ => rfl) (fun _ _ items => items) ?others (fun _ _ => rfl) (fun _ _ _ _ => rfl)
    (fun _ _ _ _ => rfl) ?same ?different left right
  case others =>
    intro left right noTexts noLists leftDefined rightDefined
    have asked : left.ordered? test right =
        if left.isNumber && right.isNumber then some ((compareNumbers? left right).any test)
        else none := by
      rw [ordered?] <;> assumption
    rw [asked, order?_of_no_pair noTexts noLists]
    by_cases numbers : left.isNumber = true ∧ right.isNumber = true
    · obtain ⟨leftExact, leftIs⟩ := exists_extended? leftDefined numbers.1
      obtain ⟨rightExact, rightIs⟩ := exists_extended? rightDefined numbers.2
      have compared : compareNumbers? left right = some (leftExact.compare rightExact) := by
        rw [compareNumbers?, leftIs, rightIs]
      simp [numbers, compared]
    · rw [if_neg (by simpa using numbers), compareNumbers?_eq_none numbers, Option.map_none]
  case same =>
    intro left lefts right rights same items leftsDefined rightsDefined
    obtain ⟨-, leftsDefined⟩ := isDefined_cons_iff.mp leftsDefined
    obtain ⟨-, rightsDefined⟩ := isDefined_cons_iff.mp rightsDefined
    rw [orderedItems?, orderItems?_cons, if_pos same, if_pos same]
    exact items leftsDefined rightsDefined
  case different =>
    intro left lefts right rights different first leftsDefined rightsDefined
    obtain ⟨leftDefined, -⟩ := isDefined_cons_iff.mp leftsDefined
    obtain ⟨rightDefined, -⟩ := isDefined_cons_iff.mp rightsDefined
    rw [orderedItems?, orderItems?_cons, if_neg different, if_neg different]
    exact first leftDefined rightDefined

/-- Null and objects have no order. -/
theorem order?_eq_none (noOrder : ¬(left.isNull = false ∧ left.isObject = false)) :
    left.order? right = none := by
  have noNumber : left.isNumber = false := by
    cases left <;> simp_all [isNull, isObject, isNumber]
  rw [order?_of_no_pair (by rintro _ _ rfl; exact absurd ⟨rfl, rfl⟩ noOrder)
    (by rintro _ _ rfl; exact absurd ⟨rfl, rfl⟩ noOrder)]
  exact compareNumbers?_eq_none (by simp [noNumber])

theorem order?_of_isNull (null : left.isNull = true ∨ right.isNull = true) :
    left.order? right = none := by
  rcases null with null | null
  · exact order?_eq_none (by simp [null])
  · obtain rfl : right = .null := by cases right <;> first | rfl | cases null
    have unordered : left.order? .null = compareNumbers? left .null :=
      order?_of_no_pair nofun nofun
    rw [unordered]
    exact compareNumbers?_eq_none nofun

/-- Two values are of equal order exactly where they are equal and of a kind that has an order. -/
theorem order?_eq_eq_iff (left right : Value) (leftDefined : left.isDefined = true)
    (rightDefined : right.isDefined = true) :
    left.order? right = some .eq ↔
      left.equals right = true ∧ left.isNull = false ∧ left.isObject = false := by
  revert leftDefined rightDefined
  refine order?.induct
    (fun left right => left.isDefined = true → right.isDefined = true →
      (left.order? right = some .eq ↔
        left.equals right = true ∧ left.isNull = false ∧ left.isObject = false))
    (fun lefts rights => (list lefts).isDefined = true → (list rights).isDefined = true →
      (orderItems? lefts rights = some .eq ↔ equalItems lefts rights = true))
    ?texts ?lists ?others ?empty ?shorter ?longer ?same ?different left right
  case texts =>
    intro left right _ _
    simp [order?, equals, isNull, isObject]
  case lists =>
    intro lefts rights items leftDefined rightDefined
    rw [order?, equals, items leftDefined rightDefined]
    simp [isNull, isObject]
  case others =>
    intro left right noTexts noLists leftDefined rightDefined
    by_cases ordered : left.isNull = false ∧ left.isObject = false
    · rw [order?_of_no_pair noTexts noLists, and_iff_left ordered,
        equals_of_no_pair (by rintro rfl; cases ordered.1) noTexts noLists
          (by rintro _ _ rfl; cases ordered.2) (by rintro _ _ rfl; cases ordered.2)
          (by rintro _ _ _ _ rfl; cases leftDefined)]
      by_cases numbers : left.isNumber = true ∧ right.isNumber = true
      · simp [numbers]
      · simp [compareNumbers?_eq_none numbers]
    · simp [ordered, order?_eq_none ordered]
  case empty => simp [orderItems?, equalItems]
  case shorter => simp [orderItems?, equalItems]
  case longer => simp [orderItems?, equalItems]
  case same =>
    intro left lefts right rights same items leftsDefined rightsDefined
    obtain ⟨-, leftsDefined⟩ := isDefined_cons_iff.mp leftsDefined
    obtain ⟨-, rightsDefined⟩ := isDefined_cons_iff.mp rightsDefined
    rw [orderItems?_cons, equalItems_cons, if_pos same, same, Bool.true_and]
    exact items leftsDefined rightsDefined
  case different =>
    intro left lefts right rights different first leftsDefined rightsDefined
    obtain ⟨leftDefined, -⟩ := isDefined_cons_iff.mp leftsDefined
    obtain ⟨rightDefined, -⟩ := isDefined_cons_iff.mp rightsDefined
    rw [orderItems?_cons, equalItems_cons, if_neg different, first leftDefined rightDefined,
      ← sameItem_eq leftDefined]
    simp [different]

end Order

end Value

end Automation
