import Automation.Proofs.Fallible
import Automation.Proofs.Value.Data
import Automation.Value.Printing

/-!
Which values are printed.

Printing fails over one thing, an integer with too many digits. What counts as false holds no such
integer, so a default is printed in its place.
-/

namespace Automation.Value

/-- An integer is printed exactly where it is below a power of ten. -/
theorem isPrintableInteger_iff {number : Int} :
    isPrintableInteger number = true ↔ number.natAbs < Nat.pow 10 digitLimit := by
  rw [isPrintableInteger, decide_eq_true_eq, Decimal.digits, Nat.pow_eq,
    Nat.length_toDigits_le_iff (by decide) (by decide)]

theorem arePrintable_iff {items : List Value} :
    arePrintable items = true ↔ ∀ item ∈ items, item.isPrintable = true := by
  induction items with
  | nil => simp [arePrintable]
  | cons item rest inductionHypothesis => simp [arePrintable, inductionHypothesis]

theorem isPrintable_valueOf {fields : Fields} (printable : arePrintableFields fields = true)
    (name : String) : (Fields.valueOf name fields).isPrintable = true := by
  rw [Fields.valueOf]
  induction fields with
  | nil => rfl
  | cons field rest inductionHypothesis =>
      obtain ⟨key, value⟩ := field
      simp only [arePrintableFields, Bool.and_eq_true] at printable
      by_cases same : key = name
      · simpa [Entries.get?, same] using printable.1
      · simpa [Entries.get?, same] using inductionHypothesis printable.2

theorem arePrintableFields_fields {value : Value} (printable : value.isPrintable = true) :
    arePrintableFields value.fields = true := by
  cases value with
  | object fields => exact printable
  | _ => rfl

theorem isPrintable_of_not_truthy {value : Value} (empty : value.truthy = false) :
    value.isPrintable = true := by
  cases value with
  | int number =>
      have zero : number = 0 := by simpa [truthy] using empty
      rw [zero]
      decide
  | list items =>
      obtain rfl : items = [] := by simpa [truthy] using empty
      rfl
  | object fields =>
      obtain rfl : fields = [] := by simpa [truthy] using empty
      rfl
  | mapping bindings =>
      obtain rfl : bindings = [] := by simpa [truthy] using empty
      rfl
  | _ => rfl

/-- A text in place of a value that counts as false does not change whether the value is printed. -/
@[simp]
theorem isPrintable_orElse_text (value : Value) (characters : String) :
    (value.orElse (.text characters)).isPrintable = value.isPrintable := by
  unfold orElse
  split
  · rfl
  · next empty => exact (isPrintable_of_not_truthy (Bool.eq_false_iff.mpr empty)).symm

variable {value : Value} {failure : Failure}

theorem print_eq_ok (printable : value.isPrintable = true) : value.print = .ok value.display :=
  if_pos printable

theorem print_eq_error_iff :
    value.print = .error failure ↔ value.isPrintable = false ∧ failure = .unprintableInteger := by
  unfold print
  cases value.isPrintable <;> simp [eq_comm]

theorem printQuoted_eq_error_iff :
    value.printQuoted = .error failure ↔
      value.isPrintable = false ∧ failure = .unprintableInteger := by
  unfold printQuoted
  cases value.isPrintable <;> simp [eq_comm]

theorem failsOnly_print (value : Value) : FailsOnly (· = .unprintableInteger) value.print :=
  fun _ failed => (print_eq_error_iff.mp failed).2

theorem mapM_print_eq_ok {values : List Value}
    (printable : ∀ value ∈ values, value.isPrintable = true) :
    values.mapM print = .ok (values.map display) := by
  induction values with
  | nil => rfl
  | cons value rest inductionHypothesis =>
      rw [List.forall_mem_cons] at printable
      rw [List.mapM_cons, print_eq_ok printable.1, inductionHypothesis printable.2]
      rfl

end Automation.Value
