import Automation.Value

/-!
The size of what is inside an object: recursion over values that looks fields up ends because of
these bounds.
-/

namespace Automation

namespace Fields

/-- What is bound in an object is smaller than the object. -/
theorem sizeOf_lt_of_get? {name : String} {fields : Fields} {value : Value}
    (found : Entries.get? name fields = some value) : sizeOf value < sizeOf fields := by
  induction fields with
  | nil => simp [Entries.get?] at found
  | cons entry rest inductionHypothesis =>
      obtain ⟨key, bound⟩ := entry
      by_cases same : key = name
      · simp only [Entries.get?, same, if_true, Option.some.injEq] at found
        subst found
        simp only [List.cons.sizeOf_spec, Prod.mk.sizeOf_spec]
        omega
      · simp only [Entries.get?, same, if_false] at found
        have smaller := inductionHypothesis found
        simp only [List.cons.sizeOf_spec]
        omega

/-- A field is no larger than the object. -/
theorem sizeOf_valueOf_le (name : String) (fields : Fields) :
    sizeOf (Fields.valueOf name fields) ≤ sizeOf fields := by
  unfold valueOf
  cases found : Entries.get? name fields with
  | some value => exact Nat.le_of_lt (sizeOf_lt_of_get? found)
  | none => cases fields <;> simp +arith

/-- An object inside an object is smaller. -/
theorem sizeOf_lt_of_valueOf {name : String} {fields block : Fields}
    (found : Fields.valueOf name fields = .object block) : sizeOf block < sizeOf fields := by
  have bound := sizeOf_valueOf_le name fields
  rw [found] at bound
  simp only [Value.object.sizeOf_spec] at bound
  omega

end Fields

/-- The fields of a value are no larger than the value. -/
theorem Value.sizeOf_fields_le (value : Value) : sizeOf value.fields ≤ sizeOf value := by
  cases value <;> simp [Value.fields] <;> omega

end Automation
