import Automation.Proofs.Fallible
import Automation.Schema.Field

/-!
What a field reader reports.

A fault stands under the name of its field, and a field without a fault reports nothing. So what
readers of several fields report is in the order of the fields, with no field twice.
-/

namespace Automation

namespace FieldResult

variable {α : Type} {name : String} {result : FieldResult α}

theorem faults_eq_nil_iff : result.faults name = [] ↔ ∃ value, result = .ok value := by
  cases result <;> simp [faults]

theorem mem_faults_iff {fault : String × FieldFault} :
    fault ∈ result.faults name ↔ fault.1 = name ∧ result = .error fault.2 := by
  obtain ⟨field, code⟩ := fault
  cases result with
  | ok value => simp [faults]
  | error found => simp [faults, eq_comm]

theorem map_fst_faults_sublist : ((result.faults name).map Prod.fst).Sublist [name] := by
  cases result with
  | ok value => exact List.nil_sublist _
  | error fault => exact List.Sublist.refl _

/-- What a further field reports stands before the rest. -/
theorem append_sublist {rest names : List String} (further : rest.Sublist names) :
    ((result.faults name).map Prod.fst ++ rest).Sublist (name :: names) :=
  map_fst_faults_sublist.append further

end FieldResult

namespace Field

variable {α : Type} {read : Value → FieldResult α} {name : String} {fields : Fields}

theorem optional_of_given {value : Value} (given : Entries.get? name fields = some value)
    (default : α) : optional read name default fields = read value := by
  rw [optional, given]

/-- What a field with a default gives is its default or was read. -/
theorem eq_default_or_read {default result : α}
    (success : optional read name default fields = .ok result) :
    result = default ∨ ∃ value, read value = .ok result := by
  unfold optional at success
  split at success
  · exact Or.inr ⟨_, success⟩
  · cases success
    exact Or.inl rfl

theorem readOptionalText_written (text : Option String) :
    readOptionalText ((text.map Value.text).getD .null) = .ok text := by
  cases text <;> rfl

theorem readOptionalInteger_written (number : Option Int) :
    readOptionalInteger ((number.map Value.int).getD .null) = .ok number := by
  cases number <;> rfl

end Field
end Automation
