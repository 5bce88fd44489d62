import Automation.Proofs.Run.Listing
import Automation.Proofs.Schema.Field
import Automation.Run.Schema

/-!
Run records as data from outside.

A record that is written as fields is read back as it was. Where a record is refused, the report
names each field at most once, in the order of the fields, with what reading it gave.
-/

namespace Automation.RunRecord

/-- The fields that are checked, in the order in which they are reported. -/
def checkedFields : List String :=
  ["id", "automation_id", "status", "duration_ms", "details_log", "updated_at"]

theorem readStatus_name (status : RunStatus) : readStatus (.text status.name) = .ok status := by
  rw [readStatus, TableStore.ofName?_name]

/-- A record is the one that its fields describe. -/
theorem read_toFields (record : RunRecord) :
    read record.createdAt record.toFields = .ok record := by
  have duration := Field.readOptionalInteger_written record.durationMs
  have status := readStatus_name record.status
  simp [read, toFields, Field.required, Field.optional, Entries.get?, Field.readText,
    Field.readObject, duration, status]

variable {createdAt : Timestamp} {fields : Fields} {record : RunRecord} {faults : FieldFaults}

theorem createdAt_of_read (success : read createdAt fields = .ok record) :
    record.createdAt = createdAt := by
  unfold read at success
  dsimp only at success
  split at success
  · cases success
    rfl
  · cases success

/-- A record that was read from fields is read back from its own, whatever was ignored. -/
theorem read_toFields_of_read (success : read createdAt fields = .ok record) :
    read createdAt record.toFields = .ok record := by
  rw [← createdAt_of_read success]
  exact read_toFields record

/-- A report says something, and it names no field twice and none out of order. -/
theorem faults_of_read (failed : read createdAt fields = .error faults) :
    faults ≠ [] ∧ (faults.map Prod.fst).Sublist checkedFields := by
  unfold read at failed
  dsimp only at failed
  split at failed
  · cases failed
  · next refused =>
      cases failed
      constructor
      · intro none
        simp only [List.append_eq_nil_iff, FieldResult.faults_eq_nil_iff] at none
        obtain ⟨⟨⟨⟨⟨⟨id, isId⟩, automationId, isAutomation⟩, status, isStatus⟩, duration,
          isDuration⟩, details, isDetails⟩, ⟨⟩, isUpdated⟩ := none
        exact refused _ _ _ _ _ isId isAutomation isStatus isDuration isDetails isUpdated
      · simp only [List.map_append, List.append_assoc]
        repeat apply FieldResult.append_sublist
        exact FieldResult.map_fst_faults_sublist

/-- The id of a record and the id of its automation have to be given, and each that is not is
reported. -/
theorem missing_of_read {name : String} (mandatory : name = "id" ∨ name = "automation_id")
    (absent : Entries.get? name fields = none) :
    ∃ faults, read createdAt fields = .error faults ∧ (name, FieldFault.missing) ∈ faults := by
  have missing : Field.required Field.readText name fields = .error .missing := by
    rw [Field.required, absent]
  unfold read
  rcases mandatory with rfl | rfl
  · simp [missing, FieldResult.faults]
  · simp only [missing]
    split
    · next impossible _ _ _ _ => cases impossible
    · exact ⟨_, rfl, by simp [FieldResult.faults]⟩

end Automation.RunRecord
