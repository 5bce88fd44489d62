import Automation.Run.Record
import Automation.Schema.Time

/-!
Run records as data from outside.
-/

namespace Automation.RunRecord

/-- A status by its name. -/
def readStatus : Value → FieldResult RunStatus
  | .text name =>
      match RunStatus.ofName? name with
      | some status => .ok status
      | none => .error .notAMember
  | _ => .error .notAMember

/-- The record that fields describe, of which the time of creation is given apart, or everything
that is wrong with them. The time of the last change is not kept. -/
def read (createdAt : Timestamp) (fields : Fields) : Except FieldFaults RunRecord :=
  let id := Field.required Field.readText "id" fields
  let automationId := Field.required Field.readText "automation_id" fields
  let status := Field.optional readStatus "status" .running fields
  let duration := Field.optional Field.readOptionalInteger "duration_ms" none fields
  let details := Field.optional Field.readObject "details_log" [] fields
  let updated := Field.optional Field.checkTime "updated_at" () fields
  match id, automationId, status, duration, details, updated with
  | .ok id, .ok automationId, .ok status, .ok duration, .ok details, .ok () =>
      .ok
        { id := id
          automationId := automationId
          status := status
          triggerData := (Entries.get? "trigger_data" fields).getD (.object [])
          durationMs := duration
          detailsLog := details
          createdAt := createdAt }
  | _, _, _, _, _, _ =>
      .error
        (id.faults "id" ++ automationId.faults "automation_id" ++ status.faults "status"
          ++ duration.faults "duration_ms" ++ details.faults "details_log"
          ++ updated.faults "updated_at")

/-- A record as the fields of an object. -/
def toFields (record : RunRecord) : Fields :=
  [("id", .text record.id), ("automation_id", .text record.automationId),
    ("status", .text record.status.name), ("trigger_data", record.triggerData),
    ("duration_ms", (record.durationMs.map Value.int).getD .null),
    ("details_log", .object record.detailsLog), ("is_finished", .bool record.isFinished)]

end Automation.RunRecord
