import Automation.Json.Reader
import Automation.Json.Writer
import Automation.Run.Store
import Automation.Timestamp.Reader

/-!
Run records as rows of a table.

The columns of a row are texts, and one is an integer of 64 bits: payload and details are written as
JSON, times by their text. So foreign values come back as texts, other names than texts as texts,
and a duration that does not fit is refused. Rows are listed by the text of their time.
-/

namespace Automation

/-- A row of the table of runs. -/
structure RunRow where
  id : String
  automationId : String
  status : String
  triggerData : List Char
  durationMs : Option Int
  detailsLog : List Char
  createdAt : List Char
  deriving DecidableEq, Repr, Inhabited

namespace RunRow

/-- The row of a record. -/
def ofRecord (record : RunRecord) : RunRow :=
  { id := record.id
    automationId := record.automationId
    status := record.status.name
    triggerData := Json.write record.triggerData
    durationMs := record.durationMs
    detailsLog := Json.write (.object record.detailsLog)
    createdAt := record.createdAt.text }

/-- The record of a row. -/
def toRecord? (row : RunRow) : Option RunRecord := do
  let status ← RunStatus.ofName? row.status
  let triggerData ← Json.read? row.triggerData
  let detailsLog ← (← Json.read? row.detailsLog).fields?
  let createdAt ← (Timestamp.read row.createdAt).toOption
  some ⟨row.id, row.automationId, status, triggerData, row.durationMs, detailsLog, createdAt⟩

end RunRow

/-- Rows in the order of their insertion. -/
abbrev TableStore := List RunRow

namespace TableStore

/-- Replace the row with the same id, which keeps its automation and its time; else insert a row at
the end. -/
def place (row : RunRow) : TableStore → TableStore
  | [] => [row]
  | existing :: rest =>
      if existing.id = row.id then
        { row with automationId := existing.automationId, createdAt := existing.createdAt } :: rest
      else existing :: place row rest

/-- Refuse a record that has no row: one whose payload or details are not written as JSON, or whose
duration fits no column. -/
def checkRecord (record : RunRecord) : Except Failure Unit := do
  Json.checkWritable record.triggerData
  Json.checkWritableFields record.detailsLog
  if record.durationMs.all fitsWord then .ok () else .error .columnOverflow

/-- Insert or replace the row of a record. A record that has no row leaves the table as it is. -/
def upsert (record : RunRecord) (rows : TableStore) : Except Failure Unit × TableStore :=
  match checkRecord record with
  | .ok () => (.ok (), place (RunRow.ofRecord record) rows)
  | .error failure => (.error failure, rows)

/-- The record with an id. -/
def get? (id : String) (rows : TableStore) : Option RunRecord :=
  (rows.find? fun row => row.id == id).bind RunRow.toRecord?

/-- Whether a filter wants a row. An empty automation id filters nothing. -/
def admits (filter : RunFilter) (row : RunRow) : Bool :=
  filter.automationId.all (fun id => id == "" || id == row.automationId)
    && filter.status.all (·.name == row.status)

/-- The wanted records, by the text of their time from the last to the first; records of the same
time stay in order. -/
def list (filter : RunFilter) (rows : TableStore) : List RunRecord :=
  ((rows.filter (admits filter)).mergeSort fun first second =>
    !(first.createdAt < second.createdAt)).filterMap RunRow.toRecord?

end TableStore

/-- A store in a table. -/
def tableStore : RunStore TableStore :=
  { upsert := TableStore.upsert
    get? := TableStore.get?
    list := TableStore.list
    announce := fun record =>
      [⟨.debug, s!"Stored run {record.id} with status {record.status.name}"⟩] }

end Automation
