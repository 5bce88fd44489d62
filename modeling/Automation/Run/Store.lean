import Automation.Failure
import Automation.Logging.Level
import Automation.Run.Record

/-!
Stores of run records.

A store inserts a record or replaces the one with the same id, which keeps the time of its creation.
It lists records from the newest to the oldest. `MemoryStore` keeps records as they are.
-/

namespace Automation

/-- Which records are wanted: of one automation, of one status. -/
structure RunFilter where
  automationId : Option String
  status : Option RunStatus
  deriving DecidableEq, Repr

/-- All records. -/
def RunFilter.all : RunFilter := ⟨none, none⟩

/-- The operations of a store whose contents are of type `τ`. `announce` gives the lines that a
store logs about a record that it took. -/
structure RunStore (τ : Type) where
  upsert : RunRecord → τ → Except Failure Unit × τ
  get? : String → τ → Option RunRecord
  list : RunFilter → τ → List RunRecord
  announce : RunRecord → List Logging.Line

/-- Records in memory, under their ids. -/
abbrev MemoryStore := Entries RunRecord

namespace MemoryStore

/-- Insert a record, or replace the record with its id but for the time of its creation. -/
def upsert (record : RunRecord) (records : MemoryStore) : MemoryStore :=
  match Entries.get? record.id records with
  | some existing => Entries.put record.id { record with createdAt := existing.createdAt } records
  | none => Entries.put record.id record records

/-- Whether a filter wants a record. -/
def admits (filter : RunFilter) (record : RunRecord) : Bool :=
  filter.automationId.all (· == record.automationId) && filter.status.all (· == record.status)

/-- The wanted records, newest first; records of the same time stay in order. -/
def list (filter : RunFilter) (records : MemoryStore) : List RunRecord :=
  ((records.map Prod.snd).filter (admits filter)).mergeSort fun first second =>
    second.createdAt.instant ≤ first.createdAt.instant

end MemoryStore

/-- A store in memory. It takes every record. -/
def memoryStore : RunStore MemoryStore :=
  { upsert := fun record records => (.ok (), MemoryStore.upsert record records)
    get? := Entries.get?
    list := MemoryStore.list
    announce := fun _ => [] }

end Automation
