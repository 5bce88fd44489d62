import Automation.Proofs.Json.Writable
import Automation.Proofs.Timestamp.RoundTrip
import Automation.Run.Table
import Mathlib.Data.List.Induction

/-!
What a store holds after records were handed to it.

A record under an id is the last one that was taken under it, as far as a store replaces what it
holds, and what is under other ids plays no part. Both stores keep the time of the first record; a
table also keeps its automation.
-/

namespace Automation

/-- The contents of a store that took records one after the other. -/
inductive RunStore.Accepts {τ : Type} (store : RunStore τ) (start : τ) :
    List RunRecord → τ → Prop where
  | start : store.Accepts start [] start
  | upsert {records : List RunRecord} {record : RunRecord} {before after : τ}
      (accepts : store.Accepts start records before)
      (taken : store.upsert record before = (.ok (), after)) :
      store.Accepts start (records ++ [record]) after

/-- The records with an id, in order. -/
def recordsUnder (id : String) (records : List RunRecord) : List RunRecord :=
  records.filter fun record => record.id = id

/-- What the first and the last record with an id make, if there are any. -/
def mergedUnder {α : Type} (merge : RunRecord → RunRecord → α) (id : String)
    (records : List RunRecord) : Option α := do
  let first ← (recordsUnder id records).head?
  let last ← (recordsUnder id records).getLast?
  some (merge first last)

section

variable {α : Type} {merge : RunRecord → RunRecord → α} {id : String} {records : List RunRecord}
  {record : RunRecord}

theorem recordsUnder_eq_nil_iff :
    recordsUnder id records = [] ↔ ∀ record ∈ records, record.id ≠ id := by
  simp [recordsUnder]

theorem mem_of_mem_recordsUnder (member : record ∈ recordsUnder id records) :
    record ∈ records ∧ record.id = id := by
  simpa [recordsUnder] using member

theorem recordsUnder_concat_self (same : record.id = id) :
    recordsUnder id (records ++ [record]) = recordsUnder id records ++ [record] := by
  simp [recordsUnder, same]

theorem recordsUnder_concat_of_ne (different : record.id ≠ id) :
    recordsUnder id (records ++ [record]) = recordsUnder id records := by
  simp [recordsUnder, different]

theorem mergedUnder_concat_self (same : record.id = id) :
    mergedUnder merge id (records ++ [record]) =
      some (merge ((recordsUnder id records).head?.getD record) record) := by
  cases earlier : (recordsUnder id records).head? <;>
    simp [mergedUnder, recordsUnder_concat_self same, List.head?_append, earlier]

theorem mergedUnder_concat_of_ne (different : record.id ≠ id) :
    mergedUnder merge id (records ++ [record]) = mergedUnder merge id records := by
  rw [mergedUnder, mergedUnder, recordsUnder_concat_of_ne different]

theorem mergedUnder_eq_none_iff :
    mergedUnder merge id records = none ↔ ∀ record ∈ records, record.id ≠ id := by
  rw [← recordsUnder_eq_nil_iff]
  cases found : recordsUnder id records with
  | nil => simp [mergedUnder, found]
  | cons first rest => simp [mergedUnder, found, List.getLast?_cons]

/-- What comes from the first record alone does not change with further records. -/
theorem map_mergedUnder {β : Type} {f : α → β} {g : RunRecord → β}
    (kept : ∀ first last, f (merge first last) = g first) :
    (mergedUnder merge id records).map f = (recordsUnder id records).head?.map g := by
  cases found : recordsUnder id records with
  | nil => simp [mergedUnder, found]
  | cons first rest => simp [mergedUnder, found, List.getLast?_cons, kept]

theorem mergedUnder_eq_some {first last : RunRecord}
    (isFirst : (recordsUnder id records).head? = some first)
    (isLast : (recordsUnder id records).getLast? = some last) :
    mergedUnder merge id records = some (merge first last) := by
  simp [mergedUnder, isFirst, isLast]

theorem mergedUnder_eq_some_iff {merged : α} :
    mergedUnder merge id records = some merged ↔
      ∃ first last, (recordsUnder id records).head? = some first ∧
        (recordsUnder id records).getLast? = some last ∧ merge first last = merged := by
  simp [mergedUnder, Option.bind_eq_some_iff]

end

namespace MemoryStore

variable {id : String} {records : List RunRecord} {contents : MemoryStore}

/-- What is held of the first and the last record with an id. -/
def merge (first last : RunRecord) : RunRecord := { last with createdAt := first.createdAt }

theorem get?_upsert_self (record : RunRecord) (contents : MemoryStore) :
    Entries.get? record.id (upsert record contents) =
      some (((Entries.get? record.id contents).map (merge · record)).getD record) := by
  unfold upsert
  cases held : Entries.get? record.id contents <;> simp [merge]

theorem get?_upsert_of_ne {record : RunRecord} (different : record.id ≠ id) :
    Entries.get? id (upsert record contents) = Entries.get? id contents := by
  unfold upsert
  cases Entries.get? record.id contents <;> exact Entries.get?_put_of_ne different.symm _ _

theorem get?_of_accepts (accepts : memoryStore.Accepts [] records contents) (id : String) :
    Entries.get? id contents = mergedUnder merge id records := by
  induction accepts with
  | start => rfl
  | @upsert records record before after accepts taken inductionHypothesis =>
      obtain rfl : MemoryStore.upsert record before = after := congrArg Prod.snd taken
      by_cases same : record.id = id
      · subst same
        have existing : (mergedUnder merge record.id records).map (merge · record) =
            (recordsUnder record.id records).head?.map (merge · record) :=
          map_mergedUnder fun _ _ => rfl
        rw [get?_upsert_self, inductionHypothesis, existing, mergedUnder_concat_self rfl]
        exact congrArg some (Option.getD_map (merge · record) record _)
      · rw [get?_upsert_of_ne same, mergedUnder_concat_of_ne same, inductionHypothesis]

/-- A store in memory takes any records. -/
theorem accepts (records : List RunRecord) :
    memoryStore.Accepts [] records
      (records.foldl (fun contents record => upsert record contents) []) := by
  induction records using List.reverseRecOn with
  | nil => exact .start
  | append_singleton earlier record inductionHypothesis =>
      rw [List.foldl_append]
      exact .upsert inductionHypothesis rfl

end MemoryStore

namespace TableStore

variable {id : String} {records : List RunRecord} {row : RunRow} {rows : TableStore}

/-- The row that takes the place of another. -/
def inPlaceOf (existing row : RunRow) : RunRow :=
  { row with automationId := existing.automationId, createdAt := existing.createdAt }

/-- The row of the first and the last record with an id. -/
def merge (first last : RunRecord) : RunRow :=
  inPlaceOf (RunRow.ofRecord first) (RunRow.ofRecord last)

theorem find?_place_self (row : RunRow) (rows : TableStore) :
    (place row rows).find? (·.id == row.id) =
      some (((rows.find? (·.id == row.id)).map (inPlaceOf · row)).getD row) := by
  induction rows with
  | nil => simp [place]
  | cons existing rest inductionHypothesis =>
      by_cases same : existing.id = row.id <;>
        simp [place, same, inductionHypothesis, inPlaceOf]

theorem find?_place_of_ne (different : row.id ≠ id) :
    (place row rows).find? (·.id == id) = rows.find? (·.id == id) := by
  induction rows with
  | nil => simp [place, different]
  | cons existing rest inductionHypothesis =>
      by_cases same : existing.id = row.id
      · simp [place, same, different]
      · rw [place, if_neg same, List.find?_cons, List.find?_cons, inductionHypothesis]

theorem upsert_eq_ok_iff {record : RunRecord} {before after : TableStore} :
    upsert record before = (.ok (), after) ↔
      checkRecord record = .ok () ∧ place (RunRow.ofRecord record) before = after := by
  unfold upsert
  cases checkRecord record <;> simp

theorem find?_of_accepts (accepts : tableStore.Accepts [] records rows) (id : String) :
    rows.find? (·.id == id) = mergedUnder merge id records := by
  induction accepts with
  | start => rfl
  | @upsert records record before after accepts taken inductionHypothesis =>
      obtain ⟨_, rfl⟩ := upsert_eq_ok_iff.mp taken
      by_cases same : record.id = id
      · subst same
        have existing :
            (mergedUnder merge record.id records).map (inPlaceOf · (RunRow.ofRecord record)) =
              (recordsUnder record.id records).head?.map (merge · record) :=
          map_mergedUnder fun _ _ => rfl
        have placed : (place (RunRow.ofRecord record) before).find? (·.id == record.id) = _ :=
          find?_place_self (RunRow.ofRecord record) before
        rw [placed, show (RunRow.ofRecord record).id = record.id from rfl, inductionHypothesis,
          existing, mergedUnder_concat_self rfl]
        exact congrArg some (Option.getD_map (merge · record) record _)
      · rw [find?_place_of_ne same, mergedUnder_concat_of_ne same, inductionHypothesis]

/-- A table takes the records that it does not refuse, whatever it holds. -/
theorem accepts_of_checkRecord (checked : ∀ record ∈ records, checkRecord record = .ok ()) :
    tableStore.Accepts [] records
      (records.foldl (fun rows record => place (RunRow.ofRecord record) rows) []) := by
  induction records using List.reverseRecOn with
  | nil => exact .start
  | append_singleton earlier record inductionHypothesis =>
      rw [List.foldl_append]
      apply RunStore.Accepts.upsert
      · apply inductionHypothesis
        intro other member
        exact checked other (List.mem_append_left _ member)
      · exact upsert_eq_ok_iff.mpr ⟨checked record (by simp), rfl⟩

theorem checkRecord_of_mem (accepts : tableStore.Accepts [] records rows) :
    ∀ record ∈ records, checkRecord record = .ok () := by
  induction accepts with
  | start => exact nofun
  | upsert accepts taken inductionHypothesis =>
      intro record member
      rcases List.mem_append.mp member with earlier | last
      · exact inductionHypothesis record earlier
      · rw [List.mem_singleton.mp last]
        exact (upsert_eq_ok_iff.mp taken).1

end TableStore

/-- A record of which a row loses nothing: its payload and its details are legible, and its time has
a text. -/
structure RunRecord.IsLegible (record : RunRecord) : Prop where
  payload : record.triggerData.isLegible = true
  details : (Value.object record.detailsLog).isLegible = true
  time : record.createdAt.isValid = true

namespace TableStore

variable {record first last : RunRecord}

theorem checkRecord_eq_ok_iff (legible : record.IsLegible) :
    checkRecord record = .ok () ↔
      record.triggerData.isKept = true ∧ (Value.object record.detailsLog).isKept = true ∧
        record.durationMs.all fitsWord = true := by
  have payload := Json.checkWritable_eq_ok_iff record.triggerData legible.payload
  have details : Json.checkWritableFields record.detailsLog = .ok () ↔
      (Value.object record.detailsLog).isKept = true :=
    Json.checkWritable_eq_ok_iff (.object record.detailsLog) legible.details
  simp only [checkRecord, bind_eq_ok_iff, exists_const, payload, details]
  cases record.durationMs.all fitsWord <;> simp

theorem ofName?_name (status : RunStatus) : RunStatus.ofName? status.name = some status := by
  cases status <;> rfl

theorem toRecord?_merge (payload : last.triggerData.isKept = true)
    (details : (Value.object last.detailsLog).isKept = true)
    (time : first.createdAt.isValid = true) :
    (merge first last).toRecord? = some { last with
      automationId := first.automationId
      createdAt := first.createdAt.restored } := by
  have status := ofName?_name last.status
  have readPayload := Json.read?_write_of_isKept payload
  have readDetails := Json.read?_write_of_isKept details
  have readTime := Timestamp.read_text time
  simp [RunRow.toRecord?, merge, inPlaceOf, RunRow.ofRecord, status, readPayload, readDetails,
    Value.fields?, readTime]

theorem get?_of_accepts {records : List RunRecord} {rows : TableStore}
    (accepts : tableStore.Accepts [] records rows)
    (legible : ∀ record ∈ records, record.IsLegible) (id : String) :
    get? id rows = mergedUnder (fun first last => { last with
      automationId := first.automationId
      createdAt := first.createdAt.restored }) id records := by
  rw [get?, find?_of_accepts accepts id]
  cases merged : mergedUnder merge id records with
  | none => exact (mergedUnder_eq_none_iff.mpr (mergedUnder_eq_none_iff.mp merged)).symm
  | some row =>
      obtain ⟨first, last, isFirst, isLast, rfl⟩ := mergedUnder_eq_some_iff.mp merged
      have firstListed := (mem_of_mem_recordsUnder (List.mem_of_mem_head? isFirst)).1
      have lastListed := (mem_of_mem_recordsUnder (List.mem_of_mem_getLast? isLast)).1
      obtain ⟨payload, details, _⟩ := (checkRecord_eq_ok_iff (legible last lastListed)).mp
        (checkRecord_of_mem accepts last lastListed)
      rw [mergedUnder_eq_some isFirst isLast, Option.bind_some]
      exact toRecord?_merge payload details (legible first firstListed).time

end TableStore

/-- After records that a store took, an id that none of them has is not held. Any other id holds
the last record under it with the time of the first, and records under other ids play no part. A
table keeps the automation of the first record too, and it reads no offset below a second. -/
theorem get?_follows_upserts (records : List RunRecord) (id : String) :
    (∀ contents, memoryStore.Accepts [] records contents →
      (memoryStore.get? id contents = none ↔ ∀ record ∈ records, record.id ≠ id) ∧
        ∀ first last, (recordsUnder id records).head? = some first →
          (recordsUnder id records).getLast? = some last →
          memoryStore.get? id contents = some { last with createdAt := first.createdAt }) ∧
    ∀ rows, tableStore.Accepts [] records rows → (∀ record ∈ records, record.IsLegible) →
      (tableStore.get? id rows = none ↔ ∀ record ∈ records, record.id ≠ id) ∧
        ∀ first last, (recordsUnder id records).head? = some first →
          (recordsUnder id records).getLast? = some last →
          tableStore.get? id rows = some { last with
            automationId := first.automationId
            createdAt := first.createdAt.restored } := by
  constructor
  · intro contents accepts
    have held : memoryStore.get? id contents = mergedUnder MemoryStore.merge id records :=
      MemoryStore.get?_of_accepts accepts id
    rw [held]
    refine ⟨mergedUnder_eq_none_iff, ?_⟩
    intro first last isFirst isLast
    exact mergedUnder_eq_some isFirst isLast
  · intro rows accepts legible
    have held : tableStore.get? id rows = _ := TableStore.get?_of_accepts accepts legible id
    rw [held]
    refine ⟨mergedUnder_eq_none_iff, ?_⟩
    intro first last isFirst isLast
    exact mergedUnder_eq_some isFirst isLast

section

/-- A record of a run, of which everything else is plain. -/
def recordOf (id automationId : String) (status : RunStatus) (payload : Value) : RunRecord :=
  ⟨id, automationId, status, payload, none, [], ⟨2024, 2, 29, 12, 30, 0, 0, 3600000000⟩⟩

/-- One and a half. -/
def oneAndHalf : Binary64 := .finite false ⟨0x3FF8000000000000, by decide⟩

theorem recordOf_of_isKept {id automationId : String} {status : RunStatus} {payload : Value}
    (kept : payload.isKept = true) :
    (recordOf id automationId status payload).IsLegible ∧
      TableStore.checkRecord (recordOf id automationId status payload) = .ok () := by
  have legible : (recordOf id automationId status payload).IsLegible :=
    ⟨Value.isLegible_of_isKept kept, rfl, rfl⟩
  exact ⟨legible, (TableStore.checkRecord_eq_ok_iff legible).mpr ⟨kept, rfl, rfl⟩⟩

theorem get?_follows_upserts_of_interleaving :
    let ended := recordOf "run" "daily" .completed (.list [.float oneAndHalf, .int 7])
    let records := [recordOf "run" "daily" .running (.float oneAndHalf),
      recordOf "other" "hourly" .running .null, ended]
    ∃ contents rows, memoryStore.Accepts [] records contents ∧
      tableStore.Accepts [] records rows ∧ (∀ record ∈ records, record.IsLegible) ∧
      memoryStore.get? "run" contents = some ended ∧ tableStore.get? "run" rows = some ended ∧
      tableStore.get? "missing" rows = none := by
  intro ended records
  have storable : ∀ record ∈ records,
      record.IsLegible ∧ TableStore.checkRecord record = .ok () := by
    intro record member
    simp only [records, List.mem_cons, List.not_mem_nil, or_false] at member
    rcases member with rfl | rfl | rfl <;> exact recordOf_of_isKept (by decide +kernel)
  have legible := fun record member => (storable record member).1
  have inTable := TableStore.accepts_of_checkRecord fun record member => (storable record member).2
  have inMemory := MemoryStore.accepts records
  refine ⟨_, _, inMemory, inTable, legible, ?_, ?_, ?_⟩
  · exact ((get?_follows_upserts records "run").1 _ inMemory).2 _ ended rfl rfl
  · exact ((get?_follows_upserts records "run").2 _ inTable legible).2 _ ended rfl rfl
  · exact ((get?_follows_upserts records "missing").2 _ inTable legible).1.mpr (by decide)

/-- A table does not replace the automation of a record, as a store in memory does. -/
theorem get?_of_moved_record :
    let records := [recordOf "run" "first" .running .null, recordOf "run" "second" .running .null]
    ∃ contents rows, memoryStore.Accepts [] records contents ∧
      tableStore.Accepts [] records rows ∧
      memoryStore.get? "run" contents = some (recordOf "run" "second" .running .null) ∧
      tableStore.get? "run" rows = some (recordOf "run" "first" .running .null) := by
  intro records
  have storable : ∀ record ∈ records,
      record.IsLegible ∧ TableStore.checkRecord record = .ok () := by
    intro record member
    simp only [records, List.mem_cons, List.not_mem_nil, or_false] at member
    rcases member with rfl | rfl <;> exact recordOf_of_isKept rfl
  have inTable := TableStore.accepts_of_checkRecord fun record member => (storable record member).2
  refine ⟨_, _, MemoryStore.accepts records, inTable, rfl, ?_⟩
  exact TableStore.get?_of_accepts inTable (fun record member => (storable record member).1) "run"

end

end Automation
