import Automation.Proofs.Run.Stores
import Automation.Proofs.Timestamp.Order
import Mathlib.Data.List.Nodup

/-!
What a store lists.

No two records in a store have the same id, so every record that it holds and that a filter wants
is listed once, and no other one is. A store in memory puts the newest record first. A table goes by
the texts of the times, so it puts first what a calendar and a clock show as the latest; that is the
newest where all records have one offset. And a table takes an empty automation id for none.
-/

namespace Automation

/-- Names stay distinct where one is added at the end unless it is there. -/
theorem nodup_append_of_not_mem {names : List String} (distinct : names.Nodup) (name : String) :
    (if name ∈ names then names else names ++ [name]).Nodup := by
  split
  · exact distinct
  · next fresh => exact List.concat_eq_append ▸ List.Nodup.concat fresh distinct

theorem Entries.keys_put {α : Type} (name : String) (value : α) (entries : Entries α) :
    keys (put name value entries) =
      if name ∈ keys entries then keys entries else keys entries ++ [name] := by
  induction entries with
  | nil => simp [put, keys]
  | cons entry rest inductionHypothesis =>
      simp only [keys] at inductionHypothesis
      by_cases same : entry.1 = name
      · simp [put, keys, same]
      · by_cases held : name ∈ rest.map Prod.fst <;>
          simp [put, keys, same, Ne.symm same, inductionHypothesis, held]

namespace RunFilter

/-- The records that a filter asks for. -/
def Wants (filter : RunFilter) (record : RunRecord) : Prop :=
  (∀ id, filter.automationId = some id → record.automationId = id) ∧
    ∀ status, filter.status = some status → record.status = status

/-- A filter without an empty automation id. -/
def withoutEmpty (filter : RunFilter) : RunFilter :=
  { filter with automationId := filter.automationId.filter (· ≠ "") }

end RunFilter

/-- A list of the records that a store holds and that a filter wants, each of them once. -/
structure RunStore.ListsWanted {τ : Type} (store : RunStore τ) (contents : τ) (filter : RunFilter)
    (listed : List RunRecord) : Prop where
  distinct : (listed.map RunRecord.id).Nodup
  mem_iff : ∀ record,
    record ∈ listed ↔ store.get? record.id contents = some record ∧ filter.Wants record

namespace MemoryStore

variable {filter : RunFilter} {records : List RunRecord} {record : RunRecord}
  {contents : MemoryStore}

theorem admits_iff : admits filter record = true ↔ filter.Wants record := by
  simp only [admits, Bool.and_eq_true, Option.all_eq_true, beq_iff_eq]
  exact and_congr (forall₂_congr fun _ _ => eq_comm) (forall₂_congr fun _ _ => eq_comm)

theorem nodup_keys_of_accepts (accepts : memoryStore.Accepts [] records contents) :
    (Entries.keys contents).Nodup := by
  induction accepts with
  | start => exact List.nodup_nil
  | @upsert records record before after accepts taken inductionHypothesis =>
      obtain rfl : MemoryStore.upsert record before = after := congrArg Prod.snd taken
      unfold upsert
      split <;>
        exact Entries.keys_put _ _ _ ▸ nodup_append_of_not_mem inductionHypothesis _

/-- A record is held under its own id. -/
theorem id_of_get? (accepts : memoryStore.Accepts [] records contents) {id : String}
    (held : Entries.get? id contents = some record) : record.id = id := by
  rw [get?_of_accepts accepts, mergedUnder_eq_some_iff] at held
  obtain ⟨first, last, -, isLast, rfl⟩ := held
  exact (mem_of_mem_recordsUnder (List.mem_of_mem_getLast? isLast)).2

theorem isSome_get?_iff (accepts : memoryStore.Accepts [] records contents) (id : String) :
    (Entries.get? id contents).isSome ↔ ∃ record ∈ records, record.id = id := by
  rw [get?_of_accepts accepts, Option.isSome_iff_ne_none, ne_eq, mergedUnder_eq_none_iff]
  simp

theorem mem_values_iff (accepts : memoryStore.Accepts [] records contents) :
    record ∈ contents.map Prod.snd ↔ Entries.get? record.id contents = some record := by
  constructor
  · intro member
    obtain ⟨⟨id, held⟩, inContents, rfl⟩ := List.mem_map.mp member
    have found := Entries.get?_of_mem (nodup_keys_of_accepts accepts) inContents
    rwa [id_of_get? accepts found]
  · intro held
    exact List.mem_map.mpr ⟨_, Entries.mem_of_get? held, rfl⟩

theorem nodup_ids_of_accepts (accepts : memoryStore.Accepts [] records contents) :
    ((contents.map Prod.snd).map RunRecord.id).Nodup := by
  have distinct := nodup_keys_of_accepts accepts
  have ids : (contents.map Prod.snd).map RunRecord.id = Entries.keys contents := by
    rw [List.map_map]
    apply List.map_congr_left
    intro entry member
    exact id_of_get? accepts (Entries.get?_of_mem distinct member)
  rwa [ids]

theorem listsWanted_list (accepts : memoryStore.Accepts [] records contents) (filter : RunFilter) :
    memoryStore.ListsWanted contents filter (list filter contents) where
  distinct := by
    have ids := (nodup_ids_of_accepts accepts).sublist
      ((List.filter_sublist (p := admits filter)).map RunRecord.id)
    exact ((List.mergeSort_perm _ _).map RunRecord.id).nodup_iff.mpr ids
  mem_iff record := by
    rw [list, (List.mergeSort_perm _ _).mem_iff, List.mem_filter, mem_values_iff accepts,
      admits_iff]
    rfl

theorem pairwise_list (filter : RunFilter) (contents : MemoryStore) :
    (list filter contents).Pairwise fun first second =>
      second.createdAt.instant ≤ first.createdAt.instant := by
  have sorted := @List.pairwise_mergeSort RunRecord
    (fun first second => second.createdAt.instant ≤ first.createdAt.instant)
    (fun first second third => by
      simp only [decide_eq_true_eq]
      exact fun before after => after.trans before)
    (fun first second => by
      simp only [Bool.or_eq_true, decide_eq_true_eq]
      exact le_total _ _)
    ((contents.map Prod.snd).filter (admits filter))
  exact sorted.imp of_decide_eq_true

end MemoryStore

namespace TableStore

variable {filter : RunFilter} {records : List RunRecord} {record : RunRecord} {row : RunRow}
  {rows : TableStore}

theorem ids_place (row : RunRow) (rows : TableStore) :
    (place row rows).map RunRow.id =
      if row.id ∈ rows.map RunRow.id then rows.map RunRow.id
      else rows.map RunRow.id ++ [row.id] := by
  induction rows with
  | nil => simp [place]
  | cons existing rest inductionHypothesis =>
      by_cases same : existing.id = row.id
      · simp [place, same]
      · by_cases held : row.id ∈ rest.map RunRow.id <;>
          simp [place, same, Ne.symm same, inductionHypothesis, held]

theorem nodup_ids_of_accepts (accepts : tableStore.Accepts [] records rows) :
    (rows.map RunRow.id).Nodup := by
  induction accepts with
  | start => exact List.nodup_nil
  | upsert accepts taken inductionHypothesis =>
      obtain ⟨_, rfl⟩ := upsert_eq_ok_iff.mp taken
      rw [ids_place]
      exact nodup_append_of_not_mem inductionHypothesis _

/-- A row is the one that is found under its id. -/
theorem mem_iff_find? (accepts : tableStore.Accepts [] records rows) :
    row ∈ rows ↔ rows.find? (·.id == row.id) = some row :=
  ⟨find?_key_of_nodup (nodup_ids_of_accepts accepts), List.mem_of_find?_eq_some⟩

theorem name_eq_of_ofName? {name : String} {status : RunStatus}
    (found : RunStatus.ofName? name = some status) : status.name = name := by
  simpa using List.find?_some found

theorem name_eq_iff {status other : RunStatus} : status.name = other.name ↔ status = other := by
  cases status <;> cases other <;> decide

/-- What a row is read as, column for column. -/
theorem toRecord?_eq_some_iff : row.toRecord? = some record ↔
    (row.id = record.id ∧ row.automationId = record.automationId ∧
        row.durationMs = record.durationMs) ∧
      RunStatus.ofName? row.status = some record.status ∧
      Json.read? row.triggerData = some record.triggerData ∧
      Json.read? row.detailsLog = some (.object record.detailsLog) ∧
      Timestamp.read row.createdAt = .ok record.createdAt := by
  have objects (value : Value) (fields : Fields) :
      value.fields? = some fields ↔ value = .object fields := by
    cases value <;> simp [Value.fields?]
  obtain ⟨id, automationId, status, triggerData, durationMs, detailsLog, createdAt⟩ := record
  simp only [RunRow.toRecord?, Option.bind_eq_bind, Option.bind_eq_some_iff, objects,
    toOption_eq_some_iff, Option.some.injEq, RunRecord.mk.injEq]
  grind

theorem admits_iff (isRead : row.toRecord? = some record) :
    admits filter row = true ↔ filter.withoutEmpty.Wants record := by
  obtain ⟨⟨-, automation, -⟩, status, -⟩ := toRecord?_eq_some_iff.mp isRead
  simp only [admits, Bool.and_eq_true, Option.all_eq_true, Bool.or_eq_true, beq_iff_eq,
    RunFilter.Wants, RunFilter.withoutEmpty, Option.filter_eq_some_iff, automation,
    ← name_eq_of_ofName? status, name_eq_iff]
  grind

/-- The rows that a filter wants, in the order in which they are listed. -/
def wantedRows (filter : RunFilter) (rows : TableStore) : List RunRow :=
  (rows.filter (admits filter)).mergeSort fun first second => !(first.createdAt < second.createdAt)

theorem list_eq (filter : RunFilter) (rows : TableStore) :
    list filter rows = (wantedRows filter rows).filterMap RunRow.toRecord? := rfl

theorem mem_wantedRows_iff :
    row ∈ wantedRows filter rows ↔ row ∈ rows ∧ admits filter row = true := by
  rw [wantedRows, (List.mergeSort_perm _ _).mem_iff, List.mem_filter]

theorem nodup_ids_wantedRows (accepts : tableStore.Accepts [] records rows)
    (filter : RunFilter) : ((wantedRows filter rows).map RunRow.id).Nodup := by
  have ids := (nodup_ids_of_accepts accepts).sublist
    ((List.filter_sublist (p := admits filter)).map RunRow.id)
  exact ((List.mergeSort_perm _ _).map RunRow.id).nodup_iff.mpr ids

theorem pairwise_wantedRows (filter : RunFilter) (rows : TableStore) :
    (wantedRows filter rows).Pairwise fun first second =>
      ¬first.createdAt < second.createdAt := by
  have sorted := @List.pairwise_mergeSort RunRow
    (fun first second => !(first.createdAt < second.createdAt))
    (fun first second third => by
      simp only [Bool.not_eq_true', decide_eq_false_iff_not, List.not_lt]
      exact fun before after => List.le_trans after before)
    (fun first second => by
      simp only [Bool.or_eq_true, Bool.not_eq_true', decide_eq_false_iff_not, List.not_lt]
      exact List.le_total _ _)
    (rows.filter (admits filter))
  simp only [Bool.not_eq_true', decide_eq_false_iff_not] at sorted
  exact sorted

/-- Rows in the order of their times are listed as they stand. -/
theorem list_of_pairwise
    (ordered : (rows.filter (admits filter)).Pairwise fun first second =>
      ¬first.createdAt < second.createdAt) :
    list filter rows = (rows.filter (admits filter)).filterMap RunRow.toRecord? := by
  rw [list, List.mergeSort_of_pairwise (ordered.imp fun notBefore => by simpa using notBefore)]

theorem get?_eq_some_iff (accepts : tableStore.Accepts [] records rows) :
    get? record.id rows = some record ↔ ∃ row ∈ rows, row.toRecord? = some record := by
  rw [get?, Option.bind_eq_some_iff]
  constructor
  · rintro ⟨row, found, isRead⟩
    exact ⟨row, List.mem_of_find?_eq_some found, isRead⟩
  · rintro ⟨row, member, isRead⟩
    have same : row.id = record.id := (toRecord?_eq_some_iff.mp isRead).1.1
    exact ⟨row, same ▸ (mem_iff_find? accepts).mp member, isRead⟩

theorem listsWanted_list (accepts : tableStore.Accepts [] records rows) (filter : RunFilter) :
    tableStore.ListsWanted rows filter.withoutEmpty (list filter rows) where
  distinct := by
    have ids := nodup_ids_wantedRows accepts filter
    rw [List.Nodup, List.pairwise_map] at ids ⊢
    refine List.pairwise_filterMap.mpr (ids.imp ?_)
    intro row other different record isRead otherRecord otherIsRead
    rwa [← (toRecord?_eq_some_iff.mp isRead).1.1, ← (toRecord?_eq_some_iff.mp otherIsRead).1.1]
  mem_iff record := by
    rw [list_eq, List.mem_filterMap]
    refine Iff.trans ?_ (and_congr_left' (get?_eq_some_iff accepts).symm)
    constructor
    · rintro ⟨row, wanted, isRead⟩
      obtain ⟨member, admitted⟩ := mem_wantedRows_iff.mp wanted
      exact ⟨⟨row, member, isRead⟩, (admits_iff isRead).mp admitted⟩
    · rintro ⟨⟨row, member, isRead⟩, wanted⟩
      exact ⟨row, mem_wantedRows_iff.mpr ⟨member, (admits_iff isRead).mpr wanted⟩, isRead⟩

/-- Every row is made of the first and the last record with its id. -/
theorem exists_merge_of_mem (accepts : tableStore.Accepts [] records rows) (member : row ∈ rows) :
    ∃ first ∈ records, ∃ last ∈ records, merge first last = row := by
  have found := (mem_iff_find? accepts).mp member
  rw [find?_of_accepts accepts, mergedUnder_eq_some_iff] at found
  obtain ⟨first, last, isFirst, isLast, made⟩ := found
  exact ⟨first, (mem_of_mem_recordsUnder (List.mem_of_mem_head? isFirst)).1, last,
    (mem_of_mem_recordsUnder (List.mem_of_mem_getLast? isLast)).1, made⟩

/-- A row of records that a table does not refuse is read. -/
theorem exists_toRecord?_merge {first last : RunRecord} (checked : checkRecord last = .ok ())
    (time : first.createdAt.isValid = true) :
    ∃ record, (merge first last).toRecord? = some record := by
  obtain ⟨⟨⟩, payload, further⟩ := bind_eq_ok_iff.mp checked
  obtain ⟨⟨⟩, details, -⟩ := bind_eq_ok_iff.mp further
  obtain ⟨triggerData, readPayload⟩ := Json.exists_read?_write payload
  obtain ⟨detailsLog, readDetails⟩ := Json.exists_read?_write_object details
  exact ⟨⟨last.id, first.automationId, last.status, triggerData, last.durationMs, detailsLog,
    first.createdAt.restored⟩, toRecord?_eq_some_iff.mpr ⟨⟨rfl, rfl, rfl⟩, ofName?_name _,
      readPayload, readDetails, Timestamp.read_text time⟩⟩

theorem isSome_get?_iff (accepts : tableStore.Accepts [] records rows)
    (valid : ∀ record ∈ records, record.createdAt.isValid = true) (id : String) :
    (get? id rows).isSome ↔ ∃ record ∈ records, record.id = id := by
  rw [get?, find?_of_accepts accepts]
  cases found : mergedUnder merge id records with
  | none =>
      have absent := mergedUnder_eq_none_iff.mp found
      simpa using absent
  | some row =>
      obtain ⟨first, last, isFirst, isLast, rfl⟩ := mergedUnder_eq_some_iff.mp found
      have firstIsIn := mem_of_mem_recordsUnder (List.mem_of_mem_head? isFirst)
      have lastIsIn := mem_of_mem_recordsUnder (List.mem_of_mem_getLast? isLast)
      obtain ⟨record, isRead⟩ := exists_toRecord?_merge
        (checkRecord_of_mem accepts last lastIsIn.1) (valid first firstIsIn.1)
      simpa [isRead] using ⟨last, lastIsIn⟩

/-- A row keeps the text of a time with the reading that the record of the row has. -/
theorem exists_time_of_mem (accepts : tableStore.Accepts [] records rows)
    (valid : ∀ record ∈ records, record.createdAt.isValid = true) (member : row ∈ rows)
    (isRead : row.toRecord? = some record) : ∃ time : Timestamp, time.isValid = true ∧
      row.createdAt = time.text ∧ record.createdAt.reading = time.reading := by
  obtain ⟨first, isFirst, last, -, rfl⟩ := exists_merge_of_mem accepts member
  have time := valid first isFirst
  have readTime := (toRecord?_eq_some_iff.mp isRead).2.2.2.2
  rw [show (merge first last).createdAt = first.createdAt.text from rfl,
    Timestamp.read_text time, Except.ok.injEq] at readTime
  exact ⟨first.createdAt, time, rfl, readTime ▸ Timestamp.reading_restored _⟩

theorem pairwise_list (accepts : tableStore.Accepts [] records rows)
    (valid : ∀ record ∈ records, record.createdAt.isValid = true) (filter : RunFilter) :
    (list filter rows).Pairwise fun first second =>
      second.createdAt.reading ≤ first.createdAt.reading := by
  refine List.pairwise_filterMap.mpr ((pairwise_wantedRows filter rows).imp_of_mem ?_)
  intro row other wanted otherWanted notBefore record isRead otherRecord otherIsRead
  obtain ⟨time, isValid, shown, reading⟩ :=
    exists_time_of_mem accepts valid (mem_wantedRows_iff.mp wanted).1 isRead
  obtain ⟨otherTime, otherIsValid, otherShown, otherReading⟩ :=
    exists_time_of_mem accepts valid (mem_wantedRows_iff.mp otherWanted).1 otherIsRead
  rw [reading, otherReading]
  apply Timestamp.reading_le_of_not_text_lt otherIsValid isValid
  rwa [← shown, ← otherShown]

end TableStore

/-- After records that a store took, exactly the ids of these records are held. A store lists the
records that it holds and that a filter asks for, each of them once, and no other. A store in memory
lists the newest first. A table takes an empty automation id for none, and it lists first what a
calendar and a clock show as the latest, which is the newest first where the records that it lists
have one offset. -/
theorem list_follows_upserts (records : List RunRecord) (filter : RunFilter) :
    (∀ contents, memoryStore.Accepts [] records contents →
      (∀ id, (memoryStore.get? id contents).isSome ↔ ∃ record ∈ records, record.id = id) ∧
      memoryStore.ListsWanted contents filter (memoryStore.list filter contents) ∧
      (memoryStore.list filter contents).Pairwise fun first second =>
        second.createdAt.instant ≤ first.createdAt.instant) ∧
    ∀ rows, tableStore.Accepts [] records rows →
      (∀ record ∈ records, record.createdAt.isValid = true) →
      (∀ id, (tableStore.get? id rows).isSome ↔ ∃ record ∈ records, record.id = id) ∧
      tableStore.ListsWanted rows filter.withoutEmpty (tableStore.list filter rows) ∧
      ((tableStore.list filter rows).Pairwise fun first second =>
        second.createdAt.reading ≤ first.createdAt.reading) ∧
      ∀ offset, (∀ record ∈ tableStore.list filter rows, record.createdAt.offset = offset) →
        (tableStore.list filter rows).Pairwise fun first second =>
          second.createdAt.instant ≤ first.createdAt.instant := by
  constructor
  · intro contents accepts
    exact ⟨MemoryStore.isSome_get?_iff accepts, MemoryStore.listsWanted_list accepts filter,
      MemoryStore.pairwise_list filter contents⟩
  · intro rows accepts valid
    have ordered := TableStore.pairwise_list accepts valid filter
    refine ⟨TableStore.isSome_get?_iff accepts valid, TableStore.listsWanted_list accepts filter,
      ordered, fun offset same => ordered.imp_of_mem fun {first second} isIn otherIsIn le => ?_⟩
    exact (Timestamp.instant_le_iff ((same second otherIsIn).trans (same first isIn).symm)).mpr le


section

theorem list_follows_upserts_of_interleaving :
    let ended := recordOf "run" "daily" .completed .null
    let records := [recordOf "run" "daily" .running .null, recordOf "other" "hourly" .running .null,
      ended]
    ∃ contents rows, memoryStore.Accepts [] records contents ∧
      tableStore.Accepts [] records rows ∧
      (∀ record ∈ records, record.createdAt.isValid = true) ∧
      ended ∈ memoryStore.list ⟨some "daily", some .completed⟩ contents ∧
      ended ∈ tableStore.list ⟨some "daily", some .completed⟩ rows ∧
      (∀ record ∈ tableStore.list .all rows, record.createdAt.offset = 3600000000) ∧
      (tableStore.list .all rows).Pairwise fun first second =>
        second.createdAt.instant ≤ first.createdAt.instant := by
  intro ended records
  have storable : ∀ record ∈ records,
      record.IsLegible ∧ TableStore.checkRecord record = .ok () := by
    intro record member
    simp only [records, List.mem_cons, List.not_mem_nil, or_false] at member
    rcases member with rfl | rfl | rfl <;> exact recordOf_of_isKept rfl
  have inTable := TableStore.accepts_of_checkRecord fun record member => (storable record member).2
  have inMemory := MemoryStore.accepts records
  have valid := fun record member => (storable record member).1.time
  have wanted : RunFilter.Wants ⟨some "daily", some .completed⟩ ended := by
    simp [RunFilter.Wants, ended, recordOf]
  have offsets : ∀ record ∈ tableStore.list .all
      (records.foldl (fun rows record => TableStore.place (RunRow.ofRecord record) rows) []),
      record.createdAt.offset = 3600000000 := by
    have both : tableStore.list .all
        (records.foldl (fun rows record => TableStore.place (RunRow.ofRecord record) rows) []) =
          [ended, recordOf "other" "hourly" .running .null] :=
      TableStore.list_of_pairwise (by decide)
    simp [both, ended, recordOf]
  have fromMemory := (list_follows_upserts records ⟨some "daily", some .completed⟩).1 _ inMemory
  have fromTable := (list_follows_upserts records ⟨some "daily", some .completed⟩).2 _ inTable valid
  have everything := (list_follows_upserts records .all).2 _ inTable valid
  exact ⟨_, _, inMemory, inTable, valid, (fromMemory.2.1.mem_iff ended).mpr ⟨rfl, wanted⟩,
    (fromTable.2.1.mem_iff ended).mpr ⟨rfl, wanted⟩, offsets, everything.2.2.2 _ offsets⟩

/-- A record with the time of its creation, of which everything else is plain. -/
def recordAt (id : String) (createdAt : Timestamp) : RunRecord :=
  { recordOf id "daily" .running .null with createdAt := createdAt }

/-- A table lists every record for an empty automation id, and it lists a record of half past
midnight, two hours ahead of universal time, before a later one of midnight in universal time. -/
theorem list_of_emptyId_and_offsets :
    let early := recordAt "early" ⟨2024, 1, 1, 0, 30, 0, 0, 7200000000⟩
    let late := recordAt "late" ⟨2024, 1, 1, 0, 0, 0, 0, 0⟩
    ∃ rows, tableStore.Accepts [] [early, late] rows ∧
      early.createdAt.instant < late.createdAt.instant ∧
      tableStore.list .all rows = [early, late] ∧
      tableStore.list ⟨some "", none⟩ rows = [early, late] ∧
      ∀ record ∈ [early, late], record.automationId ≠ "" := by
  intro early late
  have checked : ∀ record ∈ [early, late], TableStore.checkRecord record = .ok () := by
    intro record member
    simp only [List.mem_cons, List.not_mem_nil, or_false] at member
    rcases member with rfl | rfl <;> rfl
  refine ⟨_, TableStore.accepts_of_checkRecord checked, by decide, ?_, ?_, by decide⟩
  · refine (@TableStore.list_of_pairwise .all _ (by decide)).trans ?_
    simp only [early, late]
    rfl
  · refine (@TableStore.list_of_pairwise ⟨some "", none⟩ _ (by decide)).trans ?_
    simp only [early, late]
    rfl

end

end Automation
