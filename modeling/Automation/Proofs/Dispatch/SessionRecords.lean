import Automation.Proofs.Dispatch.Tasks
import Automation.Proofs.Run.Agreement
import Automation.Proofs.Run.Stores

/-!
The records of a session.

Whatever order the events of a session have, each run that was fired has no record before it starts,
one while it is going on, and two once it has ended. `Books` says this of a session; every event
keeps it. A wait returns once the runs that were fired before have ended, so each of these has its
finished record then.
-/

namespace Automation

open SessionEvent

variable {τ : Type}

/-- What the records handed to the store say of the runs of a session, in which calls fired some
runs of which some have finished. -/
structure Host.Books (host : Host τ) (automations : Repository Blueprint) (empty : τ)
    (events : List SessionEvent) (session : Session τ) (fires : List FiredRun)
    (finished : List (FiredRun × RunRecord)) (records : List RunRecord) : Prop where
  tasks : session.HasTasks automations events fires (finished.map Prod.fst)
  ids : (session.going.map StartedRun.id ++ finished.map fun entry => entry.2.id).Perm
    (executionIds events)
  accepts : host.store.Accepts empty records session.store
  listed : ∀ record ∈ records, record.id ∈ executionIds events
  going : ∀ run ∈ session.going,
    recordsUnder run.id records = [Runner.startingRecord run.launch]
  finished : ∀ entry ∈ finished, host.Fulfils entry.1 entry.2 ∧ ∃ first,
    recordsUnder entry.2.id records = [first, entry.2] ∧
      first.automationId = entry.2.automationId ∧ first.createdAt = entry.2.createdAt

theorem StartedRun.fulfils_finalRecord {host : Host τ} {run : StartedRun τ} (durationMs : Int)
    (begun : run.HasBegun host) (ready : run.isWaiting host = false) :
    host.Fulfils run.fired
      (Runner.finalRecord run.launch (run.progress host) durationMs) where
  finished := by
    unfold RunRecord.isFinished Runner.finalRecord
    dsimp only
    split <;> rfl
  automation := rfl
  payload := rfl
  details := by
    obtain ⟨uncancelled, ends⟩ := begun.exists_plays ready
    refine ⟨_, durationMs, rfl, rfl, uncancelled, ?_, ends⟩
    rcases ends with ⟨failure, untold, stops⟩ | ⟨start, after, scope, plays⟩
    · rw [stops]
      exact List.nil_prefix
    · exact plays.names_prefix

namespace Host.Books

variable {host : Host τ} {automations : Repository Blueprint} {empty : τ}
  {events : List SessionEvent} {session : Session τ} {fires : List FiredRun}
  {finished : List (FiredRun × RunRecord)} {records : List RunRecord}

theorem start (host : Host τ) (automations : Repository Blueprint) (empty : τ) :
    host.Books automations empty [] (.start automations empty) [] [] [] where
  tasks := .start automations empty
  ids := .nil
  accepts := .start
  listed := nofun
  going := nofun
  finished := nofun

theorem id_mem_of_going (books : host.Books automations empty events session fires finished records)
    {run : StartedRun τ} (member : run ∈ session.going) : run.id ∈ executionIds events :=
  books.ids.mem_iff.mp (List.mem_append_left _ (List.mem_map_of_mem member))

theorem id_mem_of_finished
    (books : host.Books automations empty events session fires finished records)
    {entry : FiredRun × RunRecord} (member : entry ∈ finished) :
    entry.2.id ∈ executionIds events :=
  books.ids.mem_iff.mp (List.mem_append_right _ (List.mem_map.mpr ⟨entry, member, rfl⟩))

theorem called (call : DispatchCall)
    (books : host.Books automations empty events session fires finished records) :
    host.Books automations empty (events ++ [.called call])
      { session with
        dispatcher := session.dispatcher.answer call
        unstarted := session.unstarted ++ (session.dispatcher.fired? call).toList }
      (fires ++ (session.dispatcher.fired? call).toList) finished records := by
  have sameIds : executionIds (events ++ [.called call]) = executionIds events :=
    executionIds_concat_of_none events rfl
  obtain ⟨tasks, ids, accepts, listed, going, finishedRuns⟩ := books
  rw [← sameIds] at ids listed
  exact ⟨tasks.called call, ids, accepts, listed, going, finishedRuns⟩

theorem started {earlier later : List FiredRun} {fired : FiredRun} {after : τ}
    {identity : RunIdentity} {tick : Nat}
    (unstarted : session.unstarted = earlier ++ fired :: later)
    (taken : host.store.upsert (Runner.startingRecord (fired.launch identity)) session.store =
      (.ok (), after))
    (fresh : identity.executionId ∉ executionIds events)
    (books : host.Books automations empty events session fires finished records) :
    host.Books automations empty (events ++ [.started earlier.length identity tick])
      { session with
        unstarted := earlier ++ later
        going := session.going ++ [⟨fired, identity, tick, session.store, []⟩]
        store := after }
      fires finished (records ++ [Runner.startingRecord (fired.launch identity)]) := by
  have moreIds : executionIds (events ++ [.started earlier.length identity tick]) =
      executionIds events ++ [identity.executionId] := executionIds_append events _
  have apart {id : String} (known : id ∈ executionIds events) :
      (Runner.startingRecord (fired.launch identity)).id ≠ id := by
    rintro rfl
    exact fresh known
  have own : recordsUnder identity.executionId
      (records ++ [Runner.startingRecord (fired.launch identity)]) =
        [Runner.startingRecord (fired.launch identity)] := by
    have nothingYet : recordsUnder identity.executionId records = [] :=
      recordsUnder_eq_nil_iff.mpr fun record listed same =>
        fresh (same ▸ books.listed record listed)
    have same : (Runner.startingRecord (fired.launch identity)).id = identity.executionId := rfl
    rw [recordsUnder_concat_self same, nothingYet, List.nil_append]
  constructor
  · exact books.tasks.started unstarted
  · rw [moreIds, List.map_append, List.append_assoc]
    refine (List.perm_append_comm.append_left _).trans ?_
    rw [← List.append_assoc]
    exact books.ids.append_right _
  · exact .upsert books.accepts taken
  · rw [moreIds]
    intro record member
    rcases List.mem_append.mp member with earlierRecord | last
    · exact List.mem_append_left _ (books.listed record earlierRecord)
    · rw [List.mem_singleton.mp last]
      exact List.mem_append_right _ (List.mem_singleton_self _)
  · intro run member
    rcases List.mem_append.mp member with other | last
    · rw [recordsUnder_concat_of_ne (apart (books.id_mem_of_going other))]
      exact books.going run other
    · obtain rfl := List.mem_singleton.mp last
      exact own
  · intro entry member
    rw [recordsUnder_concat_of_ne (apart (books.id_mem_of_finished member))]
    exact books.finished entry member

theorem replied {earlier later : List (StartedRun τ)} {run : StartedRun τ} {reply : Reply}
    (going : session.going = earlier ++ run :: later)
    (books : host.Books automations empty events session fires finished records) :
    host.Books automations empty (events ++ [.replied earlier.length reply])
      { session with going := earlier ++ run.replied [reply] :: later } fires finished records := by
  have sameRuns : (earlier ++ run.replied [reply] :: later).map StartedRun.id =
      session.going.map StartedRun.id := by
    rw [going]
    simp [StartedRun.replied, StartedRun.id]
  constructor
  · exact books.tasks.replied going
  · rw [executionIds_concat_of_none events rfl, sameRuns]
    exact books.ids
  · exact books.accepts
  · rw [executionIds_concat_of_none events rfl]
    exact books.listed
  · have each := books.going
    rw [going] at each
    intro other member
    rcases List.mem_append.mp member with before | after
    · exact each other (List.mem_append_left _ before)
    · rcases List.mem_cons.mp after with rfl | behind
      · exact each run (by simp)
      · exact each other (by simp [behind])
  · exact books.finished

theorem ended {earlier later : List (StartedRun τ)} {run : StartedRun τ} {after : τ}
    {durationMs : Int} (ending : Outcome ExecutionResult)
    (going : session.going = earlier ++ run :: later)
    (begun : run.HasBegun host) (ready : run.isWaiting host = false)
    (taken : host.store.upsert (Runner.finalRecord run.launch (run.progress host) durationMs)
      session.store = (.ok (), after))
    (distinct : (executionIds events).Nodup)
    (books : host.Books automations empty events session fires finished records) :
    host.Books automations empty (events ++ [.ended earlier.length])
      { session with
        going := earlier ++ later
        ends := session.ends ++ [(run.fired.number, ending)]
        callbacks := session.callbacks ++ [run.fired.number]
        store := after }
      fires
      (finished ++ [(run.fired, Runner.finalRecord run.launch (run.progress host) durationMs)])
      (records ++ [Runner.finalRecord run.launch (run.progress host) durationMs]) := by
  obtain ⟨tasks, ids, accepts, listed, goingRuns, finishedRuns⟩ := books
  have present : run.id ∈ executionIds events :=
    ids.mem_iff.mp (List.mem_append_left _ (List.mem_map_of_mem (by simp [going])))
  have own := goingRuns run (by simp [going])
  rw [going] at ids goingRuns
  have once : (run.id :: ((earlier ++ later).map StartedRun.id ++
      finished.map fun entry => entry.2.id)).Nodup := by
    have idsOnce := ids.nodup_iff.mpr distinct
    exact ((List.perm_middle.map StartedRun.id).append_right _).nodup_iff.mp idsOnce
  have apart {id : String} (other : id ∈ (earlier ++ later).map StartedRun.id ++
      finished.map fun entry => entry.2.id) :
      (Runner.finalRecord run.launch (run.progress host) durationMs).id ≠ id := by
    rintro rfl
    exact (List.nodup_cons.mp once).1 other
  constructor
  · rw [List.map_append]
    exact tasks.ended going
  · rw [executionIds_concat_of_none events rfl]
    refine List.Perm.trans ?_ ids
    have moved := moved_perm (earlier.map StartedRun.id) (later.map StartedRun.id)
      (finished.map fun entry => entry.2.id) run.id
    have last : (Runner.finalRecord run.launch (run.progress host) durationMs).id = run.id := rfl
    simpa [last] using moved.symm
  · exact .upsert accepts taken
  · rw [executionIds_concat_of_none events rfl]
    intro record member
    rcases List.mem_append.mp member with earlierRecord | last
    · exact listed record earlierRecord
    · rw [List.mem_singleton.mp last]
      exact present
  · intro other member
    rw [recordsUnder_concat_of_ne
      (apart (List.mem_append_left _ (List.mem_map_of_mem member)))]
    exact goingRuns other (List.perm_middle.mem_iff.mpr (List.mem_cons_of_mem _ member))
  · intro entry member
    rcases List.mem_append.mp member with before | last
    · rw [recordsUnder_concat_of_ne
        (apart (List.mem_append_right _ (List.mem_map.mpr ⟨entry, before, rfl⟩)))]
      exact finishedRuns entry before
    · rw [List.mem_singleton.mp last]
      refine ⟨run.fulfils_finalRecord durationMs begun ready,
        Runner.startingRecord run.launch, ?_, rfl, rfl⟩
      rw [recordsUnder_concat_self rfl]
      exact congrArg (· ++ _) own

theorem discarded {earlier later : List Nat} {number : Nat}
    (callbacks : session.callbacks = earlier ++ number :: later)
    (books : host.Books automations empty events session fires finished records) :
    host.Books automations empty (events ++ [.discarded earlier.length])
      { session with
        dispatcher := session.dispatcher.discard number
        callbacks := earlier ++ later } fires finished records := by
  have sameIds : executionIds (events ++ [.discarded earlier.length]) = executionIds events :=
    executionIds_concat_of_none events rfl
  obtain ⟨tasks, ids, accepts, listed, going, finishedRuns⟩ := books
  rw [← sameIds] at ids listed
  exact ⟨tasks.discarded callbacks, ids, accepts, listed, going, finishedRuns⟩

end Host.Books

namespace Host

variable {host : Host τ} {automations : Repository Blueprint} {empty : τ}
  {events earlier later : List SessionEvent} {session called now : Session τ}
  {fires : List FiredRun}

theorem Books.exists_step {event : SessionEvent} {after : Session τ}
    {finished : List (FiredRun × RunRecord)} {records : List RunRecord}
    (clock : host.executor.ClockIsFinite)
    (distinct : (executionIds (events ++ [event])).Nodup)
    (begun : ∀ run ∈ session.going, run.HasBegun host)
    (books : host.Books automations empty events session fires finished records)
    (step : host.Step session event after) :
    ∃ more finished records, host.Books automations empty (events ++ [event]) after
      (fires ++ more) finished records := by
  rw [executionIds_append] at distinct
  cases step with
  | called call => exact ⟨_, _, _, books.called call⟩
  | started identity tick unstarted taken =>
      have fresh : identity.executionId ∉ executionIds events := by
        intro known
        exact (List.nodup_append.mp distinct).2.2 _ known _ (List.mem_singleton_self _) rfl
      exact ⟨[], _, _, by simpa using books.started unstarted taken fresh⟩
  | replied reply going waiting => exact ⟨[], _, _, by simpa using books.replied going⟩
  | @ended _ _ run _ durationMs going ready measured taken =>
      have before := (List.nodup_append.mp distinct).1
      have kept := books.ended (Runner.ending run.launch (run.progress host) durationMs []) going
        (begun run (by simp [going])) ready taken before
      exact ⟨[], _, _, by simpa using kept⟩
  | @endedUnmeasured _ _ run failure going ready unmeasured =>
      obtain ⟨durationMs, measured⟩ := clock run.state.world
        (host.runner.reported run.launch run.state).world
      rw [Runner.elapsed] at unmeasured
      cases measured.symm.trans unmeasured
  | discarded callbacks => exact ⟨[], _, _, by simpa using books.discarded callbacks⟩

/-- Books are kept from one session to another, and no fire is forgotten in them. -/
theorem Books.exists_leads {finished : List (FiredRun × RunRecord)} {records : List RunRecord}
    (clock : host.executor.ClockIsFinite) (leads : host.Leads called later now)
    (distinct : (executionIds (earlier ++ later)).Nodup)
    (begun : ∀ run ∈ called.going, run.HasBegun host)
    (books : host.Books automations empty earlier called fires finished records) :
    ∃ more finished records, host.Books automations empty (earlier ++ later) now
      (fires ++ more) finished records := by
  induction leads with
  | nothing => exact ⟨[], _, _, by simpa using books⟩
  | more before step inductionHypothesis =>
      rw [← List.append_assoc] at distinct
      have distinctBefore := distinct
      rw [executionIds_append] at distinctBefore
      obtain ⟨more, _, _, kept⟩ := inductionHypothesis (List.nodup_append.mp distinctBefore).1
      obtain ⟨last, finished, records, after⟩ :=
        kept.exists_step clock distinct (before.hasBegun begun) step
      rw [← List.append_assoc]
      exact ⟨more ++ last, finished, records, by simpa using after⟩

theorem Leads.exists_books (clock : host.executor.ClockIsFinite)
    (leads : host.Leads (.start automations empty) events session)
    (distinct : (executionIds events).Nodup) :
    ∃ fires finished records,
      host.Books automations empty events session fires finished records := by
  have books : ∃ more finished records,
      host.Books automations empty ([] ++ events) session ([] ++ more) finished records :=
    (Books.start host automations empty).exists_leads clock leads distinct nofun
  exact books

end Host

/-- The latest records of the runs of a session: the finished ones, and the first ones of those that
are going on. -/
def Session.latest (session : Session τ) (finished : List (FiredRun × RunRecord)) :
    List RunRecord :=
  finished.map Prod.snd ++ session.going.map fun run => Runner.startingRecord run.launch

namespace Host.Books

variable {host : Host τ} {automations : Repository Blueprint} {empty : τ}
  {events : List SessionEvent} {session : Session τ} {fires since : List FiredRun}
  {finished : List (FiredRun × RunRecord)} {records latest : List RunRecord}

theorem latest_ids (books : host.Books automations empty events session fires finished records)
    (listed : latest.Perm (session.latest finished)) :
    (latest.map RunRecord.id).Perm (executionIds events) := by
  refine (listed.map RunRecord.id).trans (.trans ?_ books.ids)
  rw [Session.latest, List.map_append, List.map_map, List.map_map]
  exact List.perm_append_comm

/-- The records under the id of a latest record end with it, and they are of one automation and
created at one time. -/
theorem exists_first (books : host.Books automations empty events session fires finished records)
    {last : RunRecord} (member : last ∈ session.latest finished) :
    ∃ first, (recordsUnder last.id records).head? = some first ∧
      (recordsUnder last.id records).getLast? = some last ∧
      first.automationId = last.automationId ∧ first.createdAt = last.createdAt := by
  rcases List.mem_append.mp member with isFinished | isGoing
  · obtain ⟨entry, listed, rfl⟩ := List.mem_map.mp isFinished
    obtain ⟨_, first, own, automation, created⟩ := books.finished entry listed
    rw [own]
    exact ⟨first, rfl, rfl, automation, created⟩
  · obtain ⟨run, listed, rfl⟩ := List.mem_map.mp isGoing
    have own : recordsUnder (Runner.startingRecord run.launch).id records = _ :=
      books.going run listed
    rw [own]
    exact ⟨_, rfl, rfl, rfl, rfl⟩

/-- What the records make under an id comes from the latest one. -/
theorem mergedUnder_eq (books : host.Books automations empty events session fires finished records)
    (listed : latest.Perm (session.latest finished)) {α : Type}
    {merge : RunRecord → RunRecord → α} {g : RunRecord → α}
    (merges : ∀ first last : RunRecord, first.automationId = last.automationId →
      first.createdAt = last.createdAt → merge first last = g last) (id : String) :
    mergedUnder merge id records = (latest.find? fun record => record.id = id).map g := by
  cases found : latest.find? (fun record => record.id = id) with
  | none =>
      rw [List.find?_eq_none] at found
      refine mergedUnder_eq_none_iff.mpr fun record member same => ?_
      have known := (books.latest_ids listed).mem_iff.mpr (books.listed record member)
      obtain ⟨last, inLatest, sameToo⟩ := List.mem_map.mp known
      exact found last inLatest (by simp [sameToo, same])
  | some last =>
      obtain rfl : last.id = id := by simpa using List.find?_some found
      obtain ⟨first, isFirst, isLast, automation, created⟩ :=
        books.exists_first (listed.mem_iff.mp (List.mem_of_find?_eq_some found))
      rw [Option.map_some, ← merges first last automation created]
      exact mergedUnder_eq_some isFirst isLast

/-- The memory holds the latest record of each run of a session. -/
theorem get?_memory (books : host.Books automations empty events session fires finished records)
    (listed : latest.Perm (session.latest finished)) {contents : MemoryStore}
    (accepts : memoryStore.Accepts [] records contents) (id : String) :
    memoryStore.get? id contents = latest.find? fun record => record.id = id := by
  have merged : mergedUnder MemoryStore.merge id records =
      (latest.find? fun record => record.id = id).map fun record => record :=
    books.mergedUnder_eq listed (fun first last _ created => by
      rw [MemoryStore.merge, created]) id
  rw [Option.map_id'] at merged
  exact (MemoryStore.get?_of_accepts accepts id).trans merged

/-- A table holds the latest record of each run of a session, with the time as it is restored. -/
theorem get?_table (books : host.Books automations empty events session fires finished records)
    (listed : latest.Perm (session.latest finished)) {rows : TableStore}
    (accepts : tableStore.Accepts [] records rows) (legible : ∀ record ∈ records, record.IsLegible)
    (id : String) :
    tableStore.get? id rows = (latest.find? fun record => record.id = id).map
      fun record => { record with createdAt := record.createdAt.restored } := by
  refine (TableStore.get?_of_accepts accepts legible id).trans ?_
  exact books.mergedUnder_eq listed (fun first last automation created => by
    rw [automation, created]) id

/-- Where the first runs that were fired have finished, their finished records stand before the
latest records of runs that were fired since. -/
theorem exists_finals
    (books : host.Books automations empty events session (fires ++ since) finished records)
    (all : ∀ fired ∈ fires, fired ∈ finished.map Prod.fst) :
    ∃ finals others, List.Forall₂ host.Fulfils fires finals ∧
      (finals ++ others).Perm (session.latest finished) ∧
      (others.map fun record => (record.automationId, record.triggerData)).Subperm
        (since.map fun fired => (fired.automationId, Runner.payloadOf fired.triggerData)) := by
  have once : fires.Nodup := by
    have numbers := books.tasks.nodup_fires
    rw [List.map_append] at numbers
    exact (List.nodup_append.mp numbers).1.of_map _
  obtain ⟨chosen, same, within⟩ := List.subperm_of_subset once all
  obtain ⟨rest, split⟩ := within.exists_perm_append
  have parted : (finished.map Prod.fst).Perm (fires ++ rest) :=
    split.trans (same.append_right rest)
  -- The books list the runs as they ended; here they are put in the order of their fires.
  have named : List.Forall₂ (fun fired entry => fired = entry.1) (finished.map Prod.fst)
      finished := by
    rw [List.forall₂_map_left_iff, List.forall₂_same]
    exact fun _ _ => rfl
  obtain ⟨ordered, names, reordered⟩ := List.perm_comp_forall₂ parted.symm named
  have split : fires ++ rest = ordered.map Prod.fst := by
    rw [← List.forall₂_map_right_iff, List.forall₂_eq_eq_eq] at names
    exact names
  obtain ⟨old, new, rfl, rfl, rfl⟩ := List.map_eq_append_iff.mp split.symm
  have fulfils {entry : FiredRun × RunRecord} (member : entry ∈ old ++ new) :
      host.Fulfils entry.1 entry.2 := (books.finished entry (reordered.mem_iff.mp member)).1
  refine ⟨old.map Prod.snd,
    new.map Prod.snd ++ session.going.map fun run => Runner.startingRecord run.launch, ?_, ?_, ?_⟩
  · rw [List.forall₂_map_left_iff, List.forall₂_map_right_iff, List.forall₂_same]
    exact fun entry member => fulfils (List.mem_append_left _ member)
  · rw [← List.append_assoc, ← List.map_append]
    exact (reordered.map Prod.snd).append_right _
  · have others : since.Perm (session.unstarted ++
        (session.going.map StartedRun.fired ++ new.map Prod.fst)) := by
      refine (List.perm_append_left_iff (old.map Prod.fst)).mp (books.tasks.runs.trans ?_)
      refine ((parted.append_left _).trans (List.perm_append_comm_assoc _ _ _)).append_left _
        |>.trans ?_
      exact List.perm_append_comm_assoc _ _ _
    have about : (new.map Prod.snd ++ session.going.map fun run =>
          Runner.startingRecord run.launch).map
          (fun record => (record.automationId, record.triggerData)) =
        (new.map Prod.fst ++ session.going.map StartedRun.fired).map
          fun fired => (fired.automationId, Runner.payloadOf fired.triggerData) := by
      rw [List.map_append, List.map_append, List.map_map, List.map_map, List.map_map,
        List.map_map]
      refine congrArg₂ _ (List.map_congr_left fun entry member => ?_) rfl
      have fulfilled := fulfils (List.mem_append_right _ member)
      exact Prod.ext fulfilled.automation fulfilled.payload
    obtain ⟨chosen, same, within⟩ := (List.perm_append_comm.subperm.trans
      (List.sublist_append_right session.unstarted _).subperm).trans others.symm.subperm
    rw [about]
    exact ⟨_, same.map _, within.map _⟩

end Host.Books

end Automation
