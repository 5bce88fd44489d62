import Automation.Proofs.Dispatch.SessionRecords

/-!
Waiting for all runs.

A wait that has returned was for every run that was fired before it began and had not ended then. So
each of these has its finished record, whatever was registered, removed or fired since. A wait can
always return: its runs start, and some replies take each of them to its end.
-/

namespace Automation.Host

open SessionEvent

variable {τ : Type} {host : Host τ} {automations : Repository Blueprint} {empty : τ}
  {earlier later : List SessionEvent} {called now session : Session τ}

/-- Once a wait for all runs returns, every run that was fired before it began has finished. -/
theorem mem_finished_of_waitAll {fires since finishedBefore finished : List FiredRun}
    {results : List ExecutionResult}
    (before : called.HasTasks automations earlier fires finishedBefore)
    (after : now.HasTasks automations (earlier ++ later) (fires ++ since) finished)
    (stays : called.ends <+: now.ends)
    (returned : called.dispatcher.waitAll now.ends = some (.done results)) :
    ∀ fired ∈ fires, fired ∈ finished := by
  intro fired member
  apply after.mem_finished_of_ended (List.mem_append_left _ member)
  rcases before.outstanding_or_ended member with outstanding | ended
  · exact TaskEnds.mem_of_gather returned outstanding
  · exact (stays.map Prod.fst).subset ended

/-- An id under which no blueprint is registered is refused, and the session stays as it was. -/
theorem refuses_unregistered {fires finished : List FiredRun} {automationId : String}
    (tasks : called.HasTasks automations earlier fires finished)
    (unregistered : ∀ blueprint, ¬Registered automations (calls earlier) automationId blueprint)
    (triggerData : Value) :
    called.dispatcher.fire automationId triggerData =
        .error (.automationNotFound (.text automationId)) ∧
      ∀ after, host.Step called (.called (.fire automationId triggerData)) after →
        after = called := by
  have held : called.dispatcher.held? automationId = none := by
    rw [Dispatcher.held?, tasks.registry, ← Dispatcher.held?]
    exact Dispatcher.held?_answerAll_eq_none_iff.mpr unregistered
  have refuses : called.dispatcher.fire automationId triggerData = _ :=
    Dispatcher.fire_of_not_held held
  refine ⟨refuses, ?_⟩
  rintro after ⟨⟩
  simp [Dispatcher.answer, Dispatcher.fired?, refuses, Except.toOption]

/-- Whatever order the calls of a session and the turns of its runs have, a run goes as it was fixed
when it was fired. Once a wait for all runs returns, there is one finished record for each run that
was fired before it began, of its automation, of its payload and of the blueprint that was
registered then; any other record is of a run that was fired since. An id under which no blueprint
is registered is refused, and makes no task. -/
theorem fired_runs_are_fixed (clock : host.executor.ClockIsFinite)
    (begins : host.Leads (.start automations empty) earlier called)
    (goesOn : host.Leads called later now)
    (distinct : (executionIds (earlier ++ later)).Nodup) :
    (∃ fires since, Fires automations (calls earlier) fires ∧
      Fires automations (calls (earlier ++ later)) (fires ++ since) ∧
      ∀ outcome, called.dispatcher.waitAll now.ends = some outcome →
        ∃ results finals others records, outcome = .done results ∧
          List.Forall₂ host.Fulfils fires finals ∧
          (others.map fun record => (record.automationId, record.triggerData)).Subperm
            (since.map fun fired => (fired.automationId, Runner.payloadOf fired.triggerData)) ∧
          ((finals ++ others).map RunRecord.id).Perm (executionIds (earlier ++ later)) ∧
          host.store.Accepts empty records now.store ∧
          (∀ contents, memoryStore.Accepts [] records contents → ∀ id,
            memoryStore.get? id contents =
              (finals ++ others).find? fun record => record.id = id) ∧
          ∀ rows, tableStore.Accepts [] records rows → (∀ record ∈ records, record.IsLegible) →
            ∀ id, tableStore.get? id rows =
              ((finals ++ others).find? fun record => record.id = id).map
                fun record => { record with createdAt := record.createdAt.restored }) ∧
    ∀ automationId triggerData,
      (∀ blueprint, ¬Registered automations (calls earlier) automationId blueprint) →
        called.dispatcher.fire automationId triggerData =
            .error (.automationNotFound (.text automationId)) ∧
          ∀ after, host.Step called (.called (.fire automationId triggerData)) after →
            after = called := by
  have distinctBefore := distinct
  rw [executionIds_append] at distinctBefore
  obtain ⟨fires, finishedBefore, _, booksBefore⟩ :=
    begins.exists_books clock (List.nodup_append.mp distinctBefore).1
  obtain ⟨since, finished, records, books⟩ :=
    booksBefore.exists_leads clock goesOn distinct (begins.hasBegun nofun)
  constructor
  · refine ⟨fires, since, booksBefore.tasks.isFired, books.tasks.isFired, ?_⟩
    intro outcome returned
    have done := goesOn.ends_done clock (begins.hasBegun nofun) (begins.ends_done clock nofun nofun)
    obtain ⟨results, rfl⟩ :=
      TaskEnds.exists_results_of_gather (fun entry listed _ => done entry listed) returned
    have all := mem_finished_of_waitAll booksBefore.tasks books.tasks goesOn.ends_prefix returned
    obtain ⟨finals, others, fulfil, listed, since⟩ := books.exists_finals all
    exact ⟨results, finals, others, records, rfl, fulfil, since, books.latest_ids listed,
      books.accepts, fun _ => books.get?_memory listed, fun _ => books.get?_table listed⟩
  · intro automationId triggerData unregistered
    exact refuses_unregistered booksBefore.tasks unregistered triggerData

section

open Runner (hostStep)

/-- A host with one type of steps. -/
def patientHost : Host MemoryStore :=
  ⟨.default, [], ["steady"], false, fun _ => .zero false, memoryStore, []⟩

def patientBlueprint : Blueprint := ⟨[hostStep "only" "steady" true], "1.0", .null, [], [], []⟩

def emptyBlueprint : Blueprint := ⟨[], "1.0", .null, [], [], []⟩

def fineReply : Reply := ⟨0, .error .columnOverflow, .ok (.text "fine"), .ok (), ⟨[]⟩⟩

/-- Two fires under one id, between which its blueprint is replaced and after which it is removed.
-/
def overtakenCalls : List SessionEvent :=
  [.called (.register "daily" (.parsed patientBlueprint)), .called (.fire "daily" .null),
    .called (.register "daily" (.parsed emptyBlueprint)), .called (.fire "daily" (.int 7)),
    .called (.unregister "daily")]

/-- The second run starts and ends before the first. -/
def overtakingTurns : List SessionEvent :=
  [.started 1 ⟨"second", default⟩ 0, .started 0 ⟨"first", default⟩ 0, .replied 1 fineReply,
    .ended 0, .ended 0, .discarded 0]

def firedFirst : FiredRun := ⟨0, "daily", patientBlueprint, .null⟩

def firedSecond : FiredRun := ⟨1, "daily", emptyBlueprint, .int 7⟩

/-- The session in which both runs are fired. -/
def overtaken : Session MemoryStore := ⟨⟨[], 2, [0, 1]⟩, [firedFirst, firedSecond], [], [], [], []⟩

theorem leads_overtaken : patientHost.Leads (.start [] []) overtakenCalls overtaken :=
  Leads.nothing.more (.called (.register "daily" (.parsed patientBlueprint)))
    |>.more (.called (.fire "daily" .null))
    |>.more (.called (.register "daily" (.parsed emptyBlueprint)))
    |>.more (.called (.fire "daily" (.int 7)))
    |>.more (.called (.unregister "daily"))

def startedFirst (replies : List Reply) (contents : MemoryStore) : StartedRun MemoryStore :=
  ⟨firedFirst, ⟨"first", default⟩, 0, contents, replies⟩

def startedSecond (contents : MemoryStore) : StartedRun MemoryStore :=
  ⟨firedSecond, ⟨"second", default⟩, 0, contents, []⟩

/-- The step waits for its handler, which waits for a reply. -/
theorem isWaiting_execute_patient {state : State Tape} (idle : state.world.isWaiting = false) :
    (patientHost.executor.execute (hostStep "only" "steady" true) state).2.world.isWaiting =
      state.world.replies.isEmpty := by
  let step := hostStep "only" "steady" true
  have handled : patientHost.executor.execute step =
      patientHost.executor.complete step.header (Tape.handler step) :=
    Executor.execute_of_handler rfl
  have stops :=
    (Action.IsReplayed.relates.execute patientHost.alike step).2.cancelled_iff state idle
  have meets (after : State Tape) :
      patientHost.executor.complete step.header (Tape.handler step) state = (.cancelled, after) ↔
        Action.outside (Tape.next Except.ok) (Executor.opened step.header state) =
          (.cancelled, after) :=
    Executor.complete_cancelled_iff.trans (Action.bind_cancelled_iff_of_steady fun reply =>
      .bind (.setVariables reply.variables) fun _ => .ofExcept reply.output)
  rw [Bool.eq_iff_iff, ← stops, handled]
  cases left : state.world.replies with
  | nil =>
      have waits : (Action.outside (Tape.next Except.ok)
          (Executor.opened step.header state)).1 = .cancelled := by
        simp [Action.outside, Tape.next, Executor.opened, left]
      simp [(meets _).mpr (Prod.ext waits rfl)]
  | cons reply rest =>
      refine iff_of_false (fun cancelled => ?_) (by simp)
      have waits := (meets _).mp (Prod.ext cancelled rfl)
      simp [Action.outside, Tape.next, Executor.opened, left, Outcome.ofExcept] at waits

theorem isWaiting_startedFirst (contents : MemoryStore) (replies : List Reply) :
    (startedFirst replies contents).isWaiting patientHost = replies.isEmpty := by
  have begun : (startedFirst replies contents).HasBegun patientHost := rfl
  have printable : patientBlueprint.stored.isPrintable = true := by decide
  obtain ⟨log, waits⟩ := begun.exists_isWaiting_eq printable
  have only : (startedFirst replies contents).fired.blueprint.steps =
      [hostStep "only" "steady" true] := rfl
  rw [waits, only, Runner.world_runSteps_singleton, isWaiting_execute_patient rfl]
  rfl

theorem isWaiting_startedSecond (contents : MemoryStore) :
    (startedSecond contents).isWaiting patientHost = false := by
  have begun : (startedSecond contents).HasBegun patientHost := rfl
  have printable : emptyBlueprint.stored.isPrintable = true := by decide
  obtain ⟨log, waits⟩ := begun.exists_isWaiting_eq printable
  rw [waits]
  rfl

theorem exists_leads_overtaking :
    ∃ now, patientHost.Leads overtaken overtakingTurns now ∧ now.ends.map Prod.fst = [1, 0] := by
  have start : patientHost.Leads overtaken [] overtaken := .nothing
  have secondStarted := start.more
    (@Step.started _ _ _ [firedFirst] _ _ _ ⟨"second", default⟩ 0 rfl rfl)
  have bothStarted := secondStarted.more
    (@Step.started _ _ _ [] _ _ _ ⟨"first", default⟩ 0 rfl rfl)
  have replied := bothStarted.more
    (@Step.replied _ _ _ [startedSecond _] _ _ fineReply rfl (isWaiting_startedFirst _ _))
  have secondEnded := replied.more
    (@Step.ended _ _ _ [] _ _ _ _ rfl (isWaiting_startedSecond _) elapsedMs_zero rfl)
  have bothEnded := secondEnded.more
    (@Step.ended _ _ _ [] _ _ _ _ rfl (isWaiting_startedFirst _ _) elapsedMs_zero rfl)
  have discarded := bothEnded.more (@Step.discarded _ _ _ [] _ _ rfl)
  exact ⟨_, discarded, rfl⟩

theorem fired_runs_are_fixed_of_overtaking :
    patientHost.executor.ClockIsFinite ∧
      (executionIds (overtakenCalls ++ overtakingTurns)).Nodup ∧
      patientHost.Leads (.start [] []) overtakenCalls overtaken ∧
      ∃ now, patientHost.Leads overtaken overtakingTurns now ∧
        (∃ results, overtaken.dispatcher.waitAll now.ends = some (.done results)) ∧
        (∃ first second : RunRecord, patientHost.Fulfils firedFirst first ∧
          patientHost.Fulfils firedSecond second ∧
          [first.id, second.id].Perm ["second", "first"] ∧
          memoryStore.get? first.id now.store = some first ∧
          memoryStore.get? second.id now.store = some second) ∧
        overtaken.dispatcher.fire "daily" .null =
          .error (.automationNotFound (.text "daily")) := by
  have clock : patientHost.executor.ClockIsFinite := fun _ _ => ⟨0, elapsedMs_zero⟩
  have distinct : (executionIds (overtakenCalls ++ overtakingTurns)).Nodup := by decide
  obtain ⟨now, goesOn, ended⟩ := exists_leads_overtaking
  have done := goesOn.ends_done clock nofun nofun
  obtain ⟨results, returned⟩ : ∃ results,
      overtaken.dispatcher.waitAll now.ends = some (.done results) :=
    TaskEnds.exists_gather_eq_done (fun entry listed _ => done entry listed)
      (by simp [ended, overtaken])
  obtain ⟨⟨fires, since, areFired, areFiredToo, awaits⟩, refuses⟩ :=
    fired_runs_are_fixed clock leads_overtaken goesOn distinct
  refine ⟨clock, distinct, leads_overtaken, now, goesOn, ⟨results, returned⟩, ?_, ?_⟩
  · obtain ⟨_, finals, others, records, -, fulfil, later, ids, accepts, held, -⟩ :=
      awaits _ returned
    obtain rfl : [firedFirst, firedSecond] = fires := Dispatcher.firedAll_of_fires areFired
    have both : [firedFirst, firedSecond] = [firedFirst, firedSecond] ++ since :=
      Dispatcher.firedAll_of_fires areFiredToo
    obtain rfl : since = [] := by simpa using both
    obtain rfl : others = [] := by simpa using later
    rw [List.append_nil] at ids held
    obtain ⟨first, _, firstFulfils, rest, rfl⟩ := List.forall₂_cons_left_iff.mp fulfil
    obtain ⟨second, _, secondFulfils, none, rfl⟩ := List.forall₂_cons_left_iff.mp rest
    obtain rfl := List.forall₂_nil_left_iff.mp none
    have apart : first.id ≠ second.id := by
      have bothOnce : [first.id, second.id].Nodup := ids.nodup_iff.mpr distinct
      simpa using bothOnce
    have inMemory := held _ accepts
    refine ⟨first, second, firstFulfils, secondFulfils, ids, ?_, ?_⟩
    · rw [inMemory, List.find?_cons_of_pos (by simp)]
    · rw [inMemory, List.find?_cons_of_neg (by simpa using apart),
        List.find?_cons_of_pos (by simp)]
  · have held : ((Dispatcher.start []).answerAll (calls overtakenCalls)).held? "daily" = none := rfl
    exact (refuses "daily" .null (Dispatcher.held?_answerAll_eq_none_iff.mp held)).1

end

end Automation.Host
