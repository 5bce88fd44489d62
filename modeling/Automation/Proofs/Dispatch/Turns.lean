import Automation.Proofs.Dispatch.Telling
import Automation.Proofs.Dispatch.Waiting

/-!
Turns of runs.

Without a further call, turns of its runs take a session to one in which all of them have ended. So
a wait for all runs can return. Runs that go one after the other take such turns too.
-/

namespace Automation

open SessionEvent

variable {σ τ : Type}

/-- Turns of runs, without a call, in which runs start under some ids. -/
def Host.TakesTurns (host : Host τ) (ids : List String) (before after : Session τ) : Prop :=
  ∃ events, calls events = [] ∧ executionIds events = ids ∧ host.Leads before events after

namespace Host

variable {host : Host τ} {before between after session : Session τ} {ids further : List String}
  {run : StartedRun τ} {rest : List (StartedRun τ)}

theorem TakesTurns.refl (host : Host τ) (session : Session τ) :
    host.TakesTurns [] session session := ⟨[], rfl, rfl, .nothing⟩

theorem TakesTurns.trans (first : host.TakesTurns ids before between)
    (second : host.TakesTurns further between after) :
    host.TakesTurns (ids ++ further) before after := by
  obtain ⟨events, noCalls, rfl, leads⟩ := first
  obtain ⟨others, noCallsToo, rfl, leadsOn⟩ := second
  refine ⟨events ++ others, ?_, executionIds_append events others, leads.trans leadsOn⟩
  rw [calls_append, noCalls, noCallsToo]
  rfl

theorem TakesTurns.of_step {event : SessionEvent} (noCall : event.call? = none)
    (step : host.Step before event after) :
    host.TakesTurns event.executionId?.toList before after := by
  refine ⟨[event], ?_, ?_, .single step⟩
  · simp [calls, noCall]
  · cases started : event.executionId? <;> simp [executionIds, started]

/-- Replies take the first run to where it does not wait, if they are enough for that. -/
theorem exists_turns_replied (more : List Reply) (going : session.going = run :: rest)
    (ready : (run.replied more).isWaiting host = false) :
    ∃ taken left, more = taken ++ left ∧ (run.replied taken).isWaiting host = false ∧
      host.TakesTurns [] session { session with going := run.replied taken :: rest } := by
  induction more generalizing session run with
  | nil =>
      refine ⟨[], [], rfl, ready, ?_⟩
      rw [StartedRun.replied_nil, ← going]
      exact .refl host session
  | cons reply others inductionHypothesis =>
      cases waits : run.isWaiting host with
      | false =>
          refine ⟨[], reply :: others, rfl, by rwa [StartedRun.replied_nil], ?_⟩
          rw [StartedRun.replied_nil, ← going]
          exact .refl host session
      | true =>
          have step : host.Step session (.replied 0 reply)
              { session with going := run.replied [reply] :: rest } :=
            @Step.replied _ _ _ [] _ _ reply going waits
          have readyThen : ((run.replied [reply]).replied others).isWaiting host = false := by
            simpa [StartedRun.replied] using ready
          let between : Session τ := { session with going := run.replied [reply] :: rest }
          have goingThen : between.going = run.replied [reply] :: rest := rfl
          obtain ⟨taken, left, rfl, readyNow, turns⟩ := inductionHypothesis goingThen readyThen
          have both : (run.replied [reply]).replied taken = run.replied (reply :: taken) := by
            simp [StartedRun.replied]
          rw [both] at readyNow turns
          exact ⟨reply :: taken, left, rfl, readyNow, (TakesTurns.of_step rfl step).trans turns⟩

/-- A session in which the first run has ended with some milliseconds. -/
def endFirst (host : Host τ) (session : Session τ) (run : StartedRun τ)
    (rest : List (StartedRun τ)) (durationMs : Int) : Session τ :=
  { session with
    going := rest
    ends := session.ends ++
      [(run.fired.number, Runner.ending run.launch (run.progress host) durationMs [])]
    callbacks := session.callbacks ++ [run.fired.number]
    store := (host.store.upsert (Runner.finalRecord run.launch (run.progress host) durationMs)
      session.store).2 }

/-- A session in which the first run that had not started is going on, last of all. -/
def startFirst (host : Host τ) (session : Session τ) (fired : FiredRun) (rest : List FiredRun)
    (identity : RunIdentity) (tick : Nat) : Session τ :=
  { session with
    unstarted := rest
    going := session.going ++ [⟨fired, identity, tick, session.store, []⟩]
    store := (host.store.upsert (Runner.startingRecord (fired.launch identity)) session.store).2 }

section

variable (takes : ∀ record contents, (host.store.upsert record contents).1 = .ok ())

include takes

theorem turns_started {fired : FiredRun} {others : List FiredRun} (identity : RunIdentity)
    (tick : Nat) (unstarted : session.unstarted = fired :: others) :
    host.TakesTurns [identity.executionId] session
      (startFirst host session fired others identity tick) :=
  .of_step rfl (@Step.started _ _ _ [] _ _ _ identity tick unstarted (Prod.ext (takes _ _) rfl))

/-- Replies take the first run to its end. -/
theorem turns_ended {durationMs : Int} (more : List Reply) (going : session.going = run :: rest)
    (begun : run.HasBegun host) (ready : (run.replied more).isWaiting host = false)
    (measured : host.runner.elapsed (run.replied more).launch (run.replied more).state =
      .ok durationMs) :
    host.TakesTurns [] session (endFirst host session (run.replied more) rest durationMs) := by
  obtain ⟨taken, left, rfl, readyNow, turns⟩ := exists_turns_replied more going ready
  have begunNow : (run.replied taken).HasBegun host := begun
  have both : (run.replied taken).replied left = run.replied (taken ++ left) := by
    simp [StartedRun.replied]
  obtain ⟨-, progressed, elapsed⟩ := begunNow.replied_alike readyNow left
  rw [both] at progressed elapsed
  have step := @Step.ended _ host { session with going := run.replied taken :: rest } [] _ _ _ _ rfl
    readyNow (elapsed.symm.trans measured) (Prod.ext (takes _ _) rfl)
  rw [endFirst, progressed]
  exact turns.trans (.of_step rfl step)

theorem exists_turns_all_started {identities : List RunIdentity}
    (enough : identities.length = session.unstarted.length) :
    ∃ after, host.TakesTurns (identities.map RunIdentity.executionId) session after ∧
      after.unstarted = [] ∧ after.dispatcher = session.dispatcher := by
  induction identities generalizing session with
  | nil => exact ⟨session, .refl host session, List.eq_nil_of_length_eq_zero enough.symm, rfl⟩
  | cons identity others inductionHypothesis =>
      cases unstarted : session.unstarted with
      | nil => simp [unstarted] at enough
      | cons fired rest =>
          have first := turns_started takes identity 0 unstarted
          rw [unstarted] at enough
          have enoughThen : others.length =
              (startFirst host session fired rest identity 0).unstarted.length :=
            Nat.succ_inj.mp enough
          obtain ⟨after, turns, none, same⟩ := inductionHypothesis enoughThen
          exact ⟨after, first.trans turns, none, same⟩

variable (clock : host.executor.ClockIsFinite)

include clock

theorem exists_turns_all_ended (begun : ∀ run ∈ session.going, run.HasBegun host) :
    ∃ after, host.TakesTurns [] session after ∧ after.going = [] ∧
      after.unstarted = session.unstarted ∧ after.dispatcher = session.dispatcher := by
  induction going : session.going generalizing session with
  | nil => exact ⟨session, .refl host session, going, rfl, rfl⟩
  | cons run rest inductionHypothesis =>
      rw [going, List.forall_mem_cons] at begun
      obtain ⟨more, ready⟩ := begun.1.exists_replies
      obtain ⟨durationMs, measured⟩ := clock (run.replied more).state.world
        (host.runner.reported (run.replied more).launch (run.replied more).state).world
      let between := endFirst host session (run.replied more) rest durationMs
      have goingThen : between.going = rest := rfl
      obtain ⟨after, turns, none, unstarted, dispatcher⟩ :=
        inductionHypothesis (goingThen ▸ begun.2) goingThen
      have first := turns_ended takes more going begun.1 ready measured
      exact ⟨after, first.trans turns, none, unstarted, dispatcher⟩

/-- A wait for all runs can always return: its runs start, under whatever ids, and some replies take
each of them to its end. -/
theorem exists_waitAll_returns {automations : Repository Blueprint} {empty : τ}
    {events : List SessionEvent} {identities : List RunIdentity}
    (leads : host.Leads (.start automations empty) events session)
    (enough : identities.length = session.unstarted.length) :
    ∃ after results, host.TakesTurns (identities.map RunIdentity.executionId) session after ∧
      session.dispatcher.waitAll after.ends = some (.done results) := by
  obtain ⟨between, started, noneUnstarted, sameBetween⟩ := exists_turns_all_started takes enough
  have begun : ∀ run ∈ between.going, run.HasBegun host := by
    obtain ⟨_, -, -, leadsOn⟩ := started
    exact (leads.trans leadsOn).hasBegun nofun
  obtain ⟨after, ended, noneGoing, unstarted, same⟩ := exists_turns_all_ended takes clock begun
  have turns := started.trans ended
  rw [List.append_nil] at turns
  have ⟨further, _, _, leadsOn⟩ := turns
  have done := (leads.trans leadsOn).ends_done clock nofun nofun
  obtain ⟨fires, finished, tasks⟩ := (leads.trans leadsOn).exists_tasks
  -- All runs have ended, so the tasks that are outstanding are those whose callbacks are due.
  have outstanding := tasks.outstanding
  rw [noneGoing, unstarted, noneUnstarted, same, sameBetween] at outstanding
  obtain ⟨results, returned⟩ : ∃ results,
      session.dispatcher.waitAll after.ends = some (.done results) :=
    TaskEnds.exists_gather_eq_done (fun entry listed _ => done entry listed)
      fun task member => tasks.due task (outstanding.mem_iff.mp member)
  exact ⟨after, results, turns, returned⟩

end

end Host

section

variable {host : Host τ} {runner : Runner σ τ}

/-- Where the store takes every record, a run that is not cancelled gives a result, and hands over
its two records. -/
theorem Runner.exists_run_eq {launch : Launch} {state : RunState σ τ}
    (clock : runner.executor.ClockIsFinite)
    (takes : ∀ record contents, (runner.store.upsert record contents).1 = .ok ())
    (uncancelled : (runner.run launch state).1 ≠ .cancelled) :
    (runner.played launch state).1.ending ≠ .cancelled ∧
      ∃ durationMs, runner.elapsed launch state = .ok durationMs ∧
        (runner.run launch state).1 =
          ending launch (runner.played launch state).1 durationMs [] ∧
        (runner.run launch state).2.store =
          (runner.store.upsert (finalRecord launch (runner.played launch state).1 durationMs)
            (runner.store.upsert (startingRecord launch) state.store).2).2 := by
  obtain ⟨durationMs, measured⟩ := clock state.world (runner.reported launch state).world
  have noErrors : (runner.secondSubmission launch state durationMs).errors = [] := by
    rw [Submission.errors_eq_nil_iff]
    exact (runner.answer_record _ _).trans (takes _ _)
  have ended := runner.run_fst measured
  rw [noErrors] at ended
  refine ⟨?_, durationMs, measured, ended, runner.store_run measured⟩
  intro cancelled
  rw [ended] at uncancelled
  apply uncancelled
  rw [ending, cancelled]

/-- What a session is after one more of its runs went from its start to its end by itself. -/
structure Session.HasRun (before after : Session τ) (fired : FiredRun) (rest : List FiredRun)
    (ending : Outcome ExecutionResult) (store : τ) : Prop where
  unstarted : after.unstarted = rest
  going : after.going = []
  dispatcher : after.dispatcher = before.dispatcher
  ends : after.ends = before.ends ++ [(fired.number, ending)]
  store : after.store = store

/-- A run that goes by itself takes turns of a session, and ends as it does in it. -/
theorem Runner.run_takes_turns (stands : host.StandsForRunner runner)
    (clock : runner.executor.ClockIsFinite)
    (takes : ∀ record contents, (runner.store.upsert record contents).1 = .ok ())
    {fired : FiredRun} {rest : List FiredRun} {identity : RunIdentity} {session : Session τ}
    {state : RunState σ τ} (unstarted : session.unstarted = fired :: rest)
    (going : session.going = []) (same : session.store = state.store)
    (uncancelled : (runner.run (fired.launch identity) state).1 ≠ .cancelled) :
    ∃ after, host.TakesTurns [identity.executionId] session after ∧
      session.HasRun after fired rest (runner.run (fired.launch identity) state).1
        (runner.run (fired.launch identity) state).2.store := by
  obtain ⟨notCancelled, durationMs, measured, gives, stored⟩ :=
    Runner.exists_run_eq clock takes uncancelled
  obtain ⟨tick, replies, told⟩ := StartedRun.exists_tells stands (takes _ _) notCancelled
  have hostTakes : ∀ record contents, (host.store.upsert record contents).1 = .ok () := by
    rw [stands.store]
    exact takes
  let run : StartedRun τ := ⟨fired, identity, tick, state.store, []⟩
  let started := host.startFirst session fired rest identity tick
  have goingThen : started.going = [run] := by
    simp [started, Host.startFirst, going, same, run]
  have alone := host.turns_ended hostTakes replies goingThen told.begun told.ready
    (told.elapsed.trans measured)
  have startedStore : started.store =
      (runner.store.upsert (startingRecord (fired.launch identity)) state.store).2 := by
    rw [← same, ← stands.store]
    rfl
  rw [← told.progress] at gives stored
  refine ⟨_, (Host.turns_started hostTakes identity tick unstarted).trans alone, rfl, rfl, rfl,
    ?_, ?_⟩
  · rw [gives]
    rfl
  · rw [stored, ← startedStore, ← stands.store]
    rfl

/-- Runs that go one after the other take turns of a session, and end as they do in it. -/
theorem Runner.runAll_takes_turns (stands : host.StandsForRunner runner)
    (clock : runner.executor.ClockIsFinite)
    (takes : ∀ record contents, (runner.store.upsert record contents).1 = .ok ())
    {identify : Nat → RunIdentity} {runs : List FiredRun} {session : Session τ}
    {state : RunState σ τ} (unstarted : session.unstarted = runs) (going : session.going = [])
    (same : session.store = state.store)
    (uncancelled : ∀ ended ∈ (runner.runAll identify runs state).1, ended.2 ≠ .cancelled) :
    ∃ after, host.TakesTurns (runs.map fun fired => (identify fired.number).executionId) session
        after ∧
      after.unstarted = [] ∧ after.going = [] ∧ after.dispatcher = session.dispatcher ∧
      after.ends = session.ends ++ (runner.runAll identify runs state).1 ∧
      after.store = (runner.runAll identify runs state).2.store := by
  induction runs generalizing session state with
  | nil => exact ⟨session, .refl host session, unstarted, going, rfl, by simp [runAll], same⟩
  | cons fired rest inductionHypothesis =>
      rw [runAll] at uncancelled ⊢
      cases ran : runner.run (fired.launch (identify fired.number)) state with
      | mk ended between =>
          simp only [ran, List.forall_mem_cons] at uncancelled
          have goesOn :
              (runner.run (fired.launch (identify fired.number)) state).1 ≠ .cancelled := by
            rw [ran]
            exact uncancelled.1
          obtain ⟨finished, first, hasRun⟩ :=
            Runner.run_takes_turns stands clock takes unstarted going same goesOn
          rw [ran] at hasRun
          obtain ⟨after, turns, noneUnstarted, noneGoing, sameDispatcher, ends, store⟩ :=
            inductionHypothesis hasRun.unstarted hasRun.going hasRun.store uncancelled.2
          refine ⟨after, first.trans turns, noneUnstarted, noneGoing,
            sameDispatcher.trans hasRun.dispatcher, ?_, store⟩
          rw [ends, hasRun.ends, List.append_assoc]
          rfl

end

end Automation
