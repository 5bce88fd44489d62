import Automation.Proofs.Dispatch.Gathering
import Automation.Proofs.Dispatch.Registration
import Automation.Proofs.Dispatch.Replay
import Automation.Proofs.Run.Recording
import Mathlib.Data.List.Perm.Basic

/-!
Runs that take turns.

In a session the calls to a dispatcher and the starts, replies and ends of the runs that it fired
follow on each other in any order. A wait for all runs changes nothing, so it is no event of its
own: it begins in one session and returns in a later one, with what gathering the tasks gives that
were outstanding when it began.
-/

namespace Automation

variable {τ : Type}

/-- What happens in a session: a call to the dispatcher, the start of a run, a reply to a run, the
end of a run, and the done callback of its task. -/
inductive SessionEvent where
  | called (call : DispatchCall)
  | started (position : Nat) (identity : RunIdentity) (tick : Nat)
  | replied (position : Nat) (reply : Reply)
  | ended (position : Nat)
  | discarded (position : Nat)

namespace SessionEvent

def call? : SessionEvent → Option DispatchCall
  | .called call => some call
  | _ => none

def executionId? : SessionEvent → Option String
  | .started _ identity _ => some identity.executionId
  | _ => none

/-- The calls to the dispatcher, in order. -/
def calls (events : List SessionEvent) : List DispatchCall := events.filterMap call?

/-- The ids of the runs that started, in order. -/
def executionIds (events : List SessionEvent) : List String := events.filterMap executionId?

@[simp] theorem calls_append (first second : List SessionEvent) :
    calls (first ++ second) = calls first ++ calls second := List.filterMap_append

@[simp] theorem executionIds_append (first second : List SessionEvent) :
    executionIds (first ++ second) = executionIds first ++ executionIds second :=
  List.filterMap_append

theorem calls_concat_of_none (event : SessionEvent) (events : List SessionEvent)
    (none : event.call? = none) : calls (events ++ [event]) = calls events := by
  simp [calls, none]

theorem executionIds_concat_of_none {event : SessionEvent} (events : List SessionEvent)
    (none : event.executionId? = none) :
    executionIds (events ++ [event]) = executionIds events := by
  simp [executionIds, none]

end SessionEvent

/-- The run that a call fires, if it fires one. -/
def Dispatcher.fired? (dispatcher : Dispatcher) : DispatchCall → Option FiredRun
  | .fire automationId triggerData =>
      (dispatcher.fire automationId triggerData).toOption.map Prod.fst
  | _ => none

/-- The runs that calls in turn fire. -/
def Dispatcher.firedAll (dispatcher : Dispatcher) : List DispatchCall → List FiredRun
  | [] => []
  | call :: rest => (dispatcher.fired? call).toList ++ (dispatcher.answer call).firedAll rest

/-- A dispatcher, the runs of tasks that have not started, the runs that are going on, what tasks
ended with, the tasks whose done callbacks are due, and the contents of the store. -/
structure Session (τ : Type) where
  dispatcher : Dispatcher
  unstarted : List FiredRun
  going : List (StartedRun τ)
  ends : TaskEnds
  callbacks : List Nat
  store : τ

/-- A session in which nothing happened yet, with some registered automations and a store. -/
def Session.start (automations : Repository Blueprint) (store : τ) : Session τ :=
  ⟨.start automations, [], [], [], [], store⟩

namespace Host

/-- What each event does to a session. The store takes every record. A run that ends is measured and
hands over its last record, unless its time is no number of milliseconds: then its task fails
without. -/
inductive Step (host : Host τ) (session : Session τ) : SessionEvent → Session τ → Prop where
  | called (call : DispatchCall) :
      Step host session (.called call) { session with
        dispatcher := session.dispatcher.answer call
        unstarted := session.unstarted ++ (session.dispatcher.fired? call).toList }
  | started {earlier later : List FiredRun} {fired : FiredRun} {after : τ}
      (identity : RunIdentity) (tick : Nat)
      (unstarted : session.unstarted = earlier ++ fired :: later)
      (taken : host.store.upsert (Runner.startingRecord (fired.launch identity)) session.store =
        (.ok (), after)) :
      Step host session (.started earlier.length identity tick) { session with
        unstarted := earlier ++ later
        going := session.going ++ [⟨fired, identity, tick, session.store, []⟩]
        store := after }
  | replied {earlier later : List (StartedRun τ)} {run : StartedRun τ} (reply : Reply)
      (going : session.going = earlier ++ run :: later) (waiting : run.isWaiting host = true) :
      Step host session (.replied earlier.length reply) { session with
        going := earlier ++ run.replied [reply] :: later }
  | ended {earlier later : List (StartedRun τ)} {run : StartedRun τ} {after : τ}
      {durationMs : Int} (going : session.going = earlier ++ run :: later)
      (ready : run.isWaiting host = false)
      (measured : host.runner.elapsed run.launch run.state = .ok durationMs)
      (taken : host.store.upsert (Runner.finalRecord run.launch (run.progress host) durationMs)
        session.store = (.ok (), after)) :
      Step host session (.ended earlier.length) { session with
        going := earlier ++ later
        ends := session.ends ++
          [(run.fired.number, Runner.ending run.launch (run.progress host) durationMs [])]
        callbacks := session.callbacks ++ [run.fired.number]
        store := after }
  | endedUnmeasured {earlier later : List (StartedRun τ)} {run : StartedRun τ}
      {failure : Failure} (going : session.going = earlier ++ run :: later)
      (ready : run.isWaiting host = false)
      (unmeasured : host.runner.elapsed run.launch run.state = .error failure) :
      Step host session (.ended earlier.length) { session with
        going := earlier ++ later
        ends := session.ends ++ [(run.fired.number, .failed failure)]
        callbacks := session.callbacks ++ [run.fired.number] }
  | discarded {earlier later : List Nat} {number : Nat}
      (callbacks : session.callbacks = earlier ++ number :: later) :
      Step host session (.discarded earlier.length) { session with
        dispatcher := session.dispatcher.discard number
        callbacks := earlier ++ later }

/-- Events in turn lead from one session to another. -/
inductive Leads (host : Host τ) (before : Session τ) :
    List SessionEvent → Session τ → Prop where
  | nothing : Leads host before [] before
  | more {events : List SessionEvent} {event : SessionEvent} {between after : Session τ}
      (earlier : Leads host before events between) (step : host.Step between event after) :
      Leads host before (events ++ [event]) after

end Host

/-- The blueprint that is registered under an id after calls: the one whose registration stands, or
the one that was there before, where no call replaced it. -/
def Registered (automations : Repository Blueprint) (calls : List DispatchCall)
    (automationId : String) (blueprint : Blueprint) : Prop :=
  (∃ source, Stands calls automationId source blueprint) ∨
    (∀ call ∈ calls, ¬call.Replaces automationId) ∧
      Repository.get? automationId automations = some blueprint

/-- The runs that calls fire, in order: one for each time that an id is fired under which a
blueprint is registered, fixed with that blueprint and the payload. -/
inductive Fires (automations : Repository Blueprint) :
    List DispatchCall → List FiredRun → Prop where
  | nothing : Fires automations [] []
  | fired {calls : List DispatchCall} {runs : List FiredRun} {automationId : String}
      {blueprint : Blueprint} (triggerData : Value) (earlier : Fires automations calls runs)
      (registered : Registered automations calls automationId blueprint) :
      Fires automations (calls ++ [.fire automationId triggerData])
        (runs ++ [⟨runs.length, automationId, blueprint, triggerData⟩])
  | refused {calls : List DispatchCall} {runs : List FiredRun} {automationId : String}
      (triggerData : Value) (earlier : Fires automations calls runs)
      (unregistered : ∀ blueprint, ¬Registered automations calls automationId blueprint) :
      Fires automations (calls ++ [.fire automationId triggerData]) runs
  | other {calls : List DispatchCall} {runs : List FiredRun} {call : DispatchCall}
      (earlier : Fires automations calls runs)
      (different : ∀ automationId triggerData, call ≠ .fire automationId triggerData) :
      Fires automations (calls ++ [call]) runs

/-- A finished record of a run as it was fired: its automation, its payload, and steps that are the
first ones of its blueprint, with the details of a run of these. Where the structure of the
blueprint cannot be told to the log, the run ended with that failure before its first step. -/
structure Host.Fulfils (host : Host τ) (fired : FiredRun) (record : RunRecord) : Prop where
  finished : record.isFinished = true
  automation : record.automationId = fired.automationId
  payload : record.triggerData = Runner.payloadOf fired.triggerData
  details : ∃ progress durationMs, record.durationMs = some durationMs ∧
    record.detailsLog = progress.details durationMs ∧ progress.ending ≠ .cancelled ∧
      progress.steps.map (fun step => (step.stepId, step.stepType)) <+:
        fired.blueprint.steps.map (fun step => (step.id, step.type)) ∧
      ((∃ failure,
          Runner.structureLines host.platformKeys record.id fired.blueprint = .error failure ∧
            progress = .stopped (.failed failure)) ∨
        ∃ start after : State Tape,
          start.variables = Variables.create fired.blueprint.variables fired.triggerData ∧
            Runner.Plays host.executor record.id fired.blueprint.steps start progress after)

namespace Dispatcher

variable {dispatcher : Dispatcher} {automations : Repository Blueprint}
  {calls : List DispatchCall} {call : DispatchCall} {automationId : String}
  {blueprint : Blueprint} {triggerData : Value} {runs : List FiredRun}

theorem held?_answerAll_iff_registered :
    ((start automations).answerAll calls).held? automationId = some blueprint ↔
      Registered automations calls automationId blueprint :=
  held?_answerAll_eq_some_iff

theorem held?_answerAll_eq_none_iff :
    ((start automations).answerAll calls).held? automationId = none ↔
      ∀ blueprint, ¬Registered automations calls automationId blueprint := by
  simp only [Option.eq_none_iff_forall_ne_some, ne_eq, held?_answerAll_iff_registered]

theorem fire_of_held (held : dispatcher.held? automationId = some blueprint) :
    dispatcher.fire automationId triggerData =
      .ok (⟨dispatcher.created, automationId, blueprint, triggerData⟩, { dispatcher with
        created := dispatcher.created + 1
        tasks := dispatcher.tasks ++ [dispatcher.created] }) := by
  rw [held?] at held
  rw [fire, held]

theorem fire_of_not_held (held : dispatcher.held? automationId = none) :
    dispatcher.fire automationId triggerData =
      .error (.automationNotFound (.text automationId)) := by
  rw [held?] at held
  rw [fire, held]

theorem fired?_of_ne_fire
    (different : ∀ automationId triggerData, call ≠ .fire automationId triggerData) :
    dispatcher.fired? call = none := by
  cases call with
  | fire automationId triggerData => exact absurd rfl (different automationId triggerData)
  | register | unregister => rfl

theorem tasks_answer_of_ne_fire
    (different : ∀ automationId triggerData, call ≠ .fire automationId triggerData) :
    (dispatcher.answer call).created = dispatcher.created ∧
      (dispatcher.answer call).tasks = dispatcher.tasks := by
  cases call with
  | register automationId source =>
      cases admitted : source.admitted with
      | error failure =>
          rw [answer_of_refused admitted]
          exact ⟨rfl, rfl⟩
      | ok blueprint =>
          rw [answer, register_of_admitted admitted]
          exact ⟨rfl, rfl⟩
  | unregister automationId => exact ⟨rfl, rfl⟩
  | fire automationId triggerData => exact absurd rfl (different automationId triggerData)

/-- A call makes the task of the run that it fires, if it fires one. -/
theorem tasks_answer (dispatcher : Dispatcher) (call : DispatchCall) :
    (dispatcher.answer call).created =
        dispatcher.created + (dispatcher.fired? call).toList.length ∧
      (dispatcher.answer call).tasks =
        dispatcher.tasks ++ (dispatcher.fired? call).toList.map FiredRun.number := by
  by_cases fires : ∃ automationId triggerData, call = .fire automationId triggerData
  · obtain ⟨automationId, triggerData, rfl⟩ := fires
    cases held : dispatcher.held? automationId with
    | none => simp [answer, fired?, fire_of_not_held held]
    | some blueprint => simp [answer, fired?, fire_of_held held]
  · have different : ∀ automationId triggerData, call ≠ .fire automationId triggerData :=
      fun automationId triggerData same => fires ⟨automationId, triggerData, same⟩
    simpa [fired?_of_ne_fire different] using tasks_answer_of_ne_fire different

/-- What is registered after a call depends only on what was registered before. -/
theorem automations_answer_congr {other : Dispatcher}
    (same : dispatcher.automations = other.automations) :
    (dispatcher.answer call).automations = (other.answer call).automations := by
  cases call with
  | register automationId source =>
      cases admitted : source.admitted with
      | error failure => rw [answer_of_refused admitted, answer_of_refused admitted, same]
      | ok blueprint =>
          rw [answer, answer, register_of_admitted admitted, register_of_admitted admitted, same]
  | unregister automationId => rw [answer, answer, unregister, unregister, same]
  | fire automationId triggerData =>
      rw [automations_answer_fire, automations_answer_fire, same]

/-- A dispatcher that holds what is registered fires the runs that calls fire. -/
theorem fires_concat (fires : Fires automations calls runs)
    (registry : dispatcher.automations = ((start automations).answerAll calls).automations)
    (created : dispatcher.created = runs.length) (call : DispatchCall) :
    Fires automations (calls ++ [call]) (runs ++ (dispatcher.fired? call).toList) := by
  by_cases fired : ∃ automationId triggerData, call = .fire automationId triggerData
  · obtain ⟨automationId, triggerData, rfl⟩ := fired
    have same : dispatcher.held? automationId =
        ((start automations).answerAll calls).held? automationId := by
      rw [held?, registry, held?]
    cases held : dispatcher.held? automationId with
    | none =>
        rw [held] at same
        simpa [fired?, fire_of_not_held held] using
          fires.refused triggerData (held?_answerAll_eq_none_iff.mp same.symm)
    | some blueprint =>
        rw [held] at same
        simpa [fired?, fire_of_held held, created] using
          fires.fired triggerData (held?_answerAll_iff_registered.mp same.symm)
  · have different : ∀ automationId triggerData, call ≠ .fire automationId triggerData :=
      fun automationId triggerData same => fired ⟨automationId, triggerData, same⟩
    rw [fired?_of_ne_fire different, Option.toList_none, List.append_nil]
    exact fires.other different

theorem firedAll_concat :
    dispatcher.firedAll (calls ++ [call]) =
      dispatcher.firedAll calls ++ ((dispatcher.answerAll calls).fired? call).toList := by
  induction calls generalizing dispatcher with
  | nil => simp [firedAll, answerAll]
  | cons first rest inductionHypothesis =>
      rw [List.cons_append, firedAll, firedAll, inductionHypothesis, List.append_assoc]
      rfl

theorem created_answerAll :
    (dispatcher.answerAll calls).created =
      dispatcher.created + (dispatcher.firedAll calls).length := by
  induction calls using List.reverseRecOn with
  | nil => rfl
  | append_singleton earlier call inductionHypothesis =>
      rw [answerAll_concat, (tasks_answer _ _).1, inductionHypothesis, firedAll_concat,
        List.length_append, Nat.add_assoc]

/-- Calls fire no other runs than these. -/
theorem firedAll_of_fires (fires : Fires automations calls runs) :
    (start automations).firedAll calls = runs := by
  induction fires with
  | nothing => rfl
  | @fired calls runs automationId blueprint triggerData earlier registered inductionHypothesis =>
      have created : ((start automations).answerAll calls).created = runs.length := by
        rw [created_answerAll, inductionHypothesis]
        exact Nat.zero_add _
      rw [firedAll_concat, inductionHypothesis, fired?,
        fire_of_held (held?_answerAll_iff_registered.mpr registered), created]
      rfl
  | refused triggerData earlier unregistered inductionHypothesis =>
      rw [firedAll_concat, inductionHypothesis, fired?,
        fire_of_not_held (held?_answerAll_eq_none_iff.mpr unregistered)]
      exact List.append_nil _
  | other earlier different inductionHypothesis =>
      rw [firedAll_concat, inductionHypothesis, fired?_of_ne_fire different]
      exact List.append_nil _

end Dispatcher

namespace Host

variable {host : Host τ} {before between after : Session τ} {first second : List SessionEvent}

theorem Leads.trans (leads : host.Leads before first between)
    (further : host.Leads between second after) : host.Leads before (first ++ second) after := by
  induction further with
  | nothing => rwa [List.append_nil]
  | more earlier step inductionHypothesis =>
      rw [← List.append_assoc]
      exact .more inductionHypothesis step

theorem Leads.single {event : SessionEvent} (step : host.Step before event after) :
    host.Leads before [event] after := .more .nothing step

/-- Each run that is going on has begun. -/
theorem Leads.hasBegun (leads : host.Leads before first after)
    (begun : ∀ run ∈ before.going, run.HasBegun host) :
    ∀ run ∈ after.going, run.HasBegun host := by
  induction leads with
  | nothing => exact begun
  | @more _ _ between _ earlier step inductionHypothesis =>
      have whole {earlier later : List (StartedRun τ)} {run : StartedRun τ}
          (going : between.going = earlier ++ run :: later) :
          run.HasBegun host ∧ ∀ other ∈ earlier ++ later, other.HasBegun host := by
        rw [going] at inductionHypothesis
        have all := (List.forall_mem_cons (p := fun other => other.HasBegun host)).mp
          fun other member => inductionHypothesis other (List.perm_middle.mem_iff.mpr member)
        exact all
      cases step with
      | called | discarded => exact inductionHypothesis
      | started identity tick unstarted taken =>
          intro run member
          rcases List.mem_append.mp member with before | last
          · exact inductionHypothesis run before
          · rw [List.mem_singleton.mp last]
            exact congrArg Prod.fst taken
      | replied reply going =>
          obtain ⟨begunToo, others⟩ := whole going
          intro run member
          rcases List.mem_cons.mp (List.perm_middle.mem_iff.mp member) with rfl | other
          · exact begunToo
          · exact others run other
      | ended going | endedUnmeasured going => exact (whole going).2

/-- What a task ended with stays. -/
theorem Leads.ends_prefix (leads : host.Leads before first after) : before.ends <+: after.ends := by
  induction leads with
  | nothing => exact List.prefix_refl _
  | more earlier step inductionHypothesis =>
      cases step with
      | called | started | replied | discarded => exact inductionHypothesis
      | ended | endedUnmeasured => exact inductionHypothesis.trans (List.prefix_append _ _)

theorem exists_ending_eq_done {run : StartedRun τ} (begun : run.HasBegun host)
    (ready : run.isWaiting host = false) (durationMs : Int) :
    ∃ result, Runner.ending run.launch (run.progress host) durationMs [] = .done result := by
  have uncancelled := (begun.exists_plays ready).1
  unfold Runner.ending
  cases ended : (run.progress host).ending with
  | cancelled => exact absurd ended uncancelled
  | done | failed => exact ⟨_, rfl⟩

/-- Where all times are numbers of milliseconds, each task that ended has a result. -/
theorem Leads.ends_done (clock : host.executor.ClockIsFinite)
    (leads : host.Leads before first after)
    (begun : ∀ run ∈ before.going, run.HasBegun host)
    (done : ∀ entry ∈ before.ends, ∃ result, entry.2 = .done result) :
    ∀ entry ∈ after.ends, ∃ result, entry.2 = .done result := by
  induction leads with
  | nothing => exact done
  | more earlier step inductionHypothesis =>
      cases step with
      | called | started | replied | discarded => exact inductionHypothesis
      | @ended _ _ run _ durationMs going ready measured taken =>
          intro entry member
          rcases List.mem_append.mp member with before | last
          · exact inductionHypothesis entry before
          · rw [List.mem_singleton.mp last]
            exact exists_ending_eq_done (earlier.hasBegun begun run (by simp [going])) ready _
      | @endedUnmeasured _ _ run failure going ready unmeasured =>
          obtain ⟨durationMs, measured⟩ := clock run.state.world
            (host.runner.reported run.launch run.state).world
          rw [Runner.elapsed] at unmeasured
          cases measured.symm.trans unmeasured

end Host

end Automation
