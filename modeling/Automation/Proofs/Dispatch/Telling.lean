import Automation.Proofs.Dispatch.Replay
import Mathlib.Tactic.DeriveCountable

/-!
Every run is told by its replies.

All that a run learns of its world are the answers that it gets and the times that it reads. Where
runs share a world, what the others do while a run waits is part of what its wait does to the world.
So the replies that hold these answers and times tell the same run: its steps end as they did, and
it takes the time that it took.
-/

namespace Automation

deriving instance Countable for Binary64

variable {σ τ : Type}

/-- An action that some replies tell, unless it is cancelled: with these another one ends like it,
leaves the variables that it leaves and comes to a tick that shows the time that it comes to. -/
structure Action.IsTold {α : Type} (now : σ → Binary64) (clock : Nat → Binary64)
    (action : Action σ α) (telling : Action Tape α) : Prop where
  tells {state outcome after} (tick : Nat) (ends : action state = (outcome, after))
    (uncancelled : outcome ≠ .cancelled) (shows : clock tick = now state.world) :
    ∃ replies last, clock last = now after.world ∧ ∀ log rest, ∃ logAfter,
      telling ⟨state.variables, log, ⟨tick, replies ++ rest, false⟩⟩ =
        (outcome, ⟨after.variables, logAfter, ⟨last, rest, false⟩⟩)

namespace Action.IsTold

variable {α β : Type} {now : σ → Binary64} {clock : Nat → Binary64} {action : Action σ α}
  {telling : Action Tape α}

/-- An action that meets no world. -/
theorem of_still (still : ∀ state, (action state).2.world = state.world ∧
    ∀ log world, ∃ logAfter, telling ⟨state.variables, log, world⟩ =
      ((action state).1, ⟨(action state).2.variables, logAfter, world⟩)) :
    IsTold now clock action telling := by
  refine ⟨fun {state ending after} tick ends uncancelled shows => ?_⟩
  obtain ⟨same, tells⟩ := still state
  rw [ends] at same tells
  exact ⟨[], tick, by rw [same, shows], fun log rest => tells log _⟩

theorem bind {next : α → Action σ β} {nextToo : α → Action Tape β}
    (told : IsTold now clock action telling)
    (further : ∀ result, IsTold now clock (next result) (nextToo result)) :
    IsTold now clock (action >>= next) (telling >>= nextToo) := by
  refine ⟨fun {state ending after} tick ends uncancelled shows => ?_⟩
  cases ended : action state with
  | mk outcome between =>
      cases outcome with
      | done result =>
          rw [bind_of_done ended] at ends
          obtain ⟨replies, middle, showsMiddle, tells⟩ := told.tells tick ended nofun shows
          obtain ⟨others, last, showsLast, tellsMore⟩ :=
            (further result).tells middle ends uncancelled showsMiddle
          refine ⟨replies ++ others, last, showsLast, fun log rest => ?_⟩
          obtain ⟨logBetween, first⟩ := tells log (others ++ rest)
          obtain ⟨logAfter, second⟩ := tellsMore logBetween rest
          rw [List.append_assoc]
          exact ⟨logAfter, (bind_of_done first).trans second⟩
      | failed failure =>
          rw [bind_of_failed ended] at ends
          obtain ⟨rfl, rfl⟩ := Prod.mk.inj ends
          obtain ⟨replies, last, showsLast, tells⟩ := told.tells tick ended nofun shows
          refine ⟨replies, last, showsLast, fun log rest => ?_⟩
          obtain ⟨logAfter, first⟩ := tells log rest
          exact ⟨logAfter, bind_of_failed first⟩
      | cancelled =>
          rw [bind_of_cancelled ended] at ends
          exact absurd (congrArg Prod.fst ends).symm uncancelled

theorem settle (told : IsTold now clock action telling) :
    IsTold now clock action.settle telling.settle := by
  refine ⟨fun {state ending after} tick ends uncancelled shows => ?_⟩
  obtain ⟨rfl, rfl⟩ := Prod.mk.inj ((settle_eq action state).symm.trans ends)
  have goesOn : (action state).1 ≠ .cancelled := fun stops => uncancelled (by rw [stops]; rfl)
  obtain ⟨replies, last, showsLast, tells⟩ := told.tells tick rfl goesOn shows
  refine ⟨replies, last, showsLast, fun log rest => ?_⟩
  obtain ⟨logAfter, first⟩ := tells log rest
  exact ⟨logAfter, by rw [settle_eq, first]⟩

theorem rescope (tidy : Variables → Variables) (told : IsTold now clock action telling) :
    IsTold now clock
      (action.ensure fun state => { state with «variables» := tidy state.variables })
      (telling.ensure fun state => { state with «variables» := tidy state.variables }) := by
  refine ⟨fun {state ending after} tick ends uncancelled shows => ?_⟩
  obtain ⟨rfl, rfl⟩ := Prod.mk.inj ends
  obtain ⟨replies, last, showsLast, tells⟩ := told.tells tick rfl uncancelled shows
  refine ⟨replies, last, showsLast, fun log rest => ?_⟩
  obtain ⟨logAfter, first⟩ := tells log rest
  exact ⟨logAfter, by rw [ensure, first]⟩

theorem relates (now : σ → Binary64) (clock : Nat → Binary64) :
    Relates fun _ => IsTold now clock where
  done result := of_still fun state => ⟨rfl, fun log world => ⟨_, rfl⟩⟩
  fail failure := of_still fun state => ⟨rfl, fun log world => ⟨_, rfl⟩⟩
  bind := bind
  recover {α first second handle handleToo} told handled := by
    rw [recover_eq, recover_eq]
    refine told.settle.bind fun ended => ?_
    cases ended with
    | ok result => exact of_still fun state => ⟨rfl, fun log world => ⟨_, rfl⟩⟩
    | error failure => exact handled failure
  rescope tidy told := told.rescope tidy
  log level message := of_still fun state => ⟨rfl, fun log world => ⟨_, rfl⟩⟩
  scope := of_still fun state => ⟨rfl, fun log world => ⟨_, rfl⟩⟩
  setVariables scope := of_still fun state => ⟨rfl, fun log world => ⟨_, rfl⟩⟩

section

variable (shows : ∀ world, ∃ tick, clock tick = now world)

include shows

/-- What the world answers is told by the reply that holds it. -/
theorem outside {effect : σ → Outcome α × σ} {read : Reply → Except Failure α}
    (holds : ∀ answer tick, ∃ reply : Reply, read reply = answer ∧ reply.tick = tick) :
    IsTold now clock (Action.outside effect) (Action.outside (Tape.next read)) := by
  refine ⟨fun {state ending after} tick ends uncancelled showsNow => ?_⟩
  cases answered : effect state.world with
  | mk outcome world =>
      rw [Action.outside, answered] at ends
      obtain ⟨rfl, rfl⟩ := Prod.mk.inj ends
      obtain ⟨last, showsLast⟩ := shows world
      obtain ⟨answer, same⟩ : ∃ answer, outcome = .ofExcept answer := by
        cases outcome with
        | done result => exact ⟨.ok result, rfl⟩
        | failed failure => exact ⟨.error failure, rfl⟩
        | cancelled => exact absurd rfl uncancelled
      obtain ⟨reply, isRead, rfl⟩ := holds answer last
      refine ⟨[reply], reply.tick, showsLast, fun log rest => ⟨log, ?_⟩⟩
      rw [same, ← isRead]
      rfl

/-- What a handler does is told by the reply that holds its output and the variables it leaves. -/
theorem handler (handler : Handler σ) (step : Step) :
    IsTold now clock (handler step) (Tape.handler step) := by
  refine ⟨fun {state ending after} tick ends uncancelled showsNow => ?_⟩
  obtain ⟨last, showsLast⟩ := shows after.world
  cases ending with
  | done output =>
      refine ⟨[⟨last, .error .columnOverflow, .ok output, .ok (), after.variables⟩], last,
        showsLast, fun log rest => ⟨log, rfl⟩⟩
  | failed failure =>
      refine ⟨[⟨last, .error .columnOverflow, .error failure, .ok (), after.variables⟩], last,
        showsLast, fun log rest => ⟨log, rfl⟩⟩
  | cancelled => exact absurd rfl uncancelled

end

end Action.IsTold

/-- A host that stands for an executor: the same settings and the same types of steps that are
handled, an agent where there is one, and a clock that shows all the times of the other one. -/
structure Host.StandsFor (host : Host τ) (executor : Executor σ) : Prop where
  settings : host.settings = executor.settings
  keywords : host.keywords = executor.keywords
  handled (type : String) : Entries.has type host.executor.handlers =
    Entries.has type executor.handlers
  hasAgent : host.hasAgent = executor.collaborators.agent.isSome
  clock (world : σ) : ∃ tick, host.clock tick = executor.collaborators.now world

namespace Host

open Automation.Action (IsTold)

variable {host : Host τ} {executor : Executor σ}

theorem StandsFor.alike (stands : host.StandsFor executor) :
    executor.Alike (fun _ => IsTold executor.collaborators.now host.clock) host.executor where
  settings := stands.settings
  keywords := stands.keywords
  handlers type := by
    have handled := stands.handled type
    rw [Entries.has, Entries.has] at handled
    cases first : Entries.get? type executor.handlers with
    | none =>
        rw [first, Option.isSome_none, Option.isSome_eq_false_iff, Option.isNone_iff_eq_none]
          at handled
        rw [handled]
        exact .none
    | some handler =>
        rw [first] at handled
        obtain ⟨second, isSecond⟩ := Option.isSome_iff_exists.mp handled
        rw [isSecond, eq_of_handled isSecond]
        exact .some fun step => .handler stands.clock handler step
  request _ := .outside stands.clock fun answer tick =>
    ⟨⟨tick, answer, .error .columnOverflow, .ok (), ⟨[]⟩⟩, rfl, rfl⟩
  agent := by
    have same := stands.hasAgent
    dsimp only [Host.executor]
    cases agent : executor.collaborators.agent with
    | none =>
        rw [if_neg (by simp [same, agent])]
        exact .none
    | some invoke =>
        rw [if_pos (by simp [same, agent])]
        exact .some fun _ => .outside stands.clock fun answer tick =>
          ⟨⟨tick, .error .columnOverflow, answer, .ok (), ⟨[]⟩⟩, rfl, rfl⟩
  sleep _ := .outside stands.clock fun answer tick =>
    ⟨⟨tick, .error .columnOverflow, .error .columnOverflow, answer, ⟨[]⟩⟩, rfl, rfl⟩
  now := by
    refine ⟨fun {state ending after} tick ends uncancelled shows => ?_⟩
    obtain ⟨rfl, rfl⟩ := Prod.mk.inj ends
    exact ⟨[], tick, shows, fun log rest => ⟨log, by rw [← shows]; rfl⟩⟩

end Host

/-- A host that stands for a runner. -/
structure Host.StandsForRunner (host : Host τ) (runner : Runner σ τ) : Prop where
  executor : host.StandsFor runner.executor
  store : host.store = runner.store
  platformKeys : host.platformKeys = runner.platformKeys

/-- Some host stands for each runner. -/
theorem Host.exists_standsForRunner (runner : Runner σ τ) :
    ∃ host : Host τ, host.StandsForRunner runner := by
  obtain ⟨executor, store, platformKeys⟩ := runner
  obtain ⟨clock, shows⟩ := exists_surjective_nat Binary64
  refine ⟨⟨executor.settings, executor.keywords, executor.handlers.map Prod.fst,
    executor.collaborators.agent.isSome, clock, store, platformKeys⟩, ?_, rfl, rfl⟩
  refine ⟨rfl, rfl, fun type => ?_, rfl, fun world => shows _⟩
  dsimp only [Host.executor]
  induction executor.handlers with
  | nil => rfl
  | cons entry rest inductionHypothesis =>
      simp only [List.map_cons, Entries.has, Entries.get?] at inductionHypothesis ⊢
      split
      · rfl
      · exact inductionHypothesis

/-- The steps of a run start in its world, once the store took the first record. -/
theorem Runner.Begins.start_eq {runner : Runner σ τ} {launch : Launch} {state : RunState σ τ}
    {blueprint : Blueprint} {start : State σ}
    (begins : runner.Begins launch state blueprint start) :
    start.variables = Variables.create blueprint.variables launch.triggerData ∧
      start.world = state.world ∧
      (runner.store.upsert (startingRecord launch) state.store).1 = .ok () := by
  cases begins with
  | @mk recorded _ accepted prepared =>
      have taken := runner.answer_record (startingRecord launch) (begun launch state)
      have world := runner.world_record (startingRecord launch) (begun launch state)
      rw [accepted] at taken world
      exact ⟨rfl, world, taken.symm⟩

namespace StartedRun

variable {host : Host τ} {runner : Runner σ τ} {fired : FiredRun} {identity : RunIdentity}
  {state : RunState σ τ}

/-- A run that tells one of any world by the replies that it gets: with them it does not wait, makes
the same progress and takes the same time. -/
structure Tells (host : Host τ) (runner : Runner σ τ) (launch : Launch) (state : RunState σ τ)
    (run : StartedRun τ) : Prop where
  begun : run.HasBegun host
  ready : run.isWaiting host = false
  progress : run.progress host = (runner.played launch state).1
  elapsed : host.runner.elapsed run.launch run.state = runner.elapsed launch state

theorem hasBegun_of_taken (stands : host.StandsForRunner runner) (tick : Nat)
    (replies : List Reply)
    (taken : (runner.store.upsert (Runner.startingRecord (fired.launch identity)) state.store).1 =
      .ok ()) : HasBegun host ⟨fired, identity, tick, state.store, replies⟩ := by
  rw [HasBegun, stands.store]
  exact taken

theorem exists_tells_of_untold {failure : Failure} (stands : host.StandsForRunner runner)
    (taken : (runner.store.upsert (Runner.startingRecord (fired.launch identity)) state.store).1 =
      .ok ())
    (untold : Runner.structureLines runner.platformKeys identity.executionId fired.blueprint =
      .error failure) :
    ∃ tick replies, Tells host runner (fired.launch identity) state
      ⟨fired, identity, tick, state.store, replies⟩ := by
  obtain ⟨tick, shows⟩ := stands.executor.clock state.world
  obtain ⟨after, stops, world⟩ := runner.played_of_untold state taken untold
  let run : StartedRun τ := ⟨fired, identity, tick, state.store, []⟩
  have begun : run.HasBegun host := hasBegun_of_taken stands tick [] taken
  rw [← stands.platformKeys] at untold
  obtain ⟨afterToo, stopsToo, worldToo⟩ :=
    Runner.played_of_untold host.runner run.state begun untold
  have played : host.runner.played run.launch run.state = _ := stopsToo
  suffices told : Tells host runner (fired.launch identity) state run from ⟨tick, [], told⟩
  refine ⟨begun, ?_, ?_, ?_⟩
  · rw [isWaiting, played, worldToo]
    rfl
  · rw [StartedRun.progress, played, stops]
  · rw [Runner.elapsed, Runner.elapsed, Runner.world_reported, Runner.world_reported, played,
      stops, world, worldToo, ← shows]
    rfl

theorem exists_tells_of_begins {start : State σ} (stands : host.StandsForRunner runner)
    (begins : runner.Begins (fired.launch identity) state fired.blueprint start)
    (uncancelled : (runner.played (fired.launch identity) state).1.ending ≠ .cancelled) :
    ∃ tick replies, Tells host runner (fired.launch identity) state
      ⟨fired, identity, tick, state.store, replies⟩ := by
  obtain ⟨tick, shows⟩ := stands.executor.clock state.world
  obtain ⟨scope, world, taken⟩ := begins.start_eq
  have told := (Action.IsTold.relates runner.executor.collaborators.now host.clock).playing
    stands.executor.alike identity.executionId fired.blueprint.steps
  have goesOn : Runner.settled (runner.played (fired.launch identity) state).1 ≠ .cancelled :=
    fun stops => uncancelled (Runner.settled_eq_cancelled_iff.mp stops)
  rw [begins.played_eq.1] at goesOn
  obtain ⟨replies, last, showsLast, tells⟩ := told.tells tick rfl goesOn (by rw [world, shows])
  let run : StartedRun τ := ⟨fired, identity, tick, state.store, replies⟩
  have begun : run.HasBegun host := hasBegun_of_taken stands tick replies taken
  rcases begun.untold_or_exists_start with
    ⟨failure, untold, -⟩ | ⟨startToo, scopeToo, worldToo, beginsToo⟩
  · -- The structure of the blueprint was told, since the run of that world began.
    obtain ⟨lines, lineTold⟩ := begins.exists_lines
    rw [stands.platformKeys] at untold
    cases lineTold.symm.trans untold
  -- The replies do not depend on the log, so they serve whatever log the told run starts with.
  obtain ⟨logAfter, plays⟩ := tells startToo.log []
  have same : startToo.followedBy [] =
      ⟨start.variables, startToo.log, ⟨tick, replies ++ [], false⟩⟩ := by
    rw [State.followedBy, worldToo, scopeToo, scope]
    rfl
  have begunNow := beginsToo []
  rw [same, replied_nil] at begunNow
  obtain ⟨progressed, worldAfter⟩ := begunNow.played_eq
  obtain ⟨settles, ended⟩ := Prod.mk.inj plays
  have alike : run.progress host = (runner.played (fired.launch identity) state).1 := by
    rw [StartedRun.progress, progressed, begins.played_eq.1]
    exact (Runner.eq_of_settled_eq goesOn settles.symm).symm
  have stops : (host.runner.played run.launch run.state).2.world = ⟨last, [], false⟩ :=
    worldAfter.trans (congrArg State.world ended)
  suffices told : Tells host runner (fired.launch identity) state run from ⟨tick, replies, told⟩
  refine ⟨begun, ?_, alike, ?_⟩
  · rw [isWaiting, stops]
  · have showsEnd : host.clock last = runner.executor.collaborators.now
        (runner.played (fired.launch identity) state).2.world := by
      rw [begins.played_eq.2]
      exact showsLast
    rw [Runner.elapsed, Runner.elapsed, Runner.world_reported, Runner.world_reported, stops,
      ← showsEnd, ← shows]
    rfl

/-- A run whose first record is taken and that is not cancelled is told by some replies. -/
theorem exists_tells (stands : host.StandsForRunner runner)
    (taken : (runner.store.upsert (Runner.startingRecord (fired.launch identity)) state.store).1 =
      .ok ())
    (uncancelled : (runner.played (fired.launch identity) state).1.ending ≠ .cancelled) :
    ∃ tick replies, Tells host runner (fired.launch identity) state
      ⟨fired, identity, tick, state.store, replies⟩ := by
  cases told : Runner.structureLines runner.platformKeys identity.executionId fired.blueprint with
  | error failure => exact exists_tells_of_untold stands taken told
  | ok lines =>
      have accepted := @Runner.record_of_taken _ _ runner
        (Runner.begun (fired.launch identity) state) _ _ (Prod.ext taken rfl)
      exact exists_tells_of_begins stands
        (.mk accepted (Runner.prepare_eq_ok_iff.mpr ⟨rfl, told⟩)) uncancelled

end StartedRun

end Automation
