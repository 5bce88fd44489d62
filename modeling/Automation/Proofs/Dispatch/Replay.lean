import Automation.Dispatch
import Automation.Proofs.Run.Playing
import Automation.Proofs.Run.Recording
import Automation.Proofs.Value.Data

/-!
Runs told by the replies that they get.

A run that takes turns with others meets the world only where it waits: for a response, for an
agent, for a handler of its host or for the end of a delay. What it meets there is a reply. Played
from its start with the replies so far, a run goes as far as these take it and then waits.
-/

namespace Automation

/-- What ends a wait: the tick of the clock at which it comes, and what it is to a request, to an
agent call or a handler, and to a delay. A handler also leaves some variables. -/
structure Reply where
  tick : Nat
  exchange : Except Failure Http.Exchange
  output : Except Failure Value
  slept : Except Failure Unit
  «variables» : Variables

/-- The world of a run that is told by its replies: the tick of the clock, the replies that are
left, and whether the run waits for one that has not come. -/
structure Tape where
  tick : Nat
  replies : List Reply
  isWaiting : Bool

namespace Tape

/-- Read the next reply. Where there is none the run goes no further, as if it were cancelled. -/
def next {α : Type} (read : Reply → Except Failure α) (tape : Tape) : Outcome α × Tape :=
  match tape.replies with
  | [] => (.cancelled, { tape with isWaiting := true })
  | reply :: rest => (.ofExcept (read reply), { tape with tick := reply.tick, replies := rest })

/-- What a handler of the host does to a run: it leaves some variables, and an output. -/
def handler : Handler Tape := fun _ => do
  let reply ← Action.outside (next Except.ok)
  Action.setVariables reply.variables
  Action.ofExcept reply.output

end Tape

/-- What all runs of a dispatcher work with: besides the settings and the store, the types of steps
that the host handles, whether there is an agent, and what the clock shows at its ticks. -/
structure Host (τ : Type) where
  settings : Settings
  keywords : List String
  handled : List String
  hasAgent : Bool
  clock : Nat → Binary64
  store : RunStore τ
  platformKeys : List String

namespace Host

variable {τ : Type}

def executor (host : Host τ) : Executor Tape :=
  { settings := host.settings
    keywords := host.keywords
    handlers := host.handled.map fun type => (type, Tape.handler)
    collaborators :=
      { request := fun _ => Tape.next Reply.exchange
        agent := if host.hasAgent then some fun _ => Tape.next Reply.output else none
        sleep := fun _ => Tape.next Reply.slept
        now := fun tape => host.clock tape.tick } }

def runner (host : Host τ) : Runner Tape τ := ⟨host.executor, host.store, host.platformKeys⟩

end Host

/-- A run that has started: what was fired, the tick at which it started and what the store held
then, and the replies that came since. -/
structure StartedRun (τ : Type) where
  fired : FiredRun
  identity : RunIdentity
  tick : Nat
  store : τ
  replies : List Reply

namespace StartedRun

variable {τ : Type}

def id (run : StartedRun τ) : String := run.identity.executionId

def launch (run : StartedRun τ) : Launch := run.fired.launch run.identity

/-- The state in which a run starts. -/
def state (run : StartedRun τ) : RunState Tape τ := ⟨[], ⟨run.tick, run.replies, false⟩, run.store⟩

/-- A run with further replies. -/
def replied (more : List Reply) (run : StartedRun τ) : StartedRun τ :=
  { run with replies := run.replies ++ more }

@[simp] theorem replied_nil (run : StartedRun τ) : run.replied [] = run := by simp [replied]

/-- How far its replies take a run. -/
def progress (host : Host τ) (run : StartedRun τ) : Progress :=
  (host.runner.played run.launch run.state).1

/-- Whether a run waits for a further reply. -/
def isWaiting (host : Host τ) (run : StartedRun τ) : Bool :=
  (host.runner.played run.launch run.state).2.world.isWaiting

end StartedRun

section

variable {α β : Type}

/-- A state with further replies behind those that are left. -/
def State.followedBy (state : State Tape) (more : List Reply) : State Tape :=
  { state with world := { state.world with replies := state.world.replies ++ more } }

theorem State.followedBy_followedBy (state : State Tape) (first second : List Reply) :
    (state.followedBy first).followedBy second = state.followedBy (first ++ second) := by
  simp [followedBy]

/-- An action that proceeds by replies: it is cancelled exactly where it waits for one, what it did
stays as it is when more of them come, and some replies take it to its end. -/
structure Action.IsReplayed (action : Action Tape α) : Prop where
  cancelled_iff : ∀ state : State Tape, state.world.isWaiting = false →
    ((action state).1 = .cancelled ↔ (action state).2.world.isWaiting = true)
  further : ∀ (state : State Tape) more, state.world.isWaiting = false →
    (action state).2.world.isWaiting = false →
      action (state.followedBy more) = ((action state).1, (action state).2.followedBy more)
  ends : ∀ state : State Tape, state.world.isWaiting = false →
    ∃ more, (action (state.followedBy more)).2.world.isWaiting = false

namespace Action.IsReplayed

variable {action : Action Tape α}

/-- An action that meets no world. -/
theorem of_eq {outcome : State Tape → Outcome α} {tidy : State Tape → State Tape}
    (same : ∀ state, action state = (outcome state, tidy state))
    (uncancelled : ∀ state, outcome state ≠ .cancelled)
    (apart : ∀ state more, outcome (state.followedBy more) = outcome state ∧
      tidy (state.followedBy more) = (tidy state).followedBy more)
    (still : ∀ state, (tidy state).world.isWaiting = state.world.isWaiting) :
    action.IsReplayed where
  cancelled_iff state idle := by simp [same, uncancelled, still, idle]
  further state more _ _ := by simp [same, apart]
  ends state idle := ⟨[], by simpa [same, still, State.followedBy] using idle⟩

theorem done (result : α) : (Action.done result : Action Tape α).IsReplayed := by
  refine of_eq (fun _ => rfl) ?_ ?_ ?_ <;> simp

theorem next (read : Reply → Except Failure α) :
    (Action.outside (Tape.next read)).IsReplayed where
  cancelled_iff state idle := by
    cases left : state.world.replies with
    | nil => simp [outside, Tape.next, left]
    | cons reply rest => cases answer : read reply <;>
        simp [outside, Tape.next, left, answer, Outcome.ofExcept, idle]
  further state more idle after := by
    cases left : state.world.replies with
    | nil => simp [outside, Tape.next, left] at after
    | cons reply rest => simp [outside, Tape.next, left, State.followedBy]
  ends state idle := by
    refine ⟨[⟨0, .error .columnOverflow, .error .columnOverflow, .error .columnOverflow, ⟨[]⟩⟩], ?_⟩
    cases left : state.world.replies <;>
      simp [outside, Tape.next, left, State.followedBy, idle]

theorem bind {next : α → Action Tape β} (first : action.IsReplayed)
    (later : ∀ result, (next result).IsReplayed) : (action >>= next).IsReplayed where
  cancelled_iff state idle := by
    have stops := first.cancelled_iff state idle
    cases ended : action state with
    | mk outcome between =>
        rw [ended] at stops
        cases outcome with
        | done result =>
            rw [bind_of_done ended]
            exact (later result).cancelled_iff between (by simpa using stops)
        | failed failure =>
            rw [bind_of_failed ended]
            simpa using stops
        | cancelled =>
            rw [bind_of_cancelled ended]
            simpa using stops
  further state more idle after := by
    have stops := first.cancelled_iff state idle
    have goesOn := first.further state more idle
    cases ended : action state with
    | mk outcome between =>
        rw [ended] at stops goesOn
        cases outcome with
        | done result =>
            have awake : between.world.isWaiting = false := by simpa using stops
            rw [bind_of_done ended] at after ⊢
            rw [bind_of_done (goesOn awake)]
            exact (later result).further between more awake after
        | failed failure =>
            rw [bind_of_failed ended] at after ⊢
            rw [bind_of_failed (goesOn after)]
        | cancelled =>
            rw [bind_of_cancelled ended] at after ⊢
            rw [bind_of_cancelled (goesOn after)]
  ends state idle := by
    obtain ⟨more, awake⟩ := first.ends state idle
    cases ended : action (state.followedBy more) with
    | mk outcome between =>
        rw [ended] at awake
        cases outcome with
        | done result =>
            -- What the first part did stays as it is when the replies to the rest come behind.
            obtain ⟨others, last⟩ := (later result).ends between awake
            refine ⟨more ++ others, ?_⟩
            have goesOn := first.further (state.followedBy more) others idle
            rw [ended, State.followedBy_followedBy] at goesOn
            rw [bind_of_done (goesOn awake)]
            exact last
        | failed failure =>
            refine ⟨more, ?_⟩
            rw [bind_of_failed ended]
            exact awake
        | cancelled =>
            refine ⟨more, ?_⟩
            rw [bind_of_cancelled ended]
            exact awake

/-- An action that ends as another one does, but for what it gives. -/
theorem of_outcome {second : Action Tape β} {g : Outcome α → Outcome β}
    (first : action.IsReplayed)
    (same : ∀ state, second state = (g (action state).1, (action state).2))
    (cancelled : ∀ outcome, g outcome = .cancelled ↔ outcome = .cancelled) :
    second.IsReplayed where
  cancelled_iff state idle := by
    rw [same, cancelled]
    exact first.cancelled_iff state idle
  further state more idle after := by
    rw [same] at after ⊢
    rw [same, first.further state more idle after]
  ends state idle := by
    obtain ⟨more, awake⟩ := first.ends state idle
    refine ⟨more, ?_⟩
    rw [same]
    exact awake

theorem settle (first : action.IsReplayed) : action.settle.IsReplayed := by
  refine first.of_outcome (settle_eq action) fun outcome => ?_
  cases outcome <;> simp [Outcome.settled]

theorem rescope (tidy : Variables → Variables) (replayed : action.IsReplayed) :
    (action.ensure fun state =>
      { state with «variables» := tidy state.variables }).IsReplayed where
  cancelled_iff := replayed.cancelled_iff
  further state more idle after := by
    rw [ensure, replayed.further state more idle after]
    rfl
  ends := replayed.ends

theorem relates :
    Relates (σ := Tape) fun _ first second => second = first ∧ first.IsReplayed where
  done result := ⟨rfl, done result⟩
  fail failure := by
    refine ⟨rfl, of_eq (fun _ => rfl) ?_ ?_ ?_⟩ <;> simp
  bind := by
    rintro _ _ first _ next nextToo ⟨rfl, replayed⟩ further
    obtain rfl : nextToo = next := funext fun result => (further result).1
    exact ⟨rfl, replayed.bind fun result => (further result).2⟩
  recover := by
    rintro _ first _ handle handleToo ⟨rfl, replayed⟩ handled
    obtain rfl : handleToo = handle := funext fun failure => (handled failure).1
    refine ⟨rfl, ?_⟩
    rw [recover_eq]
    refine replayed.settle.bind fun ended => ?_
    cases ended with
    | ok result => exact done result
    | error failure => exact (handled failure).2
  rescope := by
    rintro _ first _ tidy ⟨rfl, replayed⟩
    exact ⟨rfl, replayed.rescope tidy⟩
  log level message := by
    refine ⟨rfl, of_eq (fun _ => rfl) ?_ ?_ ?_⟩ <;> simp [State.followedBy]
  scope := by
    refine ⟨rfl, of_eq (fun _ => rfl) ?_ ?_ ?_⟩ <;> simp [State.followedBy]
  setVariables scope := by
    refine ⟨rfl, of_eq (fun _ => rfl) ?_ ?_ ?_⟩ <;> simp [State.followedBy]

end Action.IsReplayed

end

namespace Host

open Automation.Action (IsReplayed)

variable {τ : Type} {host : Host τ}

theorem eq_of_handled {type : String} {handler : Handler Tape}
    (handled : Entries.get? type host.executor.handlers = some handler) :
    handler = Tape.handler := by
  have member := Entries.mem_of_get? handled
  simp only [executor, List.mem_map, Prod.mk.injEq] at member
  obtain ⟨_, _, _, same⟩ := member
  exact same.symm

theorem alike (host : Host τ) :
    host.executor.Alike (fun _ first second => second = first ∧ first.IsReplayed)
      host.executor where
  settings := rfl
  keywords := rfl
  handlers type := by
    cases handled : Entries.get? type host.executor.handlers with
    | none => exact .none
    | some handler =>
        refine .some fun step => ⟨rfl, ?_⟩
        rw [eq_of_handled handled]
        exact (IsReplayed.next _).bind fun reply =>
          (IsReplayed.relates.setVariables reply.variables).2.bind fun _ =>
            (IsReplayed.relates.ofExcept reply.output).2
  request _ := ⟨rfl, .next _⟩
  agent := by
    dsimp only [executor]
    split
    · exact .some fun _ => ⟨rfl, .next _⟩
    · exact .none
  sleep _ := ⟨rfl, .next _⟩
  now := by
    refine ⟨rfl, .of_eq (fun _ => rfl) ?_ ?_ ?_⟩ <;> simp [State.followedBy, executor]

theorem isReplayed_playing (host : Host τ) (executionId : String) (steps : List Step) :
    (Runner.playing host.executor executionId steps).IsReplayed :=
  (Action.IsReplayed.relates.playing host.alike executionId steps).2

end Host

/-- A fired run whose first record is taken, but whose structure cannot be told, stops there. -/
theorem Runner.played_of_untold {σ τ : Type} (runner : Runner σ τ) (state : RunState σ τ)
    {fired : FiredRun} {identity : RunIdentity} {failure : Failure}
    (taken : (runner.store.upsert (startingRecord (fired.launch identity)) state.store).1 = .ok ())
    (untold : structureLines runner.platformKeys identity.executionId fired.blueprint =
      .error failure) :
    ∃ after, runner.played (fired.launch identity) state = (.stopped (.failed failure), after) ∧
      after.world = state.world := by
  have read : (fired.launch identity).source.toBlueprint = .ok fired.blueprint := rfl
  have unprepared : runner.prepare (fired.launch identity) = .error failure := by
    rw [prepare, read]
    exact congrArg ((fired.blueprint, ·) <$> ·) untold
  have accepted := @record_of_taken σ τ runner (begun (fired.launch identity) state) _ _
    (Prod.ext taken rfl)
  exact ⟨_, played_of_unprepared accepted unprepared, rfl⟩

namespace StartedRun

variable {τ : Type} {host : Host τ} {run : StartedRun τ}

/-- A run whose first record was taken. -/
def HasBegun (host : Host τ) (run : StartedRun τ) : Prop :=
  (host.store.upsert (Runner.startingRecord run.launch) run.store).1 = .ok ()

/-- A run whose structure cannot be told stops there. The steps of another one start in one state,
whatever further replies it gets. -/
theorem HasBegun.untold_or_exists_start (begun : run.HasBegun host) :
    (∃ failure,
        Runner.structureLines host.platformKeys run.id run.fired.blueprint = .error failure ∧
          run.progress host = .stopped (.failed failure) ∧ run.isWaiting host = false) ∨
      ∃ start : State Tape, start.variables =
          Variables.create run.fired.blueprint.variables run.fired.triggerData ∧
        start.world = ⟨run.tick, run.replies, false⟩ ∧
        ∀ more, host.runner.Begins (run.replied more).launch (run.replied more).state
          run.fired.blueprint (start.followedBy more) := by
  cases told : Runner.structureLines host.platformKeys run.id run.fired.blueprint with
  | error failure =>
      obtain ⟨after, stops, world⟩ :=
        Runner.played_of_untold host.runner run.state begun told
      have played : host.runner.played run.launch run.state = _ := stops
      refine .inl ⟨failure, rfl, ?_, ?_⟩
      · rw [progress, played]
      · rw [isWaiting, played, world]
        rfl
  | ok lines =>
      have taken : host.store.upsert (Runner.startingRecord run.launch) run.store =
          (.ok (), _) := Prod.ext begun rfl
      let log := (host.store.announce (Runner.startingRecord run.launch)).reverse ++
        (Runner.begun run.launch run.state).log
      refine .inr ⟨⟨_, lines ++ log, _⟩, rfl, rfl, fun more => ?_⟩
      exact .mk (Runner.record_of_taken taken) (Runner.prepare_eq_ok_iff.mpr ⟨rfl, told⟩)

/-- Where the structure of its blueprint can be told, a run waits exactly if its steps do. -/
theorem HasBegun.exists_isWaiting_eq (begun : run.HasBegun host)
    (printable : run.fired.blueprint.stored.isPrintable = true) :
    ∃ log, run.isWaiting host =
      (Runner.runSteps host.executor run.id run.fired.blueprint.steps
        ⟨Variables.create run.fired.blueprint.variables run.fired.triggerData, log,
          ⟨run.tick, run.replies, false⟩⟩).2.world.isWaiting := by
  rcases begun.untold_or_exists_start with
    ⟨failure, untold, _⟩ | ⟨start, scope, world, begins⟩
  · obtain ⟨lines, prepared⟩ := host.runner.exists_prepare_eq_ok run.launch rfl printable
    cases (Runner.prepare_eq_ok_iff.mp prepared).2.symm.trans untold
  · have begins := begins []
    rw [replied_nil] at begins
    have same : start.followedBy [] = ⟨start.variables, start.log, start.world⟩ := by
      simp [State.followedBy]
    refine ⟨start.log, ?_⟩
    rw [isWaiting, begins.played_eq.2, same, scope, world]
    rfl

/-- A run that does not wait was not cancelled. It went no further than its structure, which cannot
be told, or its steps went as those of the fired blueprint do. -/
theorem HasBegun.exists_plays (begun : run.HasBegun host) (ready : run.isWaiting host = false) :
    (run.progress host).ending ≠ .cancelled ∧
      ((∃ failure,
          Runner.structureLines host.platformKeys run.id run.fired.blueprint = .error failure ∧
            run.progress host = .stopped (.failed failure)) ∨
        ∃ start after : State Tape, start.variables =
            Variables.create run.fired.blueprint.variables run.fired.triggerData ∧
          Runner.Plays host.executor run.id run.fired.blueprint.steps start
            (run.progress host) after) := by
  rcases begun.untold_or_exists_start with
    ⟨failure, untold, stops, _⟩ | ⟨start, scope, world, begins⟩
  · refine ⟨?_, .inl ⟨failure, untold, stops⟩⟩
    rw [stops]
    exact nofun
  · have begins := begins []
    rw [replied_nil] at begins
    have idle : (start.followedBy []).world.isWaiting = false := by rw [State.followedBy, world]
    have stops := (host.isReplayed_playing run.id
      run.fired.blueprint.steps).cancelled_iff (start.followedBy []) idle
    rw [isWaiting, begins.played_eq.2] at ready
    rw [progress, begins.played_eq.1]
    refine ⟨?_, .inr ⟨start.followedBy [], _, scope, Runner.plays_runSteps _ _ _ _⟩⟩
    intro cancelled
    have waits := stops.mp (Runner.settled_eq_cancelled_iff.mpr cancelled)
    exact Bool.false_ne_true (ready.symm.trans waits)

/-- Further replies change nothing for a run that does not wait. -/
theorem HasBegun.replied_alike (begun : run.HasBegun host) (ready : run.isWaiting host = false)
    (more : List Reply) :
    (run.replied more).isWaiting host = false ∧
      (run.replied more).progress host = run.progress host ∧
      host.runner.elapsed (run.replied more).launch (run.replied more).state =
        host.runner.elapsed run.launch run.state := by
  have uncancelled := (begun.exists_plays ready).1
  rcases begun.untold_or_exists_start with
    ⟨failure, untold, -⟩ | ⟨start, scope, world, begins⟩
  · obtain ⟨after, stops, world⟩ :=
      Runner.played_of_untold host.runner run.state begun untold
    obtain ⟨afterMore, stopsMore, worldMore⟩ := Runner.played_of_untold host.runner
      (run.replied more).state begun untold
    have played : host.runner.played run.launch run.state = _ := stops
    have playedMore : host.runner.played (run.replied more).launch (run.replied more).state = _ :=
      stopsMore
    refine ⟨?_, ?_, ?_⟩
    · rw [isWaiting, playedMore, worldMore]
      rfl
    · rw [progress, progress, played, playedMore]
    · rw [Runner.elapsed, Runner.elapsed, Runner.world_reported, Runner.world_reported, played,
        playedMore, world, worldMore]
      rfl
  · have begun := begins []
    rw [replied_nil] at begun
    have same : start.followedBy [] = start := by
      rw [State.followedBy, List.append_nil]
    rw [same] at begun
    have idle : start.world.isWaiting = false := by rw [world]
    let playing := Runner.playing host.executor run.id run.fired.blueprint.steps
    have progressed : run.progress host = _ := begun.played_eq.1
    have last : (host.runner.played run.launch run.state).2.world = (playing start).2.world :=
      begun.played_eq.2
    have idleThen : (playing start).2.world.isWaiting = false := by
      rw [isWaiting, last] at ready
      exact ready
    obtain ⟨settles, stops⟩ := Prod.mk.inj
      ((host.isReplayed_playing run.id run.fired.blueprint.steps).further start more idle idleThen)
    have lastMore :
        (host.runner.played (run.replied more).launch (run.replied more).state).2.world =
          ((playing start).2.followedBy more).world :=
      (begins more).played_eq.2.trans (congrArg State.world stops)
    refine ⟨?_, ?_, ?_⟩
    · rw [isWaiting, lastMore]
      exact idleThen
    · rw [progressed] at uncancelled ⊢
      have goesOn := fun cancelled => uncancelled (Runner.settled_eq_cancelled_iff.mp cancelled)
      rw [progress, (begins more).played_eq.1]
      exact (Runner.eq_of_settled_eq goesOn settles.symm).symm
    · rw [Runner.elapsed, Runner.elapsed, Runner.world_reported, Runner.world_reported, last,
        lastMore]
      rfl

/-- Some further replies take a run to its end. -/
theorem HasBegun.exists_replies (begun : run.HasBegun host) :
    ∃ more, (run.replied more).isWaiting host = false := by
  rcases begun.untold_or_exists_start with ⟨_, _, _, ready⟩ | ⟨start, scope, world, begins⟩
  · exact ⟨[], by rwa [replied_nil]⟩
  · obtain ⟨more, awake⟩ := (host.isReplayed_playing run.id
      run.fired.blueprint.steps).ends start (by rw [world])
    refine ⟨more, ?_⟩
    rw [isWaiting, (begins more).played_eq.2]
    exact awake

end StartedRun

end Automation
