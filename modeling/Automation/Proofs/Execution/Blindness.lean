import Automation.Proofs.Execution.Composition

/-!
The log is only written.

Two states show the same scene where they have the same variables and the same world, whatever was
logged. A blind action ends in the same way and leaves the same scene, from all states that show one
scene. Executions are blind where the handlers of the host are. `EndsAs` says how a step ends, up to
the log.
-/

namespace Automation

/-- What a step finds and changes of a run: the variables and the world outside. -/
structure Scene (σ : Type) where
  «variables» : Variables
  world : σ

namespace State

variable {σ : Type}

def scene (state : State σ) : Scene σ := ⟨state.variables, state.world⟩

theorem scene_eq_iff {first second : State σ} :
    first.scene = second.scene ↔
      first.variables = second.variables ∧ first.world = second.world := by
  simp [scene]

end State

/-- An action that reads no log: it ends in the same way and leaves the same scene, from all states
that show one scene. -/
def Action.Blind {σ : Type} (α : Type) (action : Action σ α) : Prop :=
  ∀ first second : State σ, first.scene = second.scene →
    (action first).1 = (action second).1 ∧ (action first).2.scene = (action second).2.scene

namespace Action.Blind

variable {σ α β : Type} {action : Action σ α}

theorem bind {next : α → Action σ β} (blind : Blind α action)
    (further : ∀ result, Blind β (next result)) : Blind β (action >>= next) := by
  intro first second same
  obtain ⟨sameOutcome, sameScene⟩ := blind first second same
  cases endedFirst : action first with
  | mk outcome afterFirst =>
      cases endedSecond : action second with
      | mk outcomeToo afterSecond =>
          rw [endedFirst, endedSecond] at sameOutcome sameScene
          obtain rfl : outcome = outcomeToo := sameOutcome
          cases outcome with
          | done result =>
              rw [bind_of_done endedFirst, bind_of_done endedSecond]
              exact further result afterFirst afterSecond sameScene
          | failed failure =>
              rw [bind_of_failed endedFirst, bind_of_failed endedSecond]
              exact ⟨rfl, sameScene⟩
          | cancelled =>
              rw [bind_of_cancelled endedFirst, bind_of_cancelled endedSecond]
              exact ⟨rfl, sameScene⟩

theorem recover {handle : Failure → Action σ α} (blind : Blind α action)
    (handled : ∀ failure, Blind α (handle failure)) : Blind α (action.recover handle) := by
  intro first second same
  obtain ⟨sameOutcome, sameScene⟩ := blind first second same
  cases endedFirst : action first with
  | mk outcome afterFirst =>
      cases endedSecond : action second with
      | mk outcomeToo afterSecond =>
          rw [endedFirst, endedSecond] at sameOutcome sameScene
          obtain rfl : outcome = outcomeToo := sameOutcome
          cases outcome with
          | done result =>
              rw [recover_of_done endedFirst, recover_of_done endedSecond]
              exact ⟨rfl, sameScene⟩
          | failed failure =>
              rw [recover_of_failed endedFirst, recover_of_failed endedSecond]
              exact handled failure afterFirst afterSecond sameScene
          | cancelled =>
              rw [recover_of_cancelled endedFirst, recover_of_cancelled endedSecond]
              exact ⟨rfl, sameScene⟩

theorem setVariables (scope : Variables) : Blind (σ := σ) Unit (Action.setVariables scope) := by
  intro first second same
  obtain ⟨_, sameWorld⟩ := State.scene_eq_iff.mp same
  exact ⟨rfl, State.scene_eq_iff.mpr ⟨rfl, sameWorld⟩⟩

theorem outside (effect : σ → Outcome α × σ) : Blind α (Action.outside effect) := by
  intro first second same
  obtain ⟨sameScope, sameWorld⟩ := State.scene_eq_iff.mp same
  simp only [Action.outside, sameWorld, true_and]
  exact State.scene_eq_iff.mpr ⟨sameScope, rfl⟩

theorem ensure {tidy : State σ → State σ} (blind : Blind α action)
    (tidies : ∀ first second : State σ, first.scene = second.scene →
      (tidy first).scene = (tidy second).scene) : Blind α (action.ensure tidy) := by
  intro first second same
  obtain ⟨sameOutcome, sameScene⟩ := blind first second same
  exact ⟨sameOutcome, tidies _ _ sameScene⟩

theorem isClosed : IsClosed (σ := σ) Blind where
  done _ := fun _ _ same => ⟨rfl, same⟩
  fail _ := fun _ _ same => ⟨rfl, same⟩
  bind := bind
  recover := recover
  log _ _ := fun _ _ same => ⟨rfl, same⟩
  scope := by
    intro first second same
    obtain ⟨sameScope, _⟩ := State.scene_eq_iff.mp same
    exact ⟨congrArg Outcome.done sameScope, same⟩
  outside := outside
  observe read := by
    intro first second same
    obtain ⟨_, sameWorld⟩ := State.scene_eq_iff.mp same
    exact ⟨congrArg (fun world => Outcome.done (read world)) sameWorld, same⟩

end Action.Blind

namespace Executor

open Automation.Action (Blind)

variable {σ : Type} {executor : Executor σ}

theorem blind_keep (header : StepHeader) (output : Value) :
    Blind (σ := σ) _ (keep header output) := by
  have closed := Blind.isClosed (σ := σ)
  unfold keep
  split
  · exact closed.bind closed.scope fun scope => closed.bind (closed.ofExcept _) fun assigned =>
      closed.bind (.setVariables assigned) fun _ => closed.done output
  · exact closed.done output

theorem blind_visitItems {body : Action σ (List StepEntry)} (blind : Blind _ body)
    (position : Nat) (items : List Value) : Blind _ (visitItems body position items) := by
  have closed := Blind.isClosed (σ := σ)
  induction items generalizing position with
  | nil => exact closed.done []
  | cons item rest inductionHypothesis =>
      exact closed.bind closed.scope fun scope => closed.bind (.setVariables _) fun _ =>
        closed.bind blind fun entries => closed.bind (inductionHypothesis (position + 1))
          fun others => closed.done _

theorem blind_looping {header : StepHeader} {source : Value} {body : Action σ (List StepEntry)}
    (blind : Blind _ body) : Blind _ (looping header source body) := by
  have closed := Blind.isClosed (σ := σ)
  refine closed.bind closed.scope fun before => closed.bind (closed.ofExcept _) fun resolved => ?_
  cases resolved with
  | list items =>
      refine closed.bind (Blind.ensure (blind_visitItems blind 0 items) ?_) fun results =>
        closed.done _
      intro first second same
      obtain ⟨sameScope, sameWorld⟩ := State.scene_eq_iff.mp same
      exact State.scene_eq_iff.mpr ⟨congrArg (restoreLoop before) sameScope, sameWorld⟩
  | _ => exact closed.ofExcept _

/-- The handlers of a host that read no log. -/
def HandlersAreBlind (executor : Executor σ) : Prop :=
  ∀ type handler, Entries.get? type executor.handlers = some handler →
    ∀ step, Blind _ (handler step)

/-- An execution reads no log where the handlers of the host read none. -/
theorem blind_execute (blind : executor.HandlersAreBlind) (step : Step) :
    Blind _ (executor.execute step) := by
  refine execute_of_throughout Blind.isClosed (Step.throughout_of_forall (fun inner => ?_) step)
  exact
    { handled := fun handler handled => blind _ handler handled inner
      kept := blind_keep inner.header
      looped := fun body blindBody => blind_looping blindBody }

variable {step : Step} {state after : State σ} {outcome : Outcome Value}

/-- A step ends as what it does ended, up to what is logged. An output is also kept in the variable
that the step names for it. -/
def EndsAs (executor : Executor σ) (step : Step) (state : State σ) (outcome : Outcome Value)
    (after : State σ) : Prop :=
  ∃ reported : State σ, reported.scene = after.scene ∧
    executor.execute step state =
      match outcome with
      | .done output => keep step.header output reported
      | .failed failure => (.failed failure, reported)
      | .cancelled => (.cancelled, reported)

theorem RunsAs.endsAs {kind : StepType} (clock : executor.ClockIsFinite)
    (runs : executor.RunsAs step kind)
    (handled : executor.handle step kind (opened step.header state) = (outcome, after)) :
    executor.EndsAs step state outcome after := by
  rw [EndsAs, runs.execute_eq, complete_eq]
  cases outcome with
  | done output =>
      obtain ⟨durationMs, elapsed⟩ := clock state.world after.world
      refine ⟨{ after with
        log := ⟨.debug, s!"Step {step.header.id} completed in {durationMs}ms"⟩ :: after.log },
        rfl, ?_⟩
      rw [Action.bind_of_done handled]
      change (Action.ofExcept (elapsedMs _ _) >>= fun duration => _) after = _
      rw [elapsed]
      rfl
  | failed failure => exact ⟨after, rfl, Action.bind_of_failed handled⟩
  | cancelled => exact ⟨after, rfl, Action.bind_of_cancelled handled⟩

theorem EndsAs.congr {left : State σ}
    (ends : executor.EndsAs step state outcome after) (same : after.scene = left.scene) :
    executor.EndsAs step state outcome left := by
  obtain ⟨reported, shown, ended⟩ := ends
  exact ⟨reported, shown.trans same, ended⟩

theorem EndsAs.outcome_eq (ends : executor.EndsAs step state outcome after)
    (unnamed : step.header.outputVariable.truthy = false) :
    (executor.execute step state).1 = outcome := by
  obtain ⟨reported, _, ended⟩ := ends
  rw [ended]
  cases outcome with
  | done output =>
      dsimp only
      rw [keep, unnamed, if_neg Bool.false_ne_true]
      rfl
  | _ => rfl

end Executor
end Automation
