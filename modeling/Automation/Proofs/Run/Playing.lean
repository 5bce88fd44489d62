import Automation.Proofs.Execution.Parametricity
import Automation.Proofs.Run.Passage

/-!
Runs of steps as actions.

A run of steps keeps its progress where a step fails, so it is no action. But for a cancellation it
ends as the action that chains its steps, once each of them is settled, and so it is related on two
worlds as the executions of its steps are.
-/

namespace Automation

namespace Runner

variable {σ : Type}

/-- What a step of a run gives once it is settled. -/
def settledStep (step : Step) (durationMs : Int) : Except Failure Value → Action σ StepResult
  | .ok output => pure ⟨step.id, step.type, .ok output, durationMs⟩
  | .error failure => do
      Action.log .warning s!"Step {step.id} failed: {failure.message}"
      pure ⟨step.id, step.type, .error failure.message, durationMs⟩

theorem runStep_eq {executor : Executor σ} {step : Step} :
    runStep executor step = (do
      let start ← executor.now
      let ended ← (executor.execute step).settle
      let stop ← executor.now
      let durationMs ← Action.ofExcept (elapsedMs start stop)
      settledStep step durationMs ended) := by
  funext state
  cases ran : executor.execute step state with
  | mk outcome after =>
      cases outcome with
      | done output =>
          have settles := Action.settle_of_done ran
          simp only [runStep, ran, bind, Action.andThen, Executor.now, settles]
          cases elapsedMs (executor.collaborators.now state.world)
            (executor.collaborators.now after.world) <;> rfl
      | failed failure =>
          have settles := Action.settle_of_failed ran
          simp only [runStep, ran, bind, Action.andThen, Executor.now, settles]
          cases elapsedMs (executor.collaborators.now state.world)
            (executor.collaborators.now after.world) <;> rfl
      | cancelled =>
          have settles := Action.settle_of_cancelled ran
          simp only [runStep, ran, bind, Action.andThen, Executor.now, settles]

/-- The progress of steps, unless they were cancelled. -/
def settled (progress : Progress) : Outcome Progress :=
  match progress.ending with
  | .cancelled => .cancelled
  | _ => .done progress

theorem settled_following (finished : List StepResult) (progress : Progress) :
    settled (.following finished progress) = Progress.following finished <$> settled progress := by
  cases ended : progress.ending <;>
    simp [settled, Progress.following, ended, Functor.map, Outcome.bind]

theorem settled_eq_cancelled_iff {progress : Progress} :
    settled progress = .cancelled ↔ progress.ending = .cancelled := by
  cases ended : progress.ending <;> simp [settled, ended]

theorem eq_of_settled_eq {first second : Progress} (uncancelled : settled first ≠ .cancelled)
    (same : settled first = settled second) : first = second := by
  cases ended : first.ending <;> cases endedToo : second.ending <;>
    simp_all [settled]

/-- A run of steps as an action. -/
def playing (executor : Executor σ) (executionId : String) (steps : List Step) :
    Action σ Progress := fun state =>
  (settled (runSteps executor executionId steps state).1,
    (runSteps executor executionId steps state).2)

/-- What follows on the first step of a run once that is settled. -/
def followingStep (executor : Executor σ) (executionId : String) (step : Step) (rest : List Step) :
    Except Failure StepResult → Action σ Progress
  | .error failure => pure (.stopped (.failed failure))
  | .ok result =>
      if result.isSuccess = false ∧ step.header.stopOnError = true then do
        Action.log .warning s!"Halting run {executionId} after step {step.id} failed"
        pure (.following [result] (.finished [] []))
      else do
        let progress ← playing executor executionId rest
        pure (.following [result] progress)

theorem playing_cons {executor : Executor σ} {executionId : String} {step : Step}
    {rest : List Step} :
    playing executor executionId (step :: rest) =
      (runStep executor step).settle >>= followingStep executor executionId step rest := by
  funext state
  cases ran : runStep executor step state with
  | mk outcome after =>
      cases outcome with
      | done result =>
          rw [Action.bind_of_done (Action.settle_of_done ran), playing, runSteps_of_done ran,
            followingStep]
          split
          · rfl
          · have further : playing executor executionId rest after =
                (settled (runSteps executor executionId rest after).1,
                  (runSteps executor executionId rest after).2) := rfl
            rw [Action.bind_pure_eq further, ← settled_following]
      | failed failure =>
          rw [Action.bind_of_done (Action.settle_of_failed ran), playing, runSteps, ran]
          rfl
      | cancelled =>
          rw [Action.bind_of_cancelled (Action.settle_of_cancelled ran), playing, runSteps, ran]
          rfl

end Runner

namespace Action.Relates

open Runner

variable {σ τ : Type} {r : (α : Type) → Action σ α → Action τ α → Prop} {executor : Executor σ}
  {executorToo : Executor τ} (closed : Relates r) (alike : executor.Alike r executorToo)

include closed alike

theorem runStep (step : Step) :
    r StepResult (Runner.runStep executor step) (Runner.runStep executorToo step) := by
  rw [runStep_eq, runStep_eq]
  refine closed.bind alike.now fun start =>
    closed.bind (closed.settle (closed.execute alike step)) fun ended =>
      closed.bind alike.now fun stop => closed.bind (closed.ofExcept _) fun durationMs => ?_
  cases ended with
  | ok output => exact closed.done _
  | error failure => exact closed.bind (closed.log _ _) fun _ => closed.done _

theorem playing (executionId : String) (steps : List Step) :
    r Progress (playing executor executionId steps) (playing executorToo executionId steps) := by
  induction steps with
  | nil => exact closed.done _
  | cons step rest inductionHypothesis =>
      rw [playing_cons, playing_cons]
      refine closed.bind (closed.settle (closed.runStep alike step)) fun ended => ?_
      cases ended with
      | error failure => exact closed.done _
      | ok result =>
          rw [followingStep, followingStep]
          split
          · exact closed.bind (closed.log _ _) fun _ => closed.done _
          · exact closed.bind inductionHypothesis fun progress => closed.done _

end Action.Relates

end Automation
