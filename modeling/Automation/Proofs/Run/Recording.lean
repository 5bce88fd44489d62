import Automation.Proofs.Execution.Blindness
import Automation.Proofs.Run.Submissions

/-!
What a run leaves in its store, and what it takes from there.

A run changes its store by two records and by nothing else, and it learns from the store only
whether these were taken. So a run on another store that answers alike goes alike.
-/

namespace Automation.Runner

variable {σ τ υ : Type} {runner : Runner σ τ} {launch : Launch} {state : RunState σ τ}

theorem answer_record (runner : Runner σ τ) (entry : RunRecord) (state : RunState σ τ) :
    (runner.record entry state).1 = (runner.store.upsert entry state.store).1 := by
  rw [record]
  cases runner.store.upsert entry state.store with
  | mk answer contents => cases answer <;> rfl

theorem record_of_taken {entry : RunRecord} {contents : τ}
    (taken : runner.store.upsert entry state.store = (.ok (), contents)) :
    runner.record entry state = (.ok (), { state with
      store := contents
      log := (runner.store.announce entry).reverse ++ state.log }) := by
  rw [record, taken]

theorem store_record (runner : Runner σ τ) (entry : RunRecord) (state : RunState σ τ) :
    (runner.record entry state).2.store = (runner.store.upsert entry state.store).2 := by
  rw [record]
  cases runner.store.upsert entry state.store with
  | mk answer contents => cases answer <;> rfl

theorem store_played :
    (runner.played launch state).2.store =
      (runner.store.upsert (startingRecord launch) state.store).2 := by
  have recorded := runner.store_record (startingRecord launch) (begun launch state)
  rw [played, progress]
  cases answered : runner.record (startingRecord launch) (begun launch state) with
  | mk answer after =>
      rw [answered] at recorded
      cases answer with
      | error failure => exact recorded
      | ok _ => cases runner.prepare launch <;> exact recorded

theorem store_reported :
    (runner.reported launch state).store =
      (runner.store.upsert (startingRecord launch) state.store).2 := by
  rw [reported, reportEnding]
  cases (runner.played launch state).1.ending <;> exact store_played

theorem store_conclude (progress : Progress) (durationMs : Int) (state : RunState σ τ) :
    (runner.conclude launch progress durationMs state).2.store =
      (runner.store.upsert (finalRecord launch progress durationMs) state.store).2 := by
  have recorded := runner.store_record (finalRecord launch progress durationMs) state
  rw [conclude]
  cases answered : runner.record (finalRecord launch progress durationMs) state with
  | mk answer after => cases answer <;> simpa [answered, note] using recorded

theorem store_finish (progress : Progress) (durationMs : Int) (further : List String)
    (state : RunState σ τ) :
    (finish launch progress durationMs further state).2.store = state.store := by
  cases ended : progress.ending <;> simp [finish, ended, note]

/-- The store after a run: it was handed the record of the start and the record of the end. -/
theorem store_run {durationMs : Int} (finite : runner.elapsed launch state = .ok durationMs) :
    (runner.run launch state).2.store =
      (runner.store.upsert
        (finalRecord launch (runner.played launch state).1 durationMs)
        (runner.store.upsert (startingRecord launch) state.store).2).2 := by
  rw [run_of_elapsed finite, store_finish, store_conclude, store_reported]

/-- How a run ends that collected further errors with its second record. -/
def ending (launch : Launch) (progress : Progress) (durationMs : Int) (further : List String) :
    Outcome ExecutionResult :=
  match progress.ending with
  | .cancelled => .cancelled
  | _ =>
      .done ⟨(progress.withEnding ++ further).isEmpty, launch.executionId, durationMs,
        progress.successes, progress.withEnding ++ further⟩

theorem finish_fst (progress : Progress) (durationMs : Int) (further : List String)
    (state : RunState σ τ) :
    (finish launch progress durationMs further state).1 =
      ending launch progress durationMs further := by
  cases ended : progress.ending <;> simp [finish, ending, ended]

theorem run_fst {durationMs : Int} (finite : runner.elapsed launch state = .ok durationMs) :
    (runner.run launch state).1 =
      ending launch (runner.played launch state).1 durationMs
        (runner.secondSubmission launch state durationMs).errors := by
  rw [run_of_elapsed finite, finish_fst]

section

variable {executor : Executor σ}

open Automation.Action (Blind)

theorem blind_runStep (blind : executor.HandlersAreBlind) (step : Step) :
    Blind StepResult (runStep executor step) := by
  intro first second same
  obtain ⟨sameOutcome, sameScene⟩ := Executor.blind_execute blind step first second same
  obtain ⟨_, sameWorld⟩ := State.scene_eq_iff.mp same
  cases endedFirst : executor.execute step first with
  | mk outcome afterFirst =>
      cases endedSecond : executor.execute step second with
      | mk outcomeToo afterSecond =>
          rw [endedFirst, endedSecond] at sameOutcome sameScene
          obtain rfl : outcome = outcomeToo := sameOutcome
          obtain ⟨sameScope, sameWorldAfter⟩ : afterFirst.variables = afterSecond.variables ∧
              afterFirst.world = afterSecond.world := State.scene_eq_iff.mp sameScene
          cases outcome with
          | cancelled =>
              rw [runStep, runStep, endedFirst, endedSecond]
              exact ⟨rfl, sameScene⟩
          | done output =>
              simp only [runStep, endedFirst, endedSecond, sameWorld, sameWorldAfter]
              split <;> exact ⟨rfl, sameScene⟩
          | failed failure =>
              simp only [runStep, endedFirst, endedSecond, sameWorld, sameWorldAfter]
              split
              · exact ⟨rfl, sameScene⟩
              · exact ⟨rfl, State.scene_eq_iff.mpr ⟨sameScope, rfl⟩⟩

theorem blind_runSteps (blind : executor.HandlersAreBlind) (executionId : String)
    (steps : List Step) {first second : State σ} (same : first.scene = second.scene) :
    (runSteps executor executionId steps first).1 =
        (runSteps executor executionId steps second).1 ∧
      (runSteps executor executionId steps first).2.scene =
        (runSteps executor executionId steps second).2.scene := by
  induction steps generalizing first second with
  | nil => exact ⟨rfl, same⟩
  | cons step rest inductionHypothesis =>
      obtain ⟨sameOutcome, sameScene⟩ := blind_runStep blind step first second same
      cases endedFirst : runStep executor step first with
      | mk outcome betweenFirst =>
          cases endedSecond : runStep executor step second with
          | mk outcomeToo betweenSecond =>
              rw [endedFirst, endedSecond] at sameOutcome sameScene
              obtain rfl : outcome = outcomeToo := sameOutcome
              cases outcome with
              | done result =>
                  obtain ⟨sameProgress, sameLast⟩ := inductionHypothesis sameScene
                  obtain ⟨sameScope, sameWorld⟩ := State.scene_eq_iff.mp sameScene
                  rw [runSteps_of_done endedFirst, runSteps_of_done endedSecond]
                  split
                  · exact ⟨rfl, State.scene_eq_iff.mpr ⟨sameScope, sameWorld⟩⟩
                  · exact ⟨congrArg (Progress.following [result]) sameProgress, sameLast⟩
              | failed failure =>
                  rw [runSteps, runSteps, endedFirst, endedSecond]
                  exact ⟨rfl, sameScene⟩
              | cancelled =>
                  rw [runSteps, runSteps, endedFirst, endedSecond]
                  exact ⟨rfl, sameScene⟩

end

/-- The runner with another store. -/
def withStore (runner : Runner σ τ) (store : RunStore υ) : Runner σ υ :=
  ⟨runner.executor, store, runner.platformKeys⟩

section

variable {store : RunStore υ} {other : RunState σ υ} (blind : runner.executor.HandlersAreBlind)
  (sameWorld : other.world = state.world)
  (sameAnswer : (store.upsert (startingRecord launch) other.store).1 =
    (runner.store.upsert (startingRecord launch) state.store).1)

include blind sameWorld sameAnswer

theorem played_withStore :
    ((runner.withStore store).played launch other).1 = (runner.played launch state).1 ∧
      ((runner.withStore store).played launch other).2.world =
        (runner.played launch state).2.world := by
  have first := runner.answer_record (startingRecord launch) (begun launch state)
  have second := (runner.withStore store).answer_record (startingRecord launch)
    (begun launch other)
  have firstWorld := runner.world_record (startingRecord launch) (begun launch state)
  have secondWorld := (runner.withStore store).world_record (startingRecord launch)
    (begun launch other)
  rw [played, played, progress, progress]
  cases answered : runner.record (startingRecord launch) (begun launch state) with
  | mk answer after =>
      cases answeredToo :
          (runner.withStore store).record (startingRecord launch) (begun launch other) with
      | mk answerToo afterToo =>
          rw [answered] at first firstWorld
          rw [answeredToo] at second secondWorld
          obtain rfl : answerToo = answer := second.trans (sameAnswer.trans first.symm)
          have worlds : afterToo.world = after.world :=
            secondWorld.trans (sameWorld.trans firstWorld.symm)
          cases answerToo with
          | error failure => exact ⟨rfl, worlds⟩
          | ok _ =>
              have samePreparation :
                  (runner.withStore store).prepare launch = runner.prepare launch := rfl
              rw [samePreparation]
              cases runner.prepare launch with
              | error failure => exact ⟨rfl, worlds⟩
              | ok prepared =>
                  obtain ⟨blueprint, lines⟩ := prepared
                  have scenes : (⟨Variables.create blueprint.variables launch.triggerData,
                        lines ++ afterToo.log, afterToo.world⟩ : State σ).scene =
                      (⟨Variables.create blueprint.variables launch.triggerData,
                        lines ++ after.log, after.world⟩ : State σ).scene :=
                    State.scene_eq_iff.mpr ⟨rfl, worlds⟩
                  obtain ⟨sameProgress, sameScene⟩ :=
                    blind_runSteps blind launch.executionId blueprint.steps scenes
                  exact ⟨sameProgress, (State.scene_eq_iff.mp sameScene).2⟩

theorem elapsed_withStore :
    (runner.withStore store).elapsed launch other = runner.elapsed launch state := by
  obtain ⟨_, worlds⟩ := played_withStore blind sameWorld sameAnswer
  rw [elapsed, elapsed, world_reported, world_reported, worlds, sameWorld]
  rfl

/-- A run on another store that answers alike ends alike and leaves the same world. -/
theorem run_withStore {durationMs : Int} (finite : runner.elapsed launch state = .ok durationMs)
    (sameAnswerToo :
      (store.upsert (finalRecord launch (runner.played launch state).1 durationMs)
          (store.upsert (startingRecord launch) other.store).2).1 =
        (runner.store.upsert (finalRecord launch (runner.played launch state).1 durationMs)
          (runner.store.upsert (startingRecord launch) state.store).2).1) :
    ((runner.withStore store).run launch other).1 = (runner.run launch state).1 ∧
      ((runner.withStore store).run launch other).2.world =
        (runner.run launch state).2.world := by
  obtain ⟨sameProgress, sameWorldAfter⟩ := played_withStore blind sameWorld sameAnswer
  have finiteToo := (elapsed_withStore blind sameWorld sameAnswer).trans finite
  have sameSubmission : (runner.withStore store).secondSubmission launch other durationMs =
      runner.secondSubmission launch state durationMs := by
    simp only [secondSubmission, submission, answer_record, store_reported, sameProgress]
    exact congrArg (Submission.mk _) sameAnswerToo
  constructor
  · rw [run_fst finiteToo, run_fst finite, sameProgress, sameSubmission]
  · rw [world_run, world_run, sameWorldAfter]

end

end Automation.Runner
