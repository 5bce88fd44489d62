import Automation.Proofs.Execution.Handling
import Automation.Proofs.Run.Submissions

/-!
The result of a run and its records agree.

Whatever fails in a run, it hands over a record that it started and a record that it ended, and the
second one says what the result says, but for a refusal of that record itself.
-/

namespace Automation.Runner

variable {σ τ : Type} {runner : Runner σ τ} {launch : Launch} {state : RunState σ τ}

/-- A run that begins has the progress of a run of its blueprint's steps. -/
theorem Begins.plays {blueprint : Blueprint} {start : State σ}
    (begins : runner.Begins launch state blueprint start) :
    ∃ last, Plays runner.executor launch.executionId blueprint.steps start
      (runner.played launch state).1 last := by
  rw [begins.played_eq.1]
  exact ⟨_, plays_runSteps _ _ _ _⟩

theorem played_ending_ne_cancelled
    (uncancelled : ∀ finished step before, runner.ComesTo launch state finished step before →
      (runner.executor.execute step before).1 ≠ .cancelled) :
    (runner.played launch state).1.ending ≠ .cancelled := by
  intro cancelled
  rcases begins_or_stopped runner launch state with
    ⟨blueprint, start, begins⟩ | ⟨_, failure, stopped⟩
  · obtain ⟨last, plays⟩ := begins.plays
    obtain ⟨earlier, step, later, finished, before, split, passes, ended⟩ :=
      plays.exists_of_cancelled cancelled
    refine uncancelled finished step before ⟨_, _, _, _, begins, split, passes⟩ ?_
    rw [ended]
  · rw [stopped] at cancelled
    cases cancelled

theorem errors_prefix_withEnding :
    StepResult.errors (runner.played launch state).1.steps <+:
      (runner.played launch state).1.withEnding := by
  have sound : (runner.played launch state).1.errors =
      StepResult.errors (runner.played launch state).1.steps := by
    rcases begins_or_stopped runner launch state with
      ⟨blueprint, start, begins⟩ | ⟨_, failure, stopped⟩
    · obtain ⟨last, plays⟩ := begins.plays
      exact plays.errors_eq
    · rw [stopped]
      rfl
  rw [← sound, Progress.withEnding]
  cases (runner.played launch state).1.ending <;> simp

/-- A run collects no errors before its second record exactly where its start was recorded, its
blueprint was read, and every step of the blueprint ended and succeeded. -/
theorem withEnding_eq_nil_iff :
    (runner.played launch state).1.withEnding = [] ↔
      ∃ blueprint start last, runner.Begins launch state blueprint start ∧
        Passes runner.executor blueprint.steps start (runner.played launch state).1.steps last ∧
          ∀ step ∈ (runner.played launch state).1.steps, step.isSuccess = true := by
  rcases begins_or_stopped runner launch state with
    ⟨blueprint, start, begins⟩ | ⟨never, failure, stopped⟩
  · obtain ⟨last, plays⟩ := begins.plays
    refine ⟨fun none => ⟨_, _, _, begins, plays.passes_of_withEnding_eq_nil none⟩, ?_⟩
    rintro ⟨_, _, last, passing, passes, succeed⟩
    -- Steps that all pass are the whole run, from whatever state they start.
    have ended := passing.played_eq.1
    rw [passes.runSteps_eq] at ended
    rw [ended, Progress.withEnding_following, StepResult.errors_eq_nil_iff.mpr succeed]
    rfl
  · rw [stopped]
    refine ⟨fun none => by simp [Progress.withEnding, Progress.stopped] at none, ?_⟩
    rintro ⟨blueprint, start, last, begins, _⟩
    exact (never blueprint start begins).elim

/-- How the two records of a run accord with each other and with the result: `steps` are the steps
that ended, and `collected` are the errors before the second record. -/
structure Accords (launch : Launch) (result : ExecutionResult) (first second : Submission)
    (steps : List StepResult) (collected : List String) : Prop where
  launched : ∀ submission ∈ [first, second],
    submission.record.id = launch.executionId ∧
      submission.record.automationId = launch.automationId ∧
        submission.record.triggerData = payloadOf launch.triggerData
  started : first.record.status = .running
  ended : second.record.status = if collected = [] then .completed else .failed
  recordedSteps : Entries.get? "steps" second.record.detailsLog =
    some (.list (steps.map StepResult.toValue))
  recordedResults : Entries.get? "results" second.record.detailsLog =
    some (.list (result.results.map StepResult.toValue))
  recordedErrors : Entries.get? "errors" second.record.detailsLog =
    some (.list (collected.map .text))
  results : result.results = steps.filter StepResult.isSuccess
  errors : result.errors = collected ++ second.errors
  success : result.success = true ↔ result.errors = []

theorem Accords.completed_of_success {result : ExecutionResult} {first second : Submission}
    {steps : List StepResult} {collected : List String}
    (accords : Accords launch result first second steps collected)
    (success : result.success = true) :
    second.answer = .ok () ∧ second.record.status = .completed := by
  have none := accords.success.mp success
  rw [accords.errors, List.append_eq_nil_iff, Submission.errors_eq_nil_iff] at none
  rw [accords.ended, if_pos none.1]
  exact ⟨none.2, rfl⟩

theorem accords_report (runner : Runner σ τ) (launch : Launch) (state : RunState σ τ)
    (durationMs : Int) :
    Accords launch (runner.report launch state durationMs) (runner.firstSubmission launch state)
      (runner.secondSubmission launch state durationMs) (runner.played launch state).1.steps
      (runner.played launch state).1.withEnding where
  launched := by simp [firstSubmission, secondSubmission, submission, finalRecord, startingRecord]
  started := rfl
  ended := by simp [secondSubmission, submission, finalRecord]
  recordedSteps := rfl
  recordedResults := rfl
  recordedErrors := rfl
  results := rfl
  errors := rfl
  success := by simp [report]

/-- A run that no step cancels gives a result, and hands its store exactly two records, which accord
with the result whatever the steps do and whatever the store answers. -/
theorem run_accords_with_records {durationMs : Int}
    (finite : elapsedMs (runner.executor.collaborators.now state.world)
      (runner.executor.collaborators.now (runner.run launch state).2.world) = .ok durationMs)
    (uncancelled : ∀ finished step before, runner.ComesTo launch state finished step before →
      (runner.executor.execute step before).1 ≠ .cancelled) :
    ∃ result first second steps collected,
      (runner.run launch state).1 = .done result ∧
        runner.watched.run launch (state.watched []) =
          (.done result, (runner.run launch state).2.watched [first, second]) ∧
        Accords launch result first second steps collected ∧
        (∀ blueprint start, runner.Begins launch state blueprint start →
          ∃ errors ending last, Plays runner.executor launch.executionId blueprint.steps start
            ⟨steps, errors, ending⟩ last) ∧
        (result.success = true →
          second.answer = .ok () ∧ second.record.status = .completed) ∧
        StepResult.errors steps <+: collected ∧
        (collected = [] ↔
          ∃ blueprint start last, runner.Begins launch state blueprint start ∧
            Passes runner.executor blueprint.steps start steps last ∧
              ∀ step ∈ steps, step.isSuccess = true) := by
  rw [← elapsed_eq] at finite
  have given : (runner.run launch state).1 = .done (runner.report launch state durationMs) := by
    rw [run_of_elapsed finite, finish_of_not_cancelled (played_ending_ne_cancelled uncancelled)]
    rfl
  have accords := accords_report runner launch state durationMs
  refine ⟨_, _, _, _, _, given, ?_, accords, ?_, accords.completed_of_success,
    errors_prefix_withEnding, withEnding_eq_nil_iff⟩
  · rw [run_watched finite, given]
  · exact fun blueprint start begins => ⟨_, _, begins.plays⟩

section

/-- The header of a step without configuration. -/
def plainHeader (id type : String) (stopOnError : Bool) : StepHeader :=
  ⟨id, type, id, [], stopOnError, .null, none, none, none, none⟩

/-- A step without further steps, of a type that a host added. -/
def hostStep (id type : String) (stopOnError : Bool) : Step :=
  .mk (plainHeader id type stopOnError) none none none none none none

/-- An executor with types of steps that fail, that succeed and that are cancelled, in a world
without effects. -/
def hostExecutor : Executor Unit :=
  { settings := .default
    keywords := []
    handlers :=
      [("broken", fun _ => Action.fail (.raised "RuntimeError" "boom")),
        ("steady", fun _ => Action.done (.text "fine")),
        ("stopping", fun _ state => (.cancelled, state))]
    collaborators :=
      { request := fun _ world => (.cancelled, world)
        agent := none
        sleep := fun _ world => (.done (), world)
        now := fun _ => .zero false } }

/-- A store in memory that refuses the record of a run that has ended. -/
def refusingStore : RunStore MemoryStore :=
  { memoryStore with
    upsert := fun record records =>
      if record.isFinished then (.error (.raised "RuntimeError" "disk full"), records)
      else memoryStore.upsert record records }

/-- A launch of a blueprint without variables. -/
def launchOf (steps : List Step) : Launch :=
  ⟨"run", "automation", .parsed ⟨steps, "1.0", .null, [], [], []⟩, .null, default⟩

theorem run_accords_with_records_of_refusal :
    let runner : Runner Unit MemoryStore := ⟨hostExecutor, refusingStore, []⟩
    let launch := launchOf [hostStep "first" "broken" false, hostStep "second" "steady" true]
    let state : RunState Unit MemoryStore := ⟨[], (), []⟩
    elapsedMs (runner.executor.collaborators.now state.world)
        (runner.executor.collaborators.now (runner.run launch state).2.world) = .ok 0 ∧
      (∀ finished step before, runner.ComesTo launch state finished step before →
        (runner.executor.execute step before).1 ≠ .cancelled) ∧
      ∃ result first second steps collected,
        (runner.run launch state).1 = .done result ∧
          runner.watched.run launch (state.watched []) =
            (.done result, (runner.run launch state).2.watched [first, second]) ∧
          Accords launch result first second steps collected := by
  intro runner launch state
  have uncancelled : ∀ finished step before, runner.ComesTo launch state finished step before →
      (runner.executor.execute step before).1 ≠ .cancelled := by
    rintro finished step before ⟨blueprint, start, earlier, later, begins, split, _⟩ cancelled
    have listed : step ∈ blueprint.steps := by simp [split]
    have stopped : runner.executor.execute step before =
        (.cancelled, (runner.executor.execute step before).2) := Prod.ext cancelled rfl
    have read := begins.read
    cases read
    have either : step = hostStep "first" "broken" false ∨
        step = hostStep "second" "steady" true := by
      simpa using listed
    rcases either with rfl | rfl <;>
      rw [Executor.execute_of_handler rfl, Executor.complete_cancelled_iff] at stopped <;>
        cases stopped
  obtain ⟨result, first, second, steps, collected, given, handed, accords, _⟩ :=
    run_accords_with_records elapsedMs_zero uncancelled
  exact ⟨elapsedMs_zero, uncancelled, result, first, second, steps, collected, given, handed,
    accords⟩

end

end Automation.Runner
