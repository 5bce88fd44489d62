import Automation.Proofs.Run.Passage

/-!
What a run hands to its store.

A watched store answers as the store that it watches, and keeps every record that it is handed with
the answer. A run on a watched store goes as it goes on the store itself, and hands over two
records, whatever the store answers.
-/

namespace Automation

/-- A record that was handed to a store, and what the store answered. -/
structure Submission where
  record : RunRecord
  answer : Except Failure Unit

/-- The error that a refused record is to the run. -/
def Submission.errors (submission : Submission) : List String :=
  match submission.answer with
  | .ok () => []
  | .error failure => [s!"Automation execution failed: {failure.message}"]

theorem Submission.errors_eq_nil_iff {submission : Submission} :
    submission.errors = [] ↔ submission.answer = .ok () := by
  cases answered : submission.answer <;> simp [errors, answered]

section

variable {σ τ : Type}

/-- A store that also keeps what it was handed, oldest first. -/
def RunStore.watched (store : RunStore τ) : RunStore (List Submission × τ) :=
  { upsert := fun record watched =>
      match store.upsert record watched.2 with
      | (answer, contents) => (answer, (watched.1 ++ [⟨record, answer⟩], contents))
    get? := fun id watched => store.get? id watched.2
    list := fun filter watched => store.list filter watched.2
    announce := store.announce }

def RunState.watched (submissions : List Submission) (state : RunState σ τ) :
    RunState σ (List Submission × τ) :=
  ⟨state.log, state.world, (submissions, state.store)⟩

end

namespace Runner

variable {σ τ : Type} {runner : Runner σ τ} {launch : Launch} {state : RunState σ τ}

def watched (runner : Runner σ τ) : Runner σ (List Submission × τ) :=
  ⟨runner.executor, runner.store.watched, runner.platformKeys⟩

/-- A record handed to the store in a state, with the answer. -/
def submission (runner : Runner σ τ) (entry : RunRecord) (state : RunState σ τ) : Submission :=
  ⟨entry, (runner.record entry state).1⟩

theorem record_watched (entry : RunRecord) (submissions : List Submission)
    (state : RunState σ τ) :
    runner.watched.record entry (state.watched submissions) =
      ((runner.record entry state).1,
        (runner.record entry state).2.watched
          (submissions ++ [runner.submission entry state])) := by
  cases answered : runner.store.upsert entry state.store with
  | mk answer contents =>
      cases answer <;>
        simp [record, watched, RunStore.watched, RunState.watched, submission, answered]

def reported (runner : Runner σ τ) (launch : Launch) (state : RunState σ τ) : RunState σ τ :=
  reportEnding launch (runner.played launch state).1 (runner.played launch state).2

def firstSubmission (runner : Runner σ τ) (launch : Launch) (state : RunState σ τ) : Submission :=
  runner.submission (startingRecord launch) (begun launch state)

def secondSubmission (runner : Runner σ τ) (launch : Launch) (state : RunState σ τ)
    (durationMs : Int) : Submission :=
  runner.submission (finalRecord launch (runner.played launch state).1 durationMs)
    (runner.reported launch state)

theorem played_watched (submissions : List Submission) :
    runner.watched.played launch (state.watched submissions) =
      ((runner.played launch state).1,
        (runner.played launch state).2.watched
          (submissions ++ [runner.firstSubmission launch state])) := by
  have begins : begun launch (state.watched submissions) =
      (begun launch state).watched submissions := rfl
  rw [played, played, progress, progress, begins, record_watched, firstSubmission]
  cases runner.record (startingRecord launch) (begun launch state) with
  | mk answer after =>
      cases answer with
      | error failure => rfl
      | ok accepted =>
          have same : runner.watched.prepare launch = runner.prepare launch := rfl
          rw [same]
          cases runner.prepare launch <;> rfl

theorem reported_watched (submissions : List Submission) :
    runner.watched.reported launch (state.watched submissions) =
      (runner.reported launch state).watched
        (submissions ++ [runner.firstSubmission launch state]) := by
  rw [reported, reported, played_watched]
  cases ended : (runner.played launch state).1.ending <;>
    simp [reportEnding, ended, note, RunState.watched]

theorem conclude_watched (progress : Progress) (durationMs : Int) (submissions : List Submission)
    (state : RunState σ τ) :
    runner.watched.conclude launch progress durationMs (state.watched submissions) =
      ((runner.conclude launch progress durationMs state).1,
        (runner.conclude launch progress durationMs state).2.watched
          (submissions ++ [runner.submission (finalRecord launch progress durationMs) state])) := by
  rw [conclude, conclude, record_watched]
  cases runner.record (finalRecord launch progress durationMs) state with
  | mk answer after => cases answer <;> rfl

theorem conclude_errors (progress : Progress) (durationMs : Int) (state : RunState σ τ) :
    (runner.conclude launch progress durationMs state).1 =
      (runner.submission (finalRecord launch progress durationMs) state).errors := by
  rw [conclude, submission, Submission.errors]
  cases runner.record (finalRecord launch progress durationMs) state with
  | mk answer after => cases answer <;> rfl

theorem world_record (runner : Runner σ τ) (entry : RunRecord) (state : RunState σ τ) :
    (runner.record entry state).2.world = state.world := by
  rw [record]
  cases runner.store.upsert entry state.store with
  | mk answer contents => cases answer <;> rfl

theorem world_conclude (progress : Progress) (durationMs : Int) (state : RunState σ τ) :
    (runner.conclude launch progress durationMs state).2.world = state.world := by
  have recorded := runner.world_record (finalRecord launch progress durationMs) state
  rw [conclude]
  cases answered : runner.record (finalRecord launch progress durationMs) state with
  | mk answer after => cases answer <;> simpa [answered, note] using recorded

theorem world_reported :
    (runner.reported launch state).world = (runner.played launch state).2.world := by
  rw [reported, reportEnding]
  cases (runner.played launch state).1.ending <;> rfl

/-- The whole milliseconds from the start of a run to the end of its steps. -/
def elapsed (runner : Runner σ τ) (launch : Launch) (state : RunState σ τ) : Except Failure Int :=
  elapsedMs (runner.executor.collaborators.now state.world)
    (runner.executor.collaborators.now (runner.reported launch state).world)

/-- End a run whose second record was handed over, with the errors that this gave. -/
def finish (launch : Launch) (progress : Progress) (durationMs : Int) (further : List String)
    (state : RunState σ τ) : Outcome ExecutionResult × RunState σ τ :=
  match progress.ending with
  | .cancelled => (.cancelled, state)
  | _ =>
      let errors := progress.withEnding ++ further
      let verdict := if errors.isEmpty then "completed" else "failed"
      (.done ⟨errors.isEmpty, launch.executionId, durationMs, progress.successes, errors⟩,
        note .info
          (s!"Automation {launch.automationId} run {launch.executionId} "
            ++ s!"{verdict} in {durationMs}ms") state)

/-- What a run gives once its second record was handed over. -/
def report (runner : Runner σ τ) (launch : Launch) (state : RunState σ τ) (durationMs : Int) :
    ExecutionResult :=
  let progress := (runner.played launch state).1
  let errors := progress.withEnding ++ (runner.secondSubmission launch state durationMs).errors
  ⟨errors.isEmpty, launch.executionId, durationMs, progress.successes, errors⟩

theorem finish_of_not_cancelled {progress : Progress} (uncancelled : progress.ending ≠ .cancelled)
    {durationMs : Int} {further : List String} {state : RunState σ τ} :
    (finish launch progress durationMs further state).1 =
      .done ⟨(progress.withEnding ++ further).isEmpty, launch.executionId, durationMs,
        progress.successes, progress.withEnding ++ further⟩ := by
  cases ended : progress.ending <;> simp_all [finish]

theorem run_eq (runner : Runner σ τ) (launch : Launch) (state : RunState σ τ) :
    runner.run launch state =
      match runner.elapsed launch state with
      | .error failure => (.failed failure, runner.reported launch state)
      | .ok duration =>
          match runner.conclude launch (runner.played launch state).1 duration
            (runner.reported launch state) with
          | (further, concluded) =>
              finish launch (runner.played launch state).1 duration further concluded := rfl

theorem finish_watched (progress : Progress) (durationMs : Int) (further : List String)
    (submissions : List Submission) (state : RunState σ τ) :
    finish launch progress durationMs further (state.watched submissions) =
      ((finish launch progress durationMs further state).1,
        (finish launch progress durationMs further state).2.watched submissions) := by
  cases ended : progress.ending <;> simp [finish, ended, note, RunState.watched]

theorem world_finish (progress : Progress) (durationMs : Int) (further : List String)
    (state : RunState σ τ) :
    (finish launch progress durationMs further state).2.world = state.world := by
  cases ended : progress.ending <;> simp [finish, ended, note]

theorem world_run :
    (runner.run launch state).2.world = (runner.played launch state).2.world := by
  rw [run_eq, ← world_reported]
  split
  · rfl
  · exact (world_finish _ _ _ _).trans (world_conclude _ _ _)

theorem elapsed_eq :
    runner.elapsed launch state =
      elapsedMs (runner.executor.collaborators.now state.world)
        (runner.executor.collaborators.now (runner.run launch state).2.world) := by
  rw [elapsed, world_run, world_reported]

section

variable {durationMs : Int} (finite : runner.elapsed launch state = .ok durationMs)

include finite

theorem run_of_elapsed :
    runner.run launch state =
      finish launch (runner.played launch state).1 durationMs
        (runner.secondSubmission launch state durationMs).errors
        (runner.conclude launch (runner.played launch state).1 durationMs
          (runner.reported launch state)).2 := by
  rw [run_eq, finite, secondSubmission, ← conclude_errors]

/-- A run hands over two records, and a watched store changes nothing else. -/
theorem run_watched :
    runner.watched.run launch (state.watched []) =
      ((runner.run launch state).1, (runner.run launch state).2.watched
        [runner.firstSubmission launch state,
          runner.secondSubmission launch state durationMs]) := by
  have finiteToo : runner.watched.elapsed launch (state.watched []) = .ok durationMs := by
    rw [elapsed, reported_watched]
    exact finite
  rw [run_eq, finiteToo, run_eq, finite, played_watched, reported_watched]
  simp only [conclude_watched, finish_watched, secondSubmission, List.nil_append,
    List.singleton_append]

end

end Runner
end Automation
