import Automation.Proofs.Execution.Blindness
import Automation.Proofs.Run.Agreement

/-!
The steps of a run and the steps of a list inside a step stop at the same place.

`Takes` says what either of them does: the steps take turns, each in the scene that the one before
left, up to the first that fails and does not let the list go on. A run records these turns and
their errors; a list gives their entries, or fails as the last of them.
-/

namespace Automation

/-- A step that was executed, and how it ended. -/
structure Turn where
  step : Step
  result : Except Failure Value

namespace Turn

/-- Whether a turn ends its list: the step failed, and does not let the list go on. -/
def halts (turn : Turn) : Bool := !turn.result.isOk && turn.step.header.stopOnError

/-- How a turn ended, as it is reported: with its output, or with the message of its failure. -/
def outcome (turn : Turn) : Except String Value := turn.result.mapError Failure.message

/-- A turn as the entry of a list. -/
def entry (turn : Turn) : StepEntry := ⟨turn.step.id, turn.outcome⟩

/-- A turn as the result of a step of a run. -/
def reported (turn : Turn) (durationMs : Int) : StepResult :=
  ⟨turn.step.id, turn.step.type, turn.outcome, durationMs⟩

/-- The error that a failed turn is to a run. -/
def error? (turn : Turn) : Option String :=
  match turn.result with
  | .ok _ => none
  | .error failure => some s!"Step {turn.step.id} failed: {failure.message}"

/-- The progress of a run whose steps took turns. -/
def progress (turns : List Turn) (durations : List Int) : Progress :=
  .finished (List.zipWith reported turns durations) (turns.filterMap error?)

section

variable {turn : Turn} {durationMs : Int}

theorem isSuccess_reported : (turn.reported durationMs).isSuccess = turn.result.isOk := by
  unfold reported outcome
  cases turn.result <;> rfl

theorem error?_reported : (turn.reported durationMs).error? = turn.error? := by
  unfold reported outcome error?
  cases turn.result <;> rfl

theorem following_progress {turns : List Turn} {durations : List Int} :
    .following [turn.reported durationMs] (progress turns durations) =
      progress (turn :: turns) (durationMs :: durations) := by
  simp only [Progress.following, progress, Progress.finished, StepResult.errors,
    List.zipWith_cons_cons, List.filterMap_cons, error?_reported]
  cases turn.error? <;> rfl

end

/-- Turns of the first steps of a list, up to and with the first that halts; of the whole list where
none does. -/
structure AreUpToFirstHalt (steps : List Step) (turns : List Turn) : Prop where
  inOrder : turns.map step <+: steps
  goOn : ∀ turn ∈ turns.dropLast, turn.halts = false
  complete : (∀ turn ∈ turns, turn.halts = false) → turns.map step = steps

end Turn

namespace Executor

variable {σ : Type} {executor : Executor σ} {step : Step} {steps rest : List Step}
  {before between last : Scene σ} {result : Except Failure Value} {turns : List Turn}
  {state after : State σ}

/-- A step that is executed in a scene ends with a result, and leaves a scene. -/
def Ends (executor : Executor σ) (step : Step) (before : Scene σ) (result : Except Failure Value)
    (after : Scene σ) : Prop :=
  ∀ state : State σ, state.scene = before →
    (executor.execute step state).1 = .ofExcept result ∧
      (executor.execute step state).2.scene = after

/-- The turns of a list of steps, and the scenes before the first and after the last of them. -/
inductive Takes (executor : Executor σ) :
    List Step → Scene σ → List Turn → Scene σ → Prop where
  | nothing {scene : Scene σ} : Takes executor [] scene [] scene
  | halted {step : Step} {rest : List Step} {before after : Scene σ}
      {result : Except Failure Value} (ends : executor.Ends step before result after)
      (halts : (Turn.mk step result).halts = true) :
      Takes executor (step :: rest) before [⟨step, result⟩] after
  | passed {step : Step} {rest : List Step} {before between after : Scene σ}
      {result : Except Failure Value} {turns : List Turn}
      (ends : executor.Ends step before result between)
      (goesOn : (Turn.mk step result).halts = false)
      (further : Takes executor rest between turns after) :
      Takes executor (step :: rest) before (⟨step, result⟩ :: turns) after

theorem ends_of_execute (blind : executor.HandlersAreBlind)
    (ended : executor.execute step state = (.ofExcept result, after)) :
    executor.Ends step state.scene result after.scene := by
  intro other same
  obtain ⟨sameOutcome, sameScene⟩ := blind_execute blind step other state same
  rw [ended] at sameOutcome sameScene
  exact ⟨sameOutcome, sameScene⟩

theorem Takes.areUpToFirstHalt (takes : executor.Takes steps before turns last) :
    Turn.AreUpToFirstHalt steps turns := by
  induction takes with
  | nothing => exact ⟨List.prefix_refl _, by simp, fun _ => rfl⟩
  | halted ends halts =>
      refine ⟨by simp, by simp, fun none => ?_⟩
      rw [List.forall_mem_singleton, halts] at none
      cases none
  | @passed step rest before between after result turns ends goesOn further inductionHypothesis =>
      obtain ⟨inOrder, goOn, complete⟩ := inductionHypothesis
      refine ⟨by simpa using inOrder, ?_, fun none => ?_⟩
      · cases turns with
        | nil => simp
        | cons next others => simpa [goesOn] using goOn
      · rw [List.forall_mem_cons] at none
        rw [List.map_cons, complete none.2]

theorem entry_of_ends (ends : executor.Ends step before result last)
    (same : state.scene = before) :
    ∃ after, after.scene = last ∧
      ((Turn.mk step result).halts = false →
        entry step.header (executor.execute step) state =
          (.done (Turn.mk step result).entry, after)) ∧
      ∀ failure, (Turn.mk step result).halts = true → result = .error failure →
        entry step.header (executor.execute step) state = (.failed failure, after) := by
  obtain ⟨sameOutcome, sameScene⟩ := ends state same
  cases ended : executor.execute step state with
  | mk outcome after =>
      rw [ended] at sameOutcome sameScene
      obtain rfl : outcome = .ofExcept result := sameOutcome
      cases result with
      | ok output => exact ⟨after, sameScene, fun _ => entry_of_done ended, nofun⟩
      | error failure =>
          cases stops : step.header.stopOnError with
          | true =>
              refine ⟨after, sameScene, fun goesOn => ?_, fun _ _ same => ?_⟩
              · simp [Turn.halts, stops, Except.isOk, Except.toBool] at goesOn
              · cases same
                exact entry_of_failed_stopping ended stops
          | false =>
              have goesOn := entry_of_failed_goingOn ended stops
              refine ⟨_, ?_, fun _ => goesOn, fun _ halts => ?_⟩
              · exact sameScene
              · simp [Turn.halts, stops] at halts

/-- How a list of steps ends whose steps took turns: with their entries, or as the turn that halts
it. -/
structure ListEnds (turns : List Turn) (outcome : Outcome (List StepEntry)) : Prop where
  complete : (∀ turn ∈ turns, turn.halts = false) → outcome = .done (turns.map Turn.entry)
  halted : ∀ turn ∈ turns, ∀ failure, turn.halts = true → turn.result = .error failure →
    outcome = .failed failure

theorem Takes.executeAll_eq (takes : executor.Takes steps before turns last) (state : State σ)
    (same : state.scene = before) :
    ∃ outcome after, executor.executeAll steps state = (outcome, after) ∧
      ListEnds turns outcome ∧ after.scene = last := by
  induction takes generalizing state with
  | nothing =>
      rw [executeAll]
      exact ⟨_, _, rfl, ⟨fun _ => rfl, by simp⟩, same⟩
  | @halted step rest before after result ends halts =>
      obtain ⟨stop, sameScene, _, fails⟩ := entry_of_ends ends same
      cases result with
      | ok output => simp [Turn.halts, Except.isOk, Except.toBool] at halts
      | error failure =>
          rw [executeAll, Action.bind_of_failed (fails failure halts rfl)]
          refine ⟨_, _, rfl, ⟨fun none => ?_, ?_⟩, sameScene⟩
          · rw [List.forall_mem_singleton, halts] at none
            cases none
          · simp
  | @passed step rest before between after result turns ends goesOn further inductionHypothesis =>
      obtain ⟨next, sameScene, goes, _⟩ := entry_of_ends ends same
      obtain ⟨outcome, stop, ran, ⟨complete, halted⟩, lastScene⟩ :=
        inductionHypothesis next sameScene
      have listed : executor.executeAll (step :: rest) state =
          (((Turn.mk step result).entry :: ·) <$> outcome, stop) := by
        rw [executeAll, Action.bind_of_done (goes goesOn)]
        exact Action.bind_pure_eq ran
      refine ⟨_, stop, listed, ⟨fun none => ?_, ?_⟩, lastScene⟩
      · rw [List.forall_mem_cons] at none
        rw [complete none.2]
        rfl
      · intro turn member failure halts failed
        rcases List.mem_cons.mp member with rfl | inRest
        · simp [goesOn] at halts
        · rw [halted turn inRest failure halts failed]
          rfl

end Executor

namespace Runner

open Executor (Takes)

variable {σ : Type} {executor : Executor σ} {executionId : String} {steps : List Step}
  {step : Step} {progress : Progress} {state after : State σ}

theorem exists_turn_of_runStep (blind : executor.HandlersAreBlind) {ended : StepResult}
    (ran : runStep executor step state = (.done ended, after)) :
    ∃ result durationMs, executor.Ends step state.scene result after.scene ∧
      ended = (Turn.mk step result).reported durationMs := by
  unfold runStep at ran
  cases executed : executor.execute step state with
  | mk outcome between =>
      rw [executed] at ran
      cases elapsed : elapsedMs (executor.collaborators.now state.world)
          (executor.collaborators.now between.world) with
      | error fault => cases outcome <;> simp [elapsed] at ran
      | ok durationMs =>
          cases outcome with
          | done output =>
              simp only [elapsed, Prod.mk.injEq, Outcome.done.injEq] at ran
              obtain ⟨rfl, rfl⟩ := ran
              exact ⟨.ok output, durationMs, Executor.ends_of_execute blind executed, rfl⟩
          | failed failure =>
              simp only [elapsed, Prod.mk.injEq, Outcome.done.injEq] at ran
              obtain ⟨rfl, rfl⟩ := ran
              have ends : executor.Ends step state.scene (.error failure) between.scene :=
                Executor.ends_of_execute blind executed
              exact ⟨.error failure, durationMs, ends, rfl⟩
          | cancelled => simp at ran

theorem runStep_ne_failed (finite : executor.ClockIsFinite) {failure : Failure} :
    runStep executor step state ≠ (.failed failure, after) := by
  intro faults
  unfold runStep at faults
  cases executed : executor.execute step state with
  | mk outcome between =>
      obtain ⟨durationMs, elapsed⟩ := finite state.world between.world
      rw [executed] at faults
      cases outcome <;> simp [elapsed] at faults

/-- The steps of a run that nothing cancels take turns, and the run reports these. -/
theorem Plays.exists_takes (blind : executor.HandlersAreBlind) (finite : executor.ClockIsFinite)
    (plays : Plays executor executionId steps state progress after)
    (uncancelled : progress.ending ≠ .cancelled) :
    ∃ turns durations, executor.Takes steps state.scene turns after.scene ∧
      durations.length = turns.length ∧ progress = Turn.progress turns durations := by
  induction plays with
  | nothing => exact ⟨[], [], .nothing, rfl, rfl⟩
  | cancelled => exact absurd rfl uncancelled
  | faulted faults => exact (runStep_ne_failed finite faults).elim
  | @halted step _ _ _ _ ends failed halts =>
      obtain ⟨result, durationMs, ended, rfl⟩ := exists_turn_of_runStep blind ends
      rw [Turn.isSuccess_reported] at failed
      have stops : (Turn.mk step result).halts = true := by simp [Turn.halts, failed, halts]
      exact ⟨[⟨_, result⟩], [durationMs], .halted ended stops, rfl,
        @Turn.following_progress _ _ [] []⟩
  | @passed step _ _ _ _ _ _ ends goesOn further inductionHypothesis =>
      obtain ⟨result, durationMs, ended, rfl⟩ := exists_turn_of_runStep blind ends
      obtain ⟨turns, durations, takes, sameLength, rfl⟩ := inductionHypothesis uncancelled
      rw [Turn.isSuccess_reported] at goesOn
      have continues : (Turn.mk step result).halts = false := by
        rcases goesOn with succeeds | listGoesOn
        · simp [Turn.halts, succeeds]
        · simp [Turn.halts, listGoesOn]
      exact ⟨⟨_, result⟩ :: turns, durationMs :: durations, .passed ended continues takes,
        by simp [sameLength], Turn.following_progress⟩

/-- What the last record of a run says of the turns that its steps took. -/
structure RecordsTurns (turns : List Turn) (record : RunRecord) : Prop where
  steps : ∃ durations : List Int, durations.length = turns.length ∧
    Entries.get? "steps" record.detailsLog =
      some (.list ((List.zipWith Turn.reported turns durations).map StepResult.toValue))
  errors : Entries.get? "errors" record.detailsLog =
    some (.list ((turns.filterMap Turn.error?).map .text))

section

variable {τ : Type} {runner : Runner σ τ} {launch : Launch} {start : RunState σ τ}
  {blueprint : Blueprint}

/-- A run and a list inside a step stop at the same step. From one scene, the steps of both take the
same turns, up to the first that halts: the run records each turn and the error of each failed one,
the list gives an entry for each turn or fails as the turn that halts it, and both leave the same
scene. -/
theorem run_and_list_stop_alike (blind : runner.executor.HandlersAreBlind)
    (finite : runner.executor.ClockIsFinite) (begins : runner.Begins launch start blueprint state)
    (uncancelled : ∀ finished step before, runner.ComesTo launch start finished step before →
      (runner.executor.execute step before).1 ≠ .cancelled) :
    ∃ turns last, runner.executor.Takes blueprint.steps state.scene turns last ∧
      Turn.AreUpToFirstHalt blueprint.steps turns ∧
      (∃ result first second,
        (runner.run launch start).1 = .done result ∧
          runner.watched.run launch (start.watched []) =
            (.done result, (runner.run launch start).2.watched [first, second]) ∧
          RecordsTurns turns second.record ∧
          (runSteps runner.executor launch.executionId blueprint.steps state).2.scene = last ∧
          (runner.run launch start).2.world = last.world) ∧
      ∀ inside : State σ, inside.scene = state.scene →
        ∃ outcome after, runner.executor.executeAll blueprint.steps inside = (outcome, after) ∧
          Executor.ListEnds turns outcome ∧ after.scene = last := by
  have ending := played_ending_ne_cancelled uncancelled
  have playedSteps := begins.played_eq.1
  rw [playedSteps] at ending
  obtain ⟨turns, durations, takes, sameLength, played⟩ :=
    (plays_runSteps runner.executor launch.executionId blueprint.steps state).exists_takes blind
      finite ending
  rw [← playedSteps] at played
  refine ⟨turns, _, takes, takes.areUpToFirstHalt, ?_, takes.executeAll_eq⟩
  obtain ⟨durationMs, elapsed⟩ := finite start.world (runner.run launch start).2.world
  rw [← elapsed_eq] at elapsed
  have given : (runner.run launch start).1 = .done (runner.report launch start durationMs) := by
    rw [run_of_elapsed elapsed, finish_of_not_cancelled (played_ending_ne_cancelled uncancelled)]
    rfl
  have accords := accords_report runner launch start durationMs
  rw [played] at accords
  refine ⟨_, runner.firstSubmission launch start, runner.secondSubmission launch start durationMs,
    given, ?_, ⟨⟨durations, sameLength, ?_⟩, ?_⟩, rfl, ?_⟩
  · rw [run_watched elapsed, given]
  · exact accords.recordedSteps
  · exact accords.recordedErrors
  · rw [world_run, begins.played_eq.2]
    rfl

theorem handlersAreBlind_hostExecutor : hostExecutor.HandlersAreBlind := by
  intro type handler found step
  simp only [hostExecutor, Entries.get?] at found
  split at found
  · cases found
    exact Action.Blind.isClosed.fail _
  · split at found
    · cases found
      exact Action.Blind.isClosed.done _
    · split at found
      · cases found
        exact fun _ _ same => ⟨rfl, same⟩
      · cases found

theorem ComesTo.mem_of_launchOf {finished : List StepResult} {before : State σ}
    (comes : runner.ComesTo (launchOf steps) start finished step before) : step ∈ steps := by
  obtain ⟨blueprint, _, earlier, later, begins, split, _⟩ := comes
  have read := begins.read
  cases read
  change steps = earlier ++ step :: later at split
  simp [split]

theorem run_and_list_stop_alike_of_failures :
    let runner : Runner Unit MemoryStore := ⟨hostExecutor, memoryStore, []⟩
    let steps := [hostStep "first" "broken" false, hostStep "second" "steady" true,
      hostStep "third" "broken" true, hostStep "fourth" "steady" true]
    let launch := launchOf steps
    let start : RunState Unit MemoryStore := ⟨[], (), []⟩
    runner.executor.HandlersAreBlind ∧ runner.executor.ClockIsFinite ∧
      ∃ blueprint state, runner.Begins launch start blueprint state ∧
        (∀ finished step before, runner.ComesTo launch start finished step before →
          (runner.executor.execute step before).1 ≠ .cancelled) ∧
        ∃ turns last, runner.executor.Takes blueprint.steps state.scene turns last ∧
          Turn.AreUpToFirstHalt blueprint.steps turns ∧
          ∃ outcome after,
            runner.executor.executeAll blueprint.steps state = (outcome, after) ∧
              Executor.ListEnds turns outcome ∧ after.scene = last := by
  intro runner steps launch start
  have uncancelled : ∀ finished step before, runner.ComesTo launch start finished step before →
      (runner.executor.execute step before).1 ≠ .cancelled := by
    intro finished step before comes cancelled
    have stopped : runner.executor.execute step before =
        (.cancelled, (runner.executor.execute step before).2) := Prod.ext cancelled rfl
    have either : step = hostStep "first" "broken" false ∨
        step = hostStep "second" "steady" true ∨ step = hostStep "third" "broken" true ∨
          step = hostStep "fourth" "steady" true := by
      simpa [steps] using comes.mem_of_launchOf
    rcases either with rfl | rfl | rfl | rfl <;>
      rw [Executor.execute_of_handler rfl, Executor.complete_cancelled_iff] at stopped <;>
        cases stopped
  have finite : runner.executor.ClockIsFinite := fun _ _ => ⟨0, elapsedMs_zero⟩
  obtain ⟨blueprint, state, begins⟩ : ∃ blueprint state,
      runner.Begins launch start blueprint state := by
    obtain ⟨lines, prepared⟩ := runner.exists_prepare_eq_ok launch rfl (by decide)
    exact ⟨_, _, .mk rfl prepared⟩
  obtain ⟨turns, last, takes, upToHalt, _, alike⟩ :=
    run_and_list_stop_alike handlersAreBlind_hostExecutor finite begins uncancelled
  exact ⟨handlersAreBlind_hostExecutor, finite, blueprint, state, begins, uncancelled, turns, last,
    takes, upToHalt, alike state rfl⟩

end

end Runner
end Automation
