import Automation.Proofs.Blueprint.Analysis
import Automation.Run.Runner

/-!
How far the steps of a run come.

`Plays` is the run of a list of steps as a relation: every step ends and lets the run go on, until
one of them is cancelled, stops the run by a fault, or fails and ends it. `Passes` holds of steps
that all let the run go on. The errors of a run of steps are those of its failed steps, in order.
-/

namespace Automation

namespace StepResult

/-- The error that a failed step is to the run. -/
def error? (step : StepResult) : Option String :=
  match step.result with
  | .ok _ => none
  | .error message => some s!"Step {step.stepId} failed: {message}"

theorem error?_eq_none_iff {step : StepResult} : step.error? = none ↔ step.isSuccess = true := by
  cases ended : step.result <;> simp [error?, isSuccess, ended, Except.isOk, Except.toBool]

/-- The errors that steps are to the run, in order. -/
def errors (steps : List StepResult) : List String := steps.filterMap error?

theorem errors_eq_nil_iff {steps : List StepResult} :
    errors steps = [] ↔ ∀ step ∈ steps, step.isSuccess = true := by
  simp [errors, List.filterMap_eq_nil_iff, error?_eq_none_iff]

theorem errors_append (first second : List StepResult) :
    errors (first ++ second) = errors first ++ errors second :=
  List.filterMap_append

theorem errors_singleton_eq_nil_iff {step : StepResult} :
    errors [step] = [] ↔ step.isSuccess = true := by
  simp [errors_eq_nil_iff]

end StepResult

/-- The progress of steps that ended by themselves, followed by further progress. -/
def Progress.following (finished : List StepResult) (progress : Progress) : Progress :=
  ⟨finished ++ progress.steps, StepResult.errors finished ++ progress.errors, progress.ending⟩

theorem Progress.following_following {first second : List StepResult} {progress : Progress} :
    following first (following second progress) = following (first ++ second) progress := by
  simp [following, StepResult.errors_append]

theorem Progress.withEnding_following {finished : List StepResult} {progress : Progress} :
    (following finished progress).withEnding =
      StepResult.errors finished ++ progress.withEnding := by
  cases ended : progress.ending <;> simp [withEnding, following, ended]

namespace Runner

variable {σ : Type} {executor : Executor σ} {executionId : String} {steps rest : List Step}
  {step : Step} {finished : List StepResult} {result : StepResult} {progress : Progress}
  {state between after : State σ}

theorem stepId_of_runStep (ended : runStep executor step state = (.done result, after)) :
    result.stepId = step.id := by
  unfold runStep at ended
  grind

/-- What is recorded of a step names the step. -/
theorem names_of_runStep (ended : runStep executor step state = (.done result, after)) :
    (result.stepId, result.stepType) = (step.id, step.type) := by
  unfold runStep at ended
  grind

theorem runStep_cancelled_iff :
    runStep executor step state = (.cancelled, after) ↔
      executor.execute step state = (.cancelled, after) := by
  unfold runStep
  grind

/-- A run of steps, its progress and the state in which it stops. -/
inductive Plays (executor : Executor σ) (executionId : String) :
    List Step → State σ → Progress → State σ → Prop where
  | nothing {state : State σ} : Plays executor executionId [] state (.finished [] []) state
  | cancelled {step : Step} {rest : List Step} {state after : State σ}
      (cancelled : executor.execute step state = (.cancelled, after)) :
      Plays executor executionId (step :: rest) state (.stopped .cancelled) after
  | faulted {step : Step} {rest : List Step} {state after : State σ} {failure : Failure}
      (faults : runStep executor step state = (.failed failure, after)) :
      Plays executor executionId (step :: rest) state (.stopped (.failed failure)) after
  | halted {step : Step} {rest : List Step} {state after : State σ} {result : StepResult}
      (ends : runStep executor step state = (.done result, after))
      (failed : result.isSuccess = false) (halts : step.header.stopOnError = true) :
      Plays executor executionId (step :: rest) state (.following [result] (.finished [] []))
        { after with
          log := ⟨.warning, s!"Halting run {executionId} after step {step.id} failed"⟩
            :: after.log }
  | passed {step : Step} {rest : List Step} {state between after : State σ} {result : StepResult}
      {progress : Progress} (ends : runStep executor step state = (.done result, between))
      (goesOn : result.isSuccess = true ∨ step.header.stopOnError = false)
      (further : Plays executor executionId rest between progress after) :
      Plays executor executionId (step :: rest) state (.following [result] progress) after

theorem runSteps_of_done (ends : runStep executor step state = (.done result, between)) :
    runSteps executor executionId (step :: rest) state =
      if result.isSuccess = false ∧ step.header.stopOnError = true then
        (.following [result] (.finished [] []),
          { between with
            log := ⟨.warning, s!"Halting run {executionId} after step {step.id} failed"⟩
              :: between.log })
      else
        (.following [result] (runSteps executor executionId rest between).1,
          (runSteps executor executionId rest between).2) := by
  have id := stepId_of_runStep ends
  obtain ⟨stepId, stepType, ended, durationMs⟩ := result
  obtain rfl : stepId = step.id := id
  rw [runSteps, ends]
  cases ended with
  | ok output =>
      simp [StepResult.isSuccess, Except.isOk, Except.toBool, Progress.after,
        Progress.following, StepResult.errors, StepResult.error?]
  | error message =>
      cases stops : step.header.stopOnError <;>
        simp [StepResult.isSuccess, Except.isOk, Except.toBool, Progress.after, Progress.finished,
          Progress.following, StepResult.errors, StepResult.error?]

/-- A run of steps goes as the relation says. -/
theorem plays_runSteps (executor : Executor σ) (executionId : String) (steps : List Step)
    (state : State σ) :
    Plays executor executionId steps state (runSteps executor executionId steps state).1
      (runSteps executor executionId steps state).2 := by
  induction steps generalizing state with
  | nil => exact .nothing
  | cons step rest inductionHypothesis =>
      cases ended : runStep executor step state with
      | mk outcome between =>
          cases outcome with
          | done result =>
              rw [runSteps_of_done ended]
              split
              · next halts => exact .halted ended halts.1 halts.2
              · next goesOn =>
                  refine .passed ended ?_ (inductionHypothesis between)
                  cases succeeded : result.isSuccess <;> simp_all
          | failed failure =>
              rw [runSteps, ended]
              exact .faulted ended
          | cancelled =>
              rw [runSteps, ended]
              exact .cancelled (runStep_cancelled_iff.mp ended)

theorem Plays.errors_eq (plays : Plays executor executionId steps state progress after) :
    progress.errors = StepResult.errors progress.steps := by
  induction plays with
  | nothing | cancelled | faulted => rfl
  | halted => simp [Progress.following, Progress.finished]
  | passed ends goesOn further inductionHypothesis =>
      simp only [Progress.following, StepResult.errors_append, inductionHypothesis]

/-- The steps of a run are the first ones of those that it was to run, in their order. -/
theorem Plays.names_prefix (plays : Plays executor executionId steps state progress after) :
    progress.steps.map (fun step => (step.stepId, step.stepType)) <+:
      steps.map fun step => (step.id, step.type) := by
  induction plays with
  | nothing | cancelled | faulted => exact List.nil_prefix
  | halted ends =>
      rw [List.map_cons, ← names_of_runStep ends]
      exact List.prefix_append _ _
  | passed ends goesOn further inductionHypothesis =>
      rw [List.map_cons, ← names_of_runStep ends]
      exact List.prefix_cons_inj _ |>.mpr inductionHypothesis

/-- A run of one step leaves the world as the step does. -/
theorem world_runSteps_singleton :
    (runSteps executor executionId [step] state).2.world =
      (executor.execute step state).2.world := by
  have kept : (runStep executor step state).2.world = (executor.execute step state).2.world := by
    unfold runStep
    grind
  unfold runSteps
  grind [runSteps]

/-- Steps that all end by themselves and let the run go on, with what they end with. -/
inductive Passes (executor : Executor σ) :
    List Step → State σ → List StepResult → State σ → Prop where
  | nothing {state : State σ} : Passes executor [] state [] state
  | more {step : Step} {rest : List Step} {result : StepResult} {results : List StepResult}
      {state between after : State σ}
      (ends : runStep executor step state = (.done result, between))
      (goesOn : result.isSuccess = true ∨ step.header.stopOnError = false)
      (further : Passes executor rest between results after) :
      Passes executor (step :: rest) state (result :: results) after

theorem Passes.runSteps_append {earlier : List Step}
    (passes : Passes executor earlier state finished between) :
    runSteps executor executionId (earlier ++ rest) state =
      (.following finished (runSteps executor executionId rest between).1,
        (runSteps executor executionId rest between).2) := by
  induction passes with
  | nothing => simp [Progress.following, StepResult.errors]
  | more ends goesOn further inductionHypothesis =>
      -- The step lets the run go on, so the case in which it halts is out.
      rw [List.cons_append, runSteps_of_done ends, if_neg (by grind), inductionHypothesis,
        Progress.following_following, List.singleton_append]

theorem Passes.runSteps_eq (passes : Passes executor steps state finished after) :
    runSteps executor executionId steps state = (.following finished (.finished [] []), after) := by
  have appended : runSteps executor executionId (steps ++ []) state = _ := passes.runSteps_append
  simpa [runSteps] using appended

/-- A run of steps that passes the first ones and is cancelled at the next one. -/
theorem Passes.runSteps_of_cancelled {earlier later : List Step}
    (passes : Passes executor earlier state finished between)
    (cancelled : executor.execute step between = (.cancelled, after)) :
    runSteps executor executionId (earlier ++ step :: later) state =
      (⟨finished, StepResult.errors finished, .cancelled⟩, after) := by
  rw [passes.runSteps_append, runSteps, runStep_cancelled_iff.mpr cancelled]
  simp [Progress.following, Progress.stopped]

/-- A run of steps is cancelled only by a step that it comes to. -/
theorem Plays.exists_of_cancelled (plays : Plays executor executionId steps state progress after)
    (cancelled : progress.ending = .cancelled) :
    ∃ earlier step later finished between,
      steps = earlier ++ step :: later ∧ Passes executor earlier state finished between ∧
        executor.execute step between = (.cancelled, after) := by
  induction plays with
  | cancelled stopped => exact ⟨[], _, _, [], _, rfl, .nothing, stopped⟩
  | nothing => cases cancelled
  | faulted => cases cancelled
  | halted => cases cancelled
  | passed ends goesOn further inductionHypothesis =>
      obtain ⟨earlier, inner, later, finished, between, rfl, passes, stopped⟩ :=
        inductionHypothesis cancelled
      exact ⟨_ :: earlier, inner, later, _, between, rfl, .more ends goesOn passes, stopped⟩

/-- A run of steps without errors passes them all, and each of them succeeds. -/
theorem Plays.passes_of_withEnding_eq_nil
    (plays : Plays executor executionId steps state progress after)
    (none : progress.withEnding = []) :
    Passes executor steps state progress.steps after ∧
      ∀ step ∈ progress.steps, step.isSuccess = true := by
  induction plays with
  | nothing => exact ⟨.nothing, by simp [Progress.finished]⟩
  | cancelled | faulted => simp [Progress.withEnding, Progress.stopped] at none
  | halted ends failed halts =>
      rw [Progress.withEnding_following, List.append_eq_nil_iff,
        StepResult.errors_singleton_eq_nil_iff] at none
      simp [failed] at none
  | passed ends goesOn further inductionHypothesis =>
      rw [Progress.withEnding_following, List.append_eq_nil_iff,
        StepResult.errors_singleton_eq_nil_iff] at none
      obtain ⟨passes, succeed⟩ := inductionHypothesis none.2
      exact ⟨.more ends goesOn passes, List.forall_mem_cons.mpr ⟨none.1, succeed⟩⟩

section

variable {τ : Type} {runner : Runner σ τ} {launch : Launch} {blueprint : Blueprint}
  {start : State σ}

/-- The state in which a run hands over its first record. -/
def begun (launch : Launch) (state : RunState σ τ) : RunState σ τ :=
  note .info s!"Starting automation {launch.automationId} run {launch.executionId}" state

/-- The progress of a run, and the state that the run of its steps ends in. -/
def played (runner : Runner σ τ) (launch : Launch) (state : RunState σ τ) :
    Progress × RunState σ τ :=
  runner.progress launch (begun launch state)

/-- The state in which the steps of a run start: the store took the first record, and the blueprint
was read and analysed. -/
inductive Begins (runner : Runner σ τ) (launch : Launch) (state : RunState σ τ) :
    Blueprint → State σ → Prop where
  | mk {blueprint : Blueprint} {recorded : RunState σ τ} {lines : List Logging.Line}
      (accepted : runner.record (startingRecord launch) (begun launch state) = (.ok (), recorded))
      (prepared : runner.prepare launch = .ok (blueprint, lines)) :
      Begins runner launch state blueprint
        ⟨Variables.create blueprint.variables launch.triggerData, lines ++ recorded.log,
          recorded.world⟩

/-- A run comes to a step in a state, with what the steps before it ended with. -/
def ComesTo (runner : Runner σ τ) (launch : Launch) (state : RunState σ τ)
    (finished : List StepResult) (step : Step) (before : State σ) : Prop :=
  ∃ blueprint start earlier later, runner.Begins launch state blueprint start ∧
    blueprint.steps = earlier ++ step :: later ∧
      Passes runner.executor earlier start finished before

variable {state : RunState σ τ}

theorem Begins.played_eq (begins : runner.Begins launch state blueprint start) :
    (runner.played launch state).1 =
        (runSteps runner.executor launch.executionId blueprint.steps start).1 ∧
      (runner.played launch state).2.world =
        (runSteps runner.executor launch.executionId blueprint.steps start).2.world := by
  cases begins with
  | mk accepted prepared =>
      rw [played, progress, accepted]
      simp only [prepared, and_self]

theorem prepare_eq_ok_iff {lines : List Logging.Line} :
    runner.prepare launch = .ok (blueprint, lines) ↔
      launch.source.toBlueprint = .ok blueprint ∧
        structureLines runner.platformKeys launch.executionId blueprint = .ok lines := by
  unfold prepare
  cases launch.source.toBlueprint with
  | error malformed => simp
  | ok read =>
      rw [map_eq_ok_iff]
      simp
      grind

/-- A blueprint without integers that are not printed is prepared. -/
theorem exists_prepare_eq_ok (runner : Runner σ τ) (launch : Launch)
    (read : launch.source.toBlueprint = .ok blueprint)
    (printable : blueprint.stored.isPrintable = true) :
    ∃ lines, runner.prepare launch = .ok (blueprint, lines) := by
  obtain ⟨found, analysed⟩ :=
    Statistics.exists_ofValue?_eq_ok runner.platformKeys printable
  have told : ∃ lines,
      structureLines runner.platformKeys launch.executionId blueprint = .ok lines := by
    rw [structureLines, Statistics.ofBlueprint?, analysed]
    cases found <;> exact ⟨_, rfl⟩
  obtain ⟨lines, told⟩ := told
  exact ⟨lines, prepare_eq_ok_iff.mpr ⟨read, told⟩⟩

theorem Begins.read (begins : runner.Begins launch state blueprint start) :
    launch.source.toBlueprint = .ok blueprint := by
  cases begins with
  | mk _ prepared => exact (prepare_eq_ok_iff.mp prepared).1

theorem Begins.exists_lines (begins : runner.Begins launch state blueprint start) :
    ∃ lines, structureLines runner.platformKeys launch.executionId blueprint = .ok lines := by
  cases begins with
  | mk _ prepared => exact ⟨_, (prepare_eq_ok_iff.mp prepared).2⟩

/-- A run whose blueprint is not prepared is stopped by that. -/
theorem played_of_unprepared {recorded : RunState σ τ} {failure : Failure}
    (accepted : runner.record (startingRecord launch) (begun launch state) = (.ok (), recorded))
    (unprepared : runner.prepare launch = .error failure) :
    runner.played launch state = (.stopped (.failed failure), recorded) := by
  rw [played, progress, accepted]
  simp only [unprepared]

/-- A run whose steps do not start is stopped by a failure. -/
theorem begins_or_stopped (runner : Runner σ τ) (launch : Launch) (state : RunState σ τ) :
    (∃ blueprint start, runner.Begins launch state blueprint start) ∨
      (∀ blueprint start, ¬runner.Begins launch state blueprint start) ∧
        ∃ failure, (runner.played launch state).1 = .stopped (.failed failure) := by
  cases accepted : runner.record (startingRecord launch) (begun launch state) with
  | mk answer recorded =>
      cases answer with
      | error failure =>
          refine .inr ⟨fun blueprint start begins => ?_, failure, ?_⟩
          · cases begins with
            | mk acceptedToo => simp [accepted] at acceptedToo
          · rw [played, progress, accepted]
      | ok _ =>
          cases prepared : runner.prepare launch with
          | error failure =>
              refine .inr ⟨fun blueprint start begins => ?_, failure, ?_⟩
              · cases begins with
                | mk _ preparedToo => simp [prepared] at preparedToo
              · rw [played_of_unprepared accepted prepared]
          | ok found => exact .inl ⟨found.1, _, .mk accepted prepared⟩

end

end Runner
end Automation
