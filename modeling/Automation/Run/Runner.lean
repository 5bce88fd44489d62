import Automation.Blueprint.Analysis
import Automation.Blueprint.Reader
import Automation.Execution.Steps
import Automation.Run.Store

/-!
Running a blueprint for one trigger.

`Runner.run` records the run as running, runs the steps in order until one that fails ends them, and
records how the run ended. Neither a failing step nor a failing store is a failure of `run`; both
are errors in its result. A cancelled run is recorded as failed and stays cancelled.
-/

namespace Automation

/-- A step of a run and how it ended: with its output, or with the message of its failure. -/
structure StepResult where
  stepId : String
  stepType : String
  result : Except String Value
  durationMs : Int

namespace StepResult

/-- Whether a step succeeded. -/
def isSuccess (step : StepResult) : Bool := step.result.isOk

/-- A step as it appears in results and records. -/
def toValue (step : StepResult) : Value :=
  .object
    ([("stepId", .text step.stepId), ("stepType", .text step.stepType),
        ("success", .bool step.isSuccess), ("durationMs", .int step.durationMs)]
      ++ match step.result with
        | .ok output => [("output", output)]
        | .error message => [("error", .text message)])

end StepResult

/-- How a run ended: without errors or with some, and the steps that succeeded. -/
structure ExecutionResult where
  success : Bool
  executionId : String
  durationMs : Int
  results : List StepResult
  errors : List String

namespace ExecutionResult

/-- A result as the fields of an object. -/
def toFields (result : ExecutionResult) : Fields :=
  [("success", .bool result.success), ("executionId", .text result.executionId),
    ("duration", .int result.durationMs),
    ("results", .list (result.results.map StepResult.toValue)),
    ("errors", .list (result.errors.map .text))]

end ExecutionResult

/-- What is run: a blueprint, or a value that a blueprint is read from. -/
inductive BlueprintSource where
  | parsed (blueprint : Blueprint)
  | stored (data : Value)

namespace BlueprintSource

/-- The blueprint to run. -/
def toBlueprint : BlueprintSource → Except Malformed Blueprint
  | .parsed blueprint => .ok blueprint
  | .stored data => Blueprint.read data

end BlueprintSource

/-- What is known of a run when it starts. -/
structure Launch where
  executionId : String
  automationId : String
  source : BlueprintSource
  triggerData : Value
  createdAt : Timestamp

/-- What a runner works with. -/
structure Runner (σ τ : Type) where
  executor : Executor σ
  store : RunStore τ
  platformKeys : List String

/-- What a run changes: the log, latest line first, the world outside and the store. -/
structure RunState (σ τ : Type) where
  log : List Logging.Line
  world : σ
  store : τ

/-- How far the steps of a run came: the steps that ended, their errors, and whether something else
stopped them. -/
structure Progress where
  steps : List StepResult
  errors : List String
  ending : Outcome Unit

namespace Progress

/-- Steps that ended by themselves. -/
def finished (steps : List StepResult) (errors : List String) : Progress :=
  ⟨steps, errors, .done ()⟩

/-- Nothing but what stopped the steps. -/
def stopped (ending : Outcome Unit) : Progress := ⟨[], [], ending⟩

/-- One more step, and its errors, before the others. -/
def after (step : StepResult) (errors : List String) (progress : Progress) : Progress :=
  ⟨step :: progress.steps, errors ++ progress.errors, progress.ending⟩

/-- The progress with the error of what stopped the steps, if anything did. -/
def withEnding (progress : Progress) : List String :=
  match progress.ending with
  | .done _ => progress.errors
  | .cancelled => progress.errors ++ ["Automation execution cancelled"]
  | .failed failure =>
      progress.errors ++ [s!"Automation execution failed: {failure.message}"]

/-- The steps that succeeded. -/
def successes (progress : Progress) : List StepResult :=
  progress.steps.filter StepResult.isSuccess

/-- The details that a record keeps. -/
def details (progress : Progress) (durationMs : Int) : Fields :=
  [("steps", .list (progress.steps.map StepResult.toValue)),
    ("results", .list (progress.successes.map StepResult.toValue)),
    ("errors", .list (progress.withEnding.map .text)),
    ("execution_time", .int durationMs)]

end Progress

namespace Runner

variable {σ τ : Type}

/-- Run a step of the run itself. A step that fails ends with its message; only its duration can
fail here. -/
def runStep (executor : Executor σ) (step : Step) : Action σ StepResult := fun state =>
  let start := executor.collaborators.now state.world
  match executor.execute step state with
  | (.cancelled, after) => (.cancelled, after)
  | (.done output, after) =>
      match elapsedMs start (executor.collaborators.now after.world) with
      | .ok duration => (.done ⟨step.id, step.type, .ok output, duration⟩, after)
      | .error failure => (.failed failure, after)
  | (.failed failure, after) =>
      match elapsedMs start (executor.collaborators.now after.world) with
      | .error other => (.failed other, after)
      | .ok duration =>
          (.done ⟨step.id, step.type, .error failure.message, duration⟩,
            { after with
              log := ⟨.warning, s!"Step {step.id} failed: {failure.message}"⟩ :: after.log })

/-- Run steps in order, up to the first that fails and ends the run. -/
def runSteps (executor : Executor σ) (executionId : String) :
    List Step → State σ → Progress × State σ
  | [], state => (.finished [] [], state)
  | step :: rest, state =>
      match runStep executor step state with
      | (.cancelled, after) => (.stopped .cancelled, after)
      | (.failed failure, after) => (.stopped (.failed failure), after)
      | (.done result, after) =>
          match result.result with
          | .ok _ =>
              match runSteps executor executionId rest after with
              | (progress, last) => (progress.after result [], last)
          | .error message =>
              let error := s!"Step {step.id} failed: {message}"
              if step.header.stopOnError then
                (.finished [result] [error],
                  { after with
                    log := ⟨.warning, s!"Halting run {executionId} after step {step.id} failed"⟩
                      :: after.log })
              else
                match runSteps executor executionId rest after with
                | (progress, last) => (progress.after result [error], last)

/-- The lines about the structure of a blueprint with steps. The log takes lines of every level, so
the blueprint is always analysed. -/
def structureLines (platformKeys : List String) (executionId : String) (blueprint : Blueprint) :
    Except Failure (List Logging.Line) := do
  match ← Statistics.ofBlueprint? platformKeys blueprint with
  | some statistics =>
      let shown := (Value.object statistics.toFields).display
      .ok [⟨.debug, s!"Run {executionId} blueprint structure: {shown}"⟩,
        ⟨.debug, s!"Blueprint analysis completed: {shown}"⟩]
  | none => .ok []

/-- The blueprint of a run, and the lines about its structure. -/
def prepare (runner : Runner σ τ) (launch : Launch) :
    Except Failure (Blueprint × List Logging.Line) :=
  match launch.source.toBlueprint with
  | .error malformed => .error (.engine malformed.error)
  | .ok blueprint =>
      (blueprint, ·) <$> structureLines runner.platformKeys launch.executionId blueprint

/-- Hand a record to the store. -/
def record (runner : Runner σ τ) (entry : RunRecord) (state : RunState σ τ) :
    Except Failure Unit × RunState σ τ :=
  match runner.store.upsert entry state.store with
  | (.ok (), store) =>
      (.ok (), { state with
        store := store, log := (runner.store.announce entry).reverse ++ state.log })
  | (.error failure, store) => (.error failure, { state with store := store })

/-- Write a line to the log. -/
def note (level : Logging.Level) (message : String) (state : RunState σ τ) : RunState σ τ :=
  { state with log := ⟨level, message⟩ :: state.log }

/-- The payload of a trigger: an empty object where there is none. -/
def payloadOf (triggerData : Value) : Value :=
  if triggerData.isNull then .object [] else triggerData

/-- The record of a run that starts. -/
def startingRecord (launch : Launch) : RunRecord :=
  { id := launch.executionId
    automationId := launch.automationId
    status := .running
    triggerData := payloadOf launch.triggerData
    durationMs := none
    detailsLog := []
    createdAt := launch.createdAt }

/-- The record of a run that has ended. -/
def finalRecord (launch : Launch) (progress : Progress) (durationMs : Int) : RunRecord :=
  { startingRecord launch with
    status := if progress.withEnding.isEmpty then .completed else .failed
    durationMs := some durationMs
    detailsLog := progress.details durationMs }

/-- Record the start of a run and run its steps. -/
def progress (runner : Runner σ τ) (launch : Launch) (state : RunState σ τ) :
    Progress × RunState σ τ :=
  match runner.record (startingRecord launch) state with
  | (.error failure, after) => (.stopped (.failed failure), after)
  | (.ok (), after) =>
      match runner.prepare launch with
      | .error failure => (.stopped (.failed failure), after)
      | .ok (blueprint, lines) =>
          let start : State σ :=
            ⟨Variables.create blueprint.variables launch.triggerData, lines ++ after.log,
              after.world⟩
          match runSteps runner.executor launch.executionId blueprint.steps start with
          | (progress, last) => (progress, { after with log := last.log, world := last.world })

/-- Report what stopped the steps of a run, if anything did. -/
def reportEnding (launch : Launch) (progress : Progress) (state : RunState σ τ) : RunState σ τ :=
  match progress.ending with
  | .done _ => state
  | .cancelled =>
      note .warning s!"Automation {launch.automationId} run {launch.executionId} cancelled" state
  | .failed failure =>
      note .error
        s!"Automation {launch.automationId} run {launch.executionId} failed: {failure.message}"
      state

/-- Record the end of a run, and give the error of a store that fails. -/
def conclude (runner : Runner σ τ) (launch : Launch) (progress : Progress) (durationMs : Int)
    (state : RunState σ τ) : List String × RunState σ τ :=
  match runner.record (finalRecord launch progress durationMs) state with
  | (.ok (), after) => ([], after)
  | (.error failure, after) =>
      ([s!"Automation execution failed: {failure.message}"],
        note .error
          s!"Could not record final state of run {launch.executionId}: {failure.message}" after)

/-- Run a blueprint for one trigger. -/
def run (runner : Runner σ τ) (launch : Launch) (state : RunState σ τ) :
    Outcome ExecutionResult × RunState σ τ :=
  let start := runner.executor.collaborators.now state.world
  let begun :=
    note .info s!"Starting automation {launch.automationId} run {launch.executionId}" state
  match runner.progress launch begun with
  | (progress, after) =>
      let reported := reportEnding launch progress after
      match elapsedMs start (runner.executor.collaborators.now reported.world) with
      | .error failure => (.failed failure, reported)
      | .ok duration =>
          match runner.conclude launch progress duration reported with
          | (further, concluded) =>
              match progress.ending with
              | .cancelled => (.cancelled, concluded)
              | _ =>
                  let errors := progress.withEnding ++ further
                  let verdict := if errors.isEmpty then "completed" else "failed"
                  (.done ⟨errors.isEmpty, launch.executionId, duration, progress.successes, errors⟩,
                    note .info
                      (s!"Automation {launch.automationId} run {launch.executionId} "
                        ++ s!"{verdict} in {duration}ms") concluded)

end Runner
end Automation
