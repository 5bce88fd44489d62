import Automation.Execution.Control
import Automation.Execution.Leaf

/-!
Running steps.

`execute` runs one step: the handler of its type, then its output goes to the variable that the
step names. `executeAll` runs a list of steps in order; a step that fails ends the list unless it
says that the list goes on.
-/

namespace Automation.Executor

variable {σ : Type}

/-- Run a step's handler between the lines that report it, and keep its output. -/
def complete (executor : Executor σ) (header : StepHeader) (run : Action σ Value) :
    Action σ Value := do
  Action.log .debug s!"Executing step {header.id} ({header.type})"
  let start ← executor.now
  let output ← run
  let duration ← Action.ofExcept (elapsedMs start (← executor.now))
  Action.log .debug s!"Step {header.id} completed in {duration}ms"
  if header.outputVariable.truthy then
    Action.setVariables
      (← Action.ofExcept ((← Action.variables).assign header.outputVariable output))
  pure output

/-- A step of a list: its entry, where it succeeds or where the list goes on without it. -/
def entry (header : StepHeader) (run : Action σ Value) : Action σ StepEntry :=
  (run.andThen fun output => Action.done ⟨header.id, .ok output⟩).recover fun failure =>
    if header.stopOnError then Action.fail failure
    else do
      Action.log .warning s!"Nested step {header.id} failed, continuing: {failure.message}"
      pure ⟨header.id, .error failure.message⟩

/-- Steps that are left out where there are none. -/
def unlessEmpty {α : Type} (steps : List Step) (run : α) : Option α :=
  if steps.isEmpty then none else some run

mutual

/-- Run a step and give its output. -/
def execute (executor : Executor σ) : Step → Action σ Value
  | .mk header condition loop retry fallback trueStep falseStep =>
      match Entries.get? header.type executor.handlers with
      | some handler =>
          executor.complete header
            (handler (.mk header condition loop retry fallback trueStep falseStep))
      | none =>
          match StepType.ofName? header.type with
          | none => Action.raise (.unknownStepType (.text header.type))
          | some .apiCall => executor.complete header (executor.callApi header)
          | some .agentCall => executor.complete header (executor.callAgent header)
          | some .webhook => executor.complete header (executor.callWebhook header)
          | some .delay => executor.complete header (executor.wait header)
          | some .condition =>
              let ifTrue := match trueStep with
                | some step => some (execute executor step)
                | none => none
              let ifFalse := match falseStep with
                | some step => some (execute executor step)
                | none => none
              executor.complete header
                (match condition with
                  | some ⟨expression, trueSteps, falseSteps⟩ =>
                      executor.choose header expression
                        ⟨ifTrue, unlessEmpty trueSteps (executeAll executor trueSteps)⟩
                        ⟨ifFalse, unlessEmpty falseSteps (executeAll executor falseSteps)⟩
                  | none => executor.choose header .null ⟨ifTrue, none⟩ ⟨ifFalse, none⟩)
          | some .retry =>
              executor.complete header
                (match retry with
                  | some ⟨maxAttempts, backoffSeconds, steps, recovery⟩ =>
                      executor.retrying header maxAttempts backoffSeconds
                        (executeAll executor steps)
                        (unlessEmpty recovery (executeAll executor recovery))
                  | none => executor.retrying header .null .null (Action.done []) none)
          | some .fallback =>
              executor.complete header
                (match fallback with
                  | some ⟨primary, alternative⟩ =>
                      fallingBack header (executeAll executor primary)
                        (unlessEmpty alternative (executeAll executor alternative))
                  | none => fallingBack header (Action.done []) none)
          | some .loop =>
              executor.complete header
                (match loop with
                  | some ⟨source, steps⟩ => looping header source (executeAll executor steps)
                  | none =>
                      looping header (Fields.valueOf "array_source" header.config)
                        (Action.done []))

/-- Run steps in order and give an entry for each. -/
def executeAll (executor : Executor σ) : List Step → Action σ (List StepEntry)
  | [] => Action.done []
  | step :: rest => do
      let first ← entry step.header (execute executor step)
      let others ← executeAll executor rest
      pure (first :: others)

end

end Automation.Executor
