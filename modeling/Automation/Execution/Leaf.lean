import Automation.Condition.Evaluator
import Automation.Execution.Request

/-!
Steps that hold no further steps and send no requests: agent calls and delays.
-/

namespace Automation.Executor

variable {σ : Type}

/-- What an agent is asked where a step does not say. -/
def defaultPrompt : String := "Process the automation step"

/-- The agent that a step asks: from its configuration, else from its agent call. -/
def agentOf (config : Fields) (call : Option AgentCall) : Value :=
  (Fields.valueOf "agent_id" config).orElse ((call.map AgentCall.agentId).getD .null)

/-- What a step says that its agent is to be asked: the configured prompt, else the prompt of its
agent call. -/
def writtenPrompt (scope : Variables) (config : Fields) (call : Option AgentCall) :
    Except Failure Value :=
  let configured := Fields.valueOf "prompt" config
  let input := (call.map AgentCall.inputPrompt).getD .null
  if !configured.truthy && input.truthy then scope.resolve input else .ok configured

/-- What a step asks its agent: what it says, else the default. -/
def promptOf (scope : Variables) (config : Fields) (call : Option AgentCall) :
    Except Failure String := do
  let written ← writtenPrompt scope config call
  (written.orElse (.text defaultPrompt)).print

/-- The failure of an agent call: errors of steps as they are, any other failure as one. -/
def agentFailure (agentId : Value) (failure : Failure) : Failure :=
  if failure.isStepError then failure
  else .engine (.agentInvocationFailed failure.message agentId)

/-- Run an `ai_agent_call`. -/
def callAgent (executor : Executor σ) (header : StepHeader) : Action σ Value := do
  let scope ← Action.variables
  let config ← Action.ofExcept (scope.resolveFields header.config)
  let agentId := agentOf config header.agentCall
  match executor.collaborators.agent with
  | none => Action.raise (.agentInvocationFailed "No agent client configured" agentId)
  | some invoke => do
      let prompt ← Action.ofExcept (promptOf scope config header.agentCall)
      (Action.outside (invoke ⟨.text prompt, scope.snapshot, agentId⟩)).recover fun failure =>
        Action.fail (agentFailure agentId failure)

/-- A value as a number of milliseconds. -/
def milliseconds (duration : Value) : Except Failure Binary64 := do
  match ← duration.toDouble? with
  | some number => .ok number
  | none => do
      let shown ← duration.printQuoted
      .error (.engine (.stepConfig s!"Invalid delay duration: {shown}" []))

/-- The failure of a delay in seconds that is no number. -/
def invalidSeconds (written : Value) : Except Failure Value := do
  let shown ← written.printQuoted
  .error (.engine (.stepConfig s!"Invalid delay.duration_seconds: {shown}" []))

/-- A delay in seconds as milliseconds. What cannot be resolved is no number either. -/
def secondsAsMilliseconds (scope : Variables) (written : Value) : Except Failure Value :=
  match scope.resolve written with
  | .error _ => invalidSeconds written
  | .ok resolved => do
      match ← resolved.toDouble? with
      | some seconds => .ok (.float (seconds.mul (Binary64.ofNat 1000)))
      | none => invalidSeconds written

/-- How long a delay lasts: the configured duration, else the seconds of its block, else the
default of the settings. -/
def delayOf (settings : Settings) (scope : Variables) (header : StepHeader)
    (config : Fields) : Except Failure Value :=
  match Entries.get? "duration" config with
  | some duration => .ok duration
  | none =>
      match Entries.get? "duration_seconds" (header.delay.getD []) with
      | some written => secondsAsMilliseconds scope written
      | none => .ok (.int settings.defaultDelayMs)

/-- A number as it is reported: an integer where it is a whole number. -/
def reported (number : Binary64) : Value :=
  match number.isIntegral, number.truncate? with
  | true, some whole => .int whole
  | _, _ => .float number

/-- Run a `delay`. -/
def wait (executor : Executor σ) (header : StepHeader) : Action σ Value := do
  let scope ← Action.variables
  let config ← Action.ofExcept (scope.resolveFields header.config)
  let written ← Action.ofExcept (delayOf executor.settings scope header config)
  let duration ← Action.ofExcept (milliseconds written)
  if duration.isNegative && !duration.isZero then
    Action.raise (.stepConfig
      s!"Delay duration must not be negative: {(Value.float duration).display}" [])
  executor.sleep (duration.div (Binary64.ofNat 1000))
  pure (.object [("delayed", reported duration)])

end Automation.Executor
