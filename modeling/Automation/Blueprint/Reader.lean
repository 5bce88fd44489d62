import Automation.Blueprint.Basic
import Automation.Failure
import Automation.Value.Size

/-!
Reading blueprints out of values.

A step without an id is named by its path, so the paths that a reader hands down become ids. What
is missing or has the wrong shape gets a default, except that a step is an object with a type and
that steps come in lists. Ids, names and versions that are no texts are printed: the reader is made
for data that was read from JSON, which holds no integer with more digits than are printed.
-/

namespace Automation

/-- Why a value is no blueprint. -/
inductive Malformed where
  | blueprintNotAnObject
  | stepNotAnObject (path : String)
  | stepsNotAList (path : String)
  | missingType (path : String)
  deriving DecidableEq, Repr, Inhabited

namespace Malformed

/-- The reason in words. -/
def message : Malformed → String
  | .blueprintNotAnObject => "Blueprint must be an object"
  | .stepNotAnObject path => s!"{path} must be an object"
  | .stepsNotAList path => s!"{path} must be a list of steps"
  | .missingType path => s!"{path}: missing required field 'type'"

/-- The reason as an error of the engine. -/
def error (malformed : Malformed) : EngineError := .blueprintInvalid malformed.message []

end Malformed

namespace Step

/-- The agent call that the field of a step holds. -/
def readAgentCall (value : Value) : Option AgentCall :=
  value.fields?.map fun fields =>
    ⟨Fields.valueOf "agent_id" fields, Fields.valueOf "input_prompt" fields,
      Fields.valueOf "output_variable" fields⟩

/-- Whether a step that fails ends its list, which it does unless the step says otherwise. -/
def readStopOnError (fields : Fields) : Bool :=
  let declared := (Entries.get? "stopOnError" fields).getD (Fields.valueOf "stop_on_error" fields)
  if declared.isNull then
    !(Fields.valueOf "on_error" fields).isText "continue"
  else declared.truthy

/-- The variable that takes the output of a step: from the step, from its configuration, or from
its agent call. -/
def readOutputVariable (fields config : Fields) (agentCall : Option AgentCall) : Value :=
  let declared :=
    (Fields.valueOf "output_variable" fields).orElse (Fields.valueOf "output_variable" config)
  match agentCall with
  | some call => declared.orElse call.outputVariable
  | none => declared

/-- What every step has, out of the fields of a step. -/
def readHeader (path type : String) (fields : Fields) : StepHeader :=
  let config := (Fields.valueOf "config" fields).fields
  let agentCall := readAgentCall (Fields.valueOf "ai_agent_call" fields)
  { id := ((Fields.valueOf "id" fields).orElse (.text path)).display
    type := type
    name := ((Entries.get? "name" fields).getD (.text "")).display
    config := config
    stopOnError := readStopOnError fields
    outputVariable := readOutputVariable fields config agentCall
    action := (Fields.valueOf "action" fields).fields?
    trigger := (Fields.valueOf "trigger" fields).fields?
    delay := (Fields.valueOf "delay" fields).fields?
    agentCall := agentCall }

mutual

/-- The step that a value describes. -/
def read (path : String) : Value → Except Malformed Step
  | .object fields => readFields path fields
  | _ => .error (.stepNotAnObject path)
  termination_by value => (sizeOf value, 0)

/-- The step that the fields of an object describe. -/
def readFields (path : String) (fields : Fields) : Except Malformed Step :=
  match Fields.valueOf "type" fields with
  | .text type =>
      if type = "" then .error (.missingType path)
      else do
        let condition ← readCondition path fields
        let loop ← readLoop path fields
        let retry ← readRetry path fields
        let fallback ← readFallback path fields
        let trueStep ← readVerdictStep path fields "trueStep"
        let falseStep ← readVerdictStep path fields "falseStep"
        .ok (.mk (readHeader path type fields) condition loop retry fallback trueStep falseStep)
  | _ => .error (.missingType path)
  termination_by (sizeOf fields, 1)

/-- The condition block of a step. -/
def readCondition (path : String) (fields : Fields) :
    Except Malformed (Option (ConditionBlock Step)) :=
  match _found : Fields.valueOf "condition" fields with
  | .object block => do
      let ifTrue ← readSteps (path ++ ".condition.if_true") (Fields.valueOf "if_true" block)
      let ifFalse ← readSteps (path ++ ".condition.if_false") (Fields.valueOf "if_false" block)
      .ok (some ⟨Fields.valueOf "expression" block, ifTrue, ifFalse⟩)
  | _ => .ok none
  termination_by (sizeOf fields, 0)
  decreasing_by
    all_goals
      have smaller := Fields.sizeOf_lt_of_valueOf _found
      have trueBound := Fields.sizeOf_valueOf_le "if_true" block
      have falseBound := Fields.sizeOf_valueOf_le "if_false" block
      apply Prod.Lex.left
      omega

/-- The loop block of a step. -/
def readLoop (path : String) (fields : Fields) : Except Malformed (Option (LoopBlock Step)) :=
  match _found : Fields.valueOf "loop" fields with
  | .object block => do
      let steps ← readSteps (path ++ ".loop.steps") (Fields.valueOf "steps" block)
      .ok (some ⟨Fields.valueOf "array_source" block, steps⟩)
  | _ => .ok none
  termination_by (sizeOf fields, 0)
  decreasing_by
    have smaller := Fields.sizeOf_lt_of_valueOf _found
    have bound := Fields.sizeOf_valueOf_le "steps" block
    apply Prod.Lex.left
    omega

/-- The retry block of a step. -/
def readRetry (path : String) (fields : Fields) : Except Malformed (Option (RetryBlock Step)) :=
  match _found : Fields.valueOf "retry" fields with
  | .object block => do
      let steps ← readSteps (path ++ ".retry.steps") (Fields.valueOf "steps" block)
      let recovery ←
        readSteps (path ++ ".retry.on_retry_fail_steps")
          (Fields.valueOf "on_retry_fail_steps" block)
      let backoff := (Entries.get? "backoff_seconds" block).getD (.float (Binary64.zero false))
      .ok (some ⟨Fields.valueOf "max_attempts" block, backoff, steps, recovery⟩)
  | _ => .ok none
  termination_by (sizeOf fields, 0)
  decreasing_by
    all_goals
      have smaller := Fields.sizeOf_lt_of_valueOf _found
      have bound := Fields.sizeOf_valueOf_le "steps" block
      have recoveryBound := Fields.sizeOf_valueOf_le "on_retry_fail_steps" block
      apply Prod.Lex.left
      omega

/-- The fallback block of a step. -/
def readFallback (path : String) (fields : Fields) :
    Except Malformed (Option (FallbackBlock Step)) :=
  match _found : Fields.valueOf "fallback" fields with
  | .object block => do
      let primary ←
        readSteps (path ++ ".fallback.primary_steps") (Fields.valueOf "primary_steps" block)
      let alternative ←
        readSteps (path ++ ".fallback.fallback_steps") (Fields.valueOf "fallback_steps" block)
      .ok (some ⟨primary, alternative⟩)
  | _ => .ok none
  termination_by (sizeOf fields, 0)
  decreasing_by
    all_goals
      have smaller := Fields.sizeOf_lt_of_valueOf _found
      have primaryBound := Fields.sizeOf_valueOf_le "primary_steps" block
      have alternativeBound := Fields.sizeOf_valueOf_le "fallback_steps" block
      apply Prod.Lex.left
      omega

/-- The step that the configuration of a condition holds for one verdict. -/
def readVerdictStep (path : String) (fields : Fields) (name : String) :
    Except Malformed (Option Step) :=
  match _found : Fields.valueOf name (Fields.valueOf "config" fields).fields with
  | .object step => some <$> readFields (path ++ ".config." ++ name) step
  | _ => .ok none
  termination_by (sizeOf fields, 0)
  decreasing_by
    have smaller := Fields.sizeOf_lt_of_valueOf _found
    have inner := Value.sizeOf_fields_le (Fields.valueOf "config" fields)
    have outer := Fields.sizeOf_valueOf_le "config" fields
    apply Prod.Lex.left
    omega

/-- The steps of a list; null stands for no steps. -/
def readSteps (path : String) : Value → Except Malformed (List Step)
  | .null => .ok []
  | .list items => readItems path 0 items
  | _ => .error (.stepsNotAList path)
  termination_by value => (sizeOf value, 0)

/-- The steps of a list whose first item has the given position. -/
def readItems (path : String) (position : Nat) : List Value → Except Malformed (List Step)
  | [] => .ok []
  | item :: rest => do
      let step ← read s!"{path}[{position}]" item
      let steps ← readItems path (position + 1) rest
      .ok (step :: steps)
  termination_by items => (sizeOf items, 0)

end

end Step

namespace Blueprint

/-- The blueprint that a value describes. -/
def read : Value → Except Malformed Blueprint
  | .object fields => do
      let steps ← Step.readSteps "steps" (Fields.valueOf "steps" fields)
      .ok
        { steps := steps
          version := ((Entries.get? "version" fields).getD (.text "1.0")).display
          description := (Fields.valueOf "description" fields).orElse (.text "")
          trigger := (Fields.valueOf "trigger" fields).fields
          «variables» := (Fields.valueOf "variables" fields).fields
          source := fields }
  | _ => .error .blueprintNotAnObject

end Blueprint
end Automation
