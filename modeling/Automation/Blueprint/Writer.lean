import Automation.Blueprint.Basic

/-!
Writing blueprints as values.

The names, the order and the defaults are those of the reader, and what has its default value is
left out of a step's header. The steps that hang on the configuration of a condition are written as
the part of the configuration that they were read from.
-/

namespace Automation

namespace StepHeader

/-- A field that is left out unless its value counts as true. -/
def fieldIfTruthy (name : String) (value : Value) : Fields :=
  if value.truthy then [(name, value)] else []

/-- A field that is left out where there is no object. -/
def fieldIfPresent (name : String) (fields : Option Fields) : Fields :=
  match fields with
  | some fields => [(name, .object fields)]
  | none => []

/-- An agent call as the field of a step. -/
def agentCallField : Option AgentCall → Fields
  | some call =>
      [("ai_agent_call", .object
        [("agent_id", call.agentId), ("input_prompt", call.inputPrompt),
          ("output_variable", call.outputVariable)])]
  | none => []

/-- The fields of a step's header. -/
def write (header : StepHeader) : Fields :=
  [("id", .text header.id), ("type", .text header.type)]
    ++ fieldIfTruthy "name" (.text header.name)
    ++ fieldIfTruthy "config" (.object header.config)
    ++ (if header.stopOnError then [] else [("stopOnError", .bool false)])
    ++ fieldIfTruthy "output_variable" header.outputVariable
    ++ fieldIfPresent "action" header.action
    ++ fieldIfPresent "trigger" header.trigger
    ++ fieldIfPresent "delay" header.delay
    ++ agentCallField header.agentCall

end StepHeader

namespace Step

mutual

/-- A step as a value. -/
def write : Step → Value
  | .mk header condition loop retry fallback _ _ =>
      .object (header.write
        ++ (match condition with
          | some ⟨expression, ifTrue, ifFalse⟩ =>
              [("condition", .object
                [("expression", expression), ("if_true", .list (writeAll ifTrue)),
                  ("if_false", .list (writeAll ifFalse))])]
          | none => [])
        ++ (match loop with
          | some ⟨source, steps⟩ =>
              [("loop", .object [("array_source", source), ("steps", .list (writeAll steps))])]
          | none => [])
        ++ (match retry with
          | some ⟨maxAttempts, backoffSeconds, steps, recovery⟩ =>
              [("retry", .object
                [("max_attempts", maxAttempts), ("backoff_seconds", backoffSeconds),
                  ("steps", .list (writeAll steps)),
                  ("on_retry_fail_steps", .list (writeAll recovery))])]
          | none => [])
        ++ (match fallback with
          | some ⟨primary, alternative⟩ =>
              [("fallback", .object
                [("primary_steps", .list (writeAll primary)),
                  ("fallback_steps", .list (writeAll alternative))])]
          | none => []))

/-- Steps as values. -/
def writeAll : List Step → List Value
  | [] => []
  | step :: rest => write step :: writeAll rest

end

end Step

namespace Blueprint

/-- The fields of a blueprint. -/
def writeFields (blueprint : Blueprint) : Fields :=
  [("version", .text blueprint.version), ("description", blueprint.description),
    ("trigger", .object blueprint.trigger), ("variables", .object blueprint.variables),
    ("steps", .list (Step.writeAll blueprint.steps))]

/-- A blueprint as a value. -/
def write (blueprint : Blueprint) : Value := .object blueprint.writeFields

/-- The object that a blueprint was read from; for one that was not read, what it is written as. -/
def stored (blueprint : Blueprint) : Value :=
  if blueprint.source.isEmpty then blueprint.write else .object blueprint.source

end Blueprint
end Automation
