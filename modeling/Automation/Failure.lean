import Automation.Text.Character
import Automation.Value.Display

/-!
What can go wrong.

`EngineError` holds the errors that the engine raises on purpose, each with a message, a code and
details. `Failure` adds the faults that its conversions run into and the errors that collaborators
raise. `Outcome` is how an effectful operation ends: with a value, with a failure, or cancelled.
Cancellation is no failure, so nothing that handles failures can handle it.
-/

namespace Automation

mutual

/-- The errors of the engine. -/
inductive EngineError where
  | engine (message : String) (details : Fields)
  | step (message : String) (details : Fields)
  | apiCallFailed (status statusText : Value)
  | agentInvocationFailed (reason : String) (agentId : Value)
  | unknownStepType (type : Value)
  | stepConfig (message : String) (details : Fields)
  | stepNetwork (message : String) (url : Value)
  | maxRetriesExceeded (message : String) (attempts : Value) (cause : Option Failure)
  | expression (message : String) (details : Fields)
  | expressionParse (message : String) (details : Fields)
  | unsafeExpression (message : String) (details : Fields)
  | runSetupFailed (message : String) (cause : Option Failure)
  | blueprintInvalid (message : String) (errors : List Value)
  | automationNotFound (automationId : Value)
  deriving Repr, Inhabited

/-- Everything that can end an operation without a value, cancellation aside. -/
inductive Failure where
  | engine (error : EngineError)
  /-- A text that is no decimal integer. -/
  | notAnInteger (text : String)
  /-- A text with more decimal digits than an integer is read from. -/
  | tooManyDigits (count : Nat)
  /-- An integer with more digits than are printed. -/
  | unprintableInteger
  /-- An integer beyond the double precision numbers. -/
  | integerTooLarge
  /-- An infinite number where an integer is wanted. -/
  | infiniteInteger
  /-- Not-a-number where an integer is wanted. -/
  | undefinedInteger
  /-- A list or an object where a name is wanted. -/
  | notAName (kind : String)
  /-- A name of an object that JSON has no text for. -/
  | unwritableName (kind : String)
  /-- A value of another kind where an object is wanted. -/
  | notAnObject (kind : String)
  /-- A comparison that does not exist, or an argument of a message that is not given. -/
  | unknownKey (key : String)
  /-- An integer outside the 64 bits that a table column holds. -/
  | columnOverflow
  /-- A value that is no status of a run. -/
  | unknownStatus (status : Value)
  /-- A message whose placeholders do not fit its arguments. -/
  | messageArguments (reason : String)
  /-- An error of another kind, raised outside of the engine. -/
  | raised (kind : String) (message : String)
  deriving Repr, Inhabited

end

namespace EngineError

/-- The message of an error. -/
def message : EngineError → String
  | .engine message _ | .step message _ | .stepConfig message _ | .stepNetwork message _
  | .maxRetriesExceeded message _ _ | .expression message _ | .expressionParse message _
  | .unsafeExpression message _ | .runSetupFailed message _ | .blueprintInvalid message _ => message
  | .apiCallFailed status statusText =>
      String.ofList (Text.trimRight
        ("API call failed: ".toList ++ status.displayed ++ ' ' :: statusText.displayed))
  | .agentInvocationFailed reason _ => s!"AI agent failed: {reason}"
  | .unknownStepType type => s!"Unknown step type: {type.display}"
  | .automationNotFound automationId => s!"Automation not found: {automationId.display}"

end EngineError

namespace Failure

/-- The message of a failure. -/
def message : Failure → String
  | .engine error => error.message
  | .notAnInteger text =>
      "invalid literal for int() with base 10: "
        ++ String.ofList ((Text.quoted text.toList).take 200)
  | .tooManyDigits count =>
      s!"Exceeds the limit (4300 digits) for integer string conversion: value has {count} digits; "
        ++ "use sys.set_int_max_str_digits() to increase the limit"
  | .unprintableInteger =>
      "Exceeds the limit (4300 digits) for integer string conversion; "
        ++ "use sys.set_int_max_str_digits() to increase the limit"
  | .integerTooLarge => "int too large to convert to float"
  | .infiniteInteger => "cannot convert float infinity to integer"
  | .undefinedInteger => "cannot convert float NaN to integer"
  | .notAName kind => s!"unhashable type: '{kind}'"
  | .unwritableName kind =>
      s!"keys must be str, int, float, bool or None, not {kind}"
  | .notAnObject kind => s!"'{kind}' object is not a mapping"
  | .unknownKey key => String.ofList (Text.quoted key.toList)
  | .columnOverflow => "Python int too large to convert to SQLite INTEGER"
  | .unknownStatus status => status.inspect ++ " is not a valid RunStatus"
  | .messageArguments reason => reason
  | .raised _ message => message

end Failure

namespace EngineError

/-- The code of an error, for programs to tell errors apart. -/
def code : EngineError → String
  | .engine _ _ => "ENGINE_ERROR"
  | .step _ _ => "STEP_ERROR"
  | .apiCallFailed _ _ => "API_CALL_FAILED"
  | .agentInvocationFailed _ _ => "AGENT_INVOCATION_FAILED"
  | .unknownStepType _ => "UNKNOWN_STEP_TYPE"
  | .stepConfig _ _ => "STEP_CONFIG"
  | .stepNetwork _ _ => "STEP_NETWORK"
  | .maxRetriesExceeded _ _ _ => "MAX_RETRIES"
  | .expression _ _ => "EXPRESSION_ERROR"
  | .expressionParse _ _ => "EXPRESSION_PARSE"
  | .unsafeExpression _ _ => "EXPRESSION_UNSAFE"
  | .runSetupFailed _ _ => "RUN_SETUP_FAILED"
  | .blueprintInvalid _ _ => "BLUEPRINT_INVALID"
  | .automationNotFound _ => "AUTOMATION_NOT_FOUND"

/-- The text of a cause as a detail; nothing where there is no cause. -/
def causeDetail : Option Failure → Fields
  | some cause => [("cause", .text cause.message)]
  | none => []

/-- The details of an error. -/
def details : EngineError → Fields
  | .engine _ details | .step _ details | .stepConfig _ details | .expression _ details
  | .expressionParse _ details | .unsafeExpression _ details => details
  | .apiCallFailed status statusText =>
      [("status", status), ("status_text", statusText)]
  | .agentInvocationFailed _ agentId => [("agent_id", agentId)]
  | .unknownStepType type => [("type", type)]
  | .stepNetwork _ url => [("url", url)]
  | .maxRetriesExceeded _ attempts cause => ("attempts", attempts) :: causeDetail cause
  | .runSetupFailed _ cause => causeDetail cause
  | .blueprintInvalid _ errors => [("errors", .list errors)]
  | .automationNotFound automationId => [("id", automationId)]

/-- The errors that a failing step raises. -/
def isStepError : EngineError → Bool
  | .step _ _ | .apiCallFailed _ _ | .agentInvocationFailed _ _ | .unknownStepType _
  | .stepConfig _ _ | .stepNetwork _ _ | .maxRetriesExceeded _ _ _ => true
  | _ => false

/-- The errors of conditions. -/
def isExpressionError : EngineError → Bool
  | .expression _ _ | .expressionParse _ _ | .unsafeExpression _ _ => true
  | _ => false

/-- An error as it is reported. -/
def toFields (error : EngineError) : Fields :=
  [("error", .text error.code), ("message", .text error.message),
    ("details", .object error.details)]

end EngineError

namespace Failure

/-- Whether a failure is an error of the engine that a failing step raises. -/
def isStepError : Failure → Bool
  | .engine error => error.isStepError
  | _ => false

end Failure

/-- How an effectful operation ends. -/
inductive Outcome (α : Type) where
  | done (result : α)
  | failed (failure : Failure)
  | cancelled
  deriving Repr, Inhabited

namespace Outcome

variable {α β : Type}

/-- Go on with the result, if there is one. -/
def bind (outcome : Outcome α) (next : α → Outcome β) : Outcome β :=
  match outcome with
  | .done result => next result
  | .failed failure => .failed failure
  | .cancelled => .cancelled

instance : Monad Outcome where
  pure := .done
  bind := bind

/-- A computation that cannot be cancelled. -/
def ofExcept : Except Failure α → Outcome α
  | .ok result => .done result
  | .error failure => .failed failure

end Outcome
end Automation
