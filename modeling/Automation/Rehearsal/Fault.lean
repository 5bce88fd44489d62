import Automation.Http.Message

/-!
Faults by the name of their kind, as scripts and further types of steps raise them.
-/

namespace Automation

/-- The kind of an error. -/
def EngineError.kind : EngineError → String
  | .engine _ _ => "EngineError"
  | .step _ _ => "StepError"
  | .apiCallFailed _ _ => "ApiCallFailed"
  | .agentInvocationFailed _ _ => "AgentInvocationFailed"
  | .unknownStepType _ => "UnknownStepType"
  | .stepConfig _ _ => "StepConfigError"
  | .stepNetwork _ _ => "StepNetworkError"
  | .maxRetriesExceeded _ _ _ => "MaxRetriesExceeded"
  | .expression _ _ => "ExpressionError"
  | .expressionParse _ _ => "ExpressionParseError"
  | .unsafeExpression _ _ => "UnsafeExpressionError"
  | .runSetupFailed _ _ => "RunSetupFailed"
  | .blueprintInvalid _ _ => "BlueprintValidationError"
  | .automationNotFound _ => "AutomationNotFound"

/-- The kind of a failure. -/
def Failure.kind : Failure → String
  | .engine error => error.kind
  | .notAnInteger _ | .tooManyDigits _ | .unprintableInteger | .undefinedInteger
  | .unknownStatus _ => "ValueError"
  | .integerTooLarge | .infiniteInteger | .columnOverflow => "OverflowError"
  | .notAName _ | .unwritableName _ | .notAnObject _ | .messageArguments _ => "TypeError"
  | .unknownKey _ => "KeyError"
  | .raised kind _ => kind

/-- The kinds that an error belongs to, the narrowest first. -/
def EngineError.kinds (error : EngineError) : List String :=
  ([error.kind] ++ (if error.isStepError then ["StepError"] else [])
    ++ (if error.isExpressionError then ["ExpressionError"] else []) ++ ["EngineError"]).eraseDups

/-- The names of what makes an error of a kind, the first of which has to be given, and the kind
that it shares them with. -/
def EngineError.parameters? (kind : String) : Option (String × List String) :=
  match kind with
  | "EngineError" | "StepError" | "StepConfigError" | "ExpressionError" | "ExpressionParseError"
  | "UnsafeExpressionError" => some ("EngineError", ["message", "details"])
  | "ApiCallFailed" => some (kind, ["status", "status_text"])
  | "AgentInvocationFailed" => some (kind, ["message", "agent_id"])
  | "UnknownStepType" => some (kind, ["step_type"])
  | "StepNetworkError" => some (kind, ["message", "url"])
  | "MaxRetriesExceeded" => some (kind, ["message", "attempts", "cause"])
  | "RunSetupFailed" => some (kind, ["message", "cause"])
  | "BlueprintValidationError" => some (kind, ["message", "errors"])
  | "AutomationNotFound" => some (kind, ["automation_id"])
  | _ => none

/-- What is wrong with arguments in turn and arguments by name: a name that is unknown or given
twice, too many in turn, or a first one that is missing. -/
def argumentFault? (names : List String) (positional : List Value) (named : Fields) :
    Option String :=
  let misnamed := named.findSome? fun (name, _) =>
    if (names.take positional.length).contains name then
      some s!"got multiple values for argument '{name}'"
    else if names.contains name then none
    else some s!"got an unexpected keyword argument '{name}'"
  let first := names.headD ""
  misnamed <|> if names.length < positional.length then
      let most := names.length + 1
      let range := if most = 2 then "2" else s!"from 2 to {most}"
      some s!"takes {range} positional arguments but {positional.length + 1} were given"
    else if positional.isEmpty && !Entries.has first named then
      some s!"missing 1 required positional argument: '{first}'"
    else none

/-- The error of a kind with arguments, which have a position or a name. -/
def EngineError.ofArguments? (kind : String) (positional : List Value) (named : Fields) :
    Option EngineError :=
  let given? (position : Nat) (name : String) : Option Value :=
    positional[position]? <|> Entries.get? name named
  let given (position : Nat) (name : String) : Value := (given? position name).getD .null
  let message := (given 0 "message").display
  let details := (given 1 "details").fields
  let cause (position : Nat) : Option Failure :=
    if (given position "cause").isNull then none
    else some (.raised "ValueError" (given position "cause").display)
  match kind with
  | "EngineError" => some (.engine message details)
  | "StepError" => some (.step message details)
  | "ApiCallFailed" =>
      some (.apiCallFailed (given 0 "status") ((given? 1 "status_text").getD (.text "")))
  | "AgentInvocationFailed" => some (.agentInvocationFailed message (given 1 "agent_id"))
  | "UnknownStepType" => some (.unknownStepType (given 0 "step_type"))
  | "StepConfigError" => some (.stepConfig message details)
  | "StepNetworkError" => some (.stepNetwork message (given 1 "url"))
  | "MaxRetriesExceeded" =>
      some (.maxRetriesExceeded message ((given? 1 "attempts").getD (.int 0)) (cause 2))
  | "ExpressionError" => some (.expression message details)
  | "ExpressionParseError" => some (.expressionParse message details)
  | "UnsafeExpressionError" => some (.unsafeExpression message details)
  | "RunSetupFailed" => some (.runSetupFailed message (cause 1))
  | "BlueprintValidationError" =>
      some (.blueprintInvalid message (match given 1 "errors" with
        | .list errors => errors
        | _ => []))
  | "AutomationNotFound" => some (.automationNotFound (given 0 "automation_id"))
  | _ => none

/-- The error of a kind with arguments, or why there is none. -/
def EngineError.build (kind : String) (positional : List Value) (named : Fields) :
    Except Failure (Option EngineError) :=
  match (EngineError.parameters? kind).bind fun (owner, names) =>
    (argumentFault? names positional named).map (s!"{owner}.__init__() " ++ ·) with
  | some reason => .error (.raised "TypeError" reason)
  | none => .ok (EngineError.ofArguments? kind positional named)

/-- The failure of making a fault of a kind that takes more than a message. -/
def incompleteFault? (kind : String) : Option Failure :=
  match kind with
  | "UnicodeDecodeError" | "UnicodeEncodeError" =>
      some (.raised "TypeError" "function takes exactly 5 arguments (1 given)")
  | "UnicodeTranslateError" =>
      some (.raised "TypeError" "function takes exactly 4 arguments (1 given)")
  | "BaseExceptionGroup" | "ExceptionGroup" =>
      some (.raised "TypeError" "BaseExceptionGroup.__new__() takes exactly 2 arguments (1 given)")
  | _ => none

/-- The failure of a kind with a message. The errors of the engine get only the message, but for the
one that wants a status before it; any other kind is a fault from outside. -/
def Failure.named (kind message : String) : Failure :=
  match kind with
  | "ApiCallFailed" => .engine (.apiCallFailed (.int 418) (.text message))
  | "KeyError" => .raised kind (String.ofList (Text.quoted message.toList))
  | "EnvironmentError" | "IOError" => .raised "OSError" message
  | _ =>
      match EngineError.ofArguments? kind [.text message] [] with
      | some error => .engine error
      | none => (incompleteFault? kind).getD (.raised kind message)

/-- How an operation ends that raises a fault. The mark of an exhausted iteration may not leave an
operation: it becomes a fault of its own. -/
def Outcome.raising {α : Type} (kind message : String) : Outcome α :=
  if kind = "CancelledError" then .cancelled
  else if kind = "StopIteration" then
    .failed (.raised "RuntimeError" "coroutine raised StopIteration")
  else .failed (Failure.named kind message)

namespace Http

/-- The faults of a request that runs out of time. -/
def timeoutFaults : List String :=
  ["TimeoutException", "ConnectTimeout", "ReadTimeout", "WriteTimeout", "PoolTimeout"]

/-- The faults of a transport that breaks. -/
def transportFaults : List String :=
  ["HTTPError", "RequestError", "TransportError", "NetworkError", "ConnectError", "ReadError",
    "WriteError", "CloseError", "ProxyError", "UnsupportedProtocol", "ProtocolError",
    "LocalProtocolError", "RemoteProtocolError", "DecodingError", "TooManyRedirects"]

/-- What comes of a request that raises a fault. -/
def Exchange.raising (kind message : String) : Outcome Exchange :=
  if timeoutFaults.contains kind then .done (.timedOut kind message)
  else if transportFaults.contains kind then .done (.broken kind message)
  else Outcome.raising kind message

end Http
end Automation
