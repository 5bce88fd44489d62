import Automation.Execution.Executor
import Automation.Logging.Redaction
import Automation.Number.Conversion
import Automation.Variables.Template

/-!
Steps that send requests.

An `api_call` wants a success with a JSON body or none. A `webhook` reports whatever comes back, and
fails only where nothing does, or where the body has no text.
-/

namespace Automation

namespace Executor

variable {σ : Type}

/-- The failure of a step without a url. -/
def missingUrl (header : StepHeader) : Failure :=
  .engine (.stepConfig s!"{header.type} step {header.id} requires config.url" [])

/-- The url of a step's configuration. -/
def requireUrl (header : StepHeader) (config : Fields) : Except Failure String :=
  match Fields.valueOf "url" config with
  | .text url => if url = "" then .error (missingUrl header) else .ok url
  | _ => .error (missingUrl header)

/-- The method of a request: the configured one in capitals, or a default. -/
def methodOf (config : Fields) (default : String) : Except Failure String := do
  let written ← ((Fields.valueOf "method" config).orElse (.text default)).print
  .ok (String.ofList (Text.upper written.toList))

/-- The configured headers. -/
def headersOf (config : Fields) : Except Failure Bindings :=
  match (Fields.valueOf "headers" config).orElse (.object []) with
  | .object headers => .ok (Bindings.ofFields headers)
  | .mapping bindings => .ok bindings
  | other => .error (.notAnObject other.kind)

/-- The headers of a request: the configured ones over the type of its content. Names that are no
texts are printed. -/
def nameHeaders (bindings : Bindings) : Except Failure Fields := do
  let headers ← bindings.mapM fun (name, value) => do
    let printed ← name.print
    .ok (printed, value)
  .ok (Entries.merge [("Content-Type", .text "application/json")] headers)

/-- The smaller of two time limits; the first where they have no order. -/
def smaller (first second : Binary64) : Binary64 :=
  match Value.compareNumbers? (.float second) (.float first) with
  | some .lt => second
  | _ => first

/-- The time limits of a request: the configured seconds, or those of the settings. -/
def timeoutOf (settings : Settings) (config : Fields) : Except Failure Http.Timeout := do
  let written :=
    (Entries.get? "timeout_seconds" config).getD (.float settings.httpTimeoutSeconds)
  match ← written.toDouble? with
  | some seconds => .ok ⟨seconds, smaller seconds settings.httpConnectTimeoutSeconds⟩
  | none => do
      let shown ← written.printQuoted
      .error (.engine (.stepConfig s!"Invalid timeout_seconds: {shown}" []))

/-- The line of the log that announces a request, without the credentials in its headers. -/
def announcement (request : Http.Request) : Except Failure String := do
  let shown ← (Value.object (Logging.redact request.headers)).print
  .ok s!"{request.method} {request.url} headers={shown}"

/-- The response to a request; a request without a response is a failure of the step. -/
def send (executor : Executor σ) (request : Http.Request) : Action σ Http.Response := do
  Action.log .debug (← Action.ofExcept (announcement request))
  match ← Action.outside (executor.collaborators.request request) with
  | .answered response => pure response
  | .timedOut _ _ =>
      Action.raise (.stepNetwork s!"Request to {request.url} timed out" (.text request.url))
  | .broken _ message =>
      Action.raise (.stepNetwork s!"Request to {request.url} failed: {message}" (.text request.url))

/-- The request that a step's configuration describes. Null is no body. -/
def requestOf (settings : Settings) (header : StepHeader) (config : Fields)
    (defaultMethod : String) (body : Value) : Except Failure Http.Request := do
  let url ← requireUrl header config
  let method ← methodOf config defaultMethod
  let configured ← headersOf config
  let timeout ← timeoutOf settings config
  let headers ← nameHeaders configured
  .ok
    { method := method
      url := url
      headers := headers
      timeout := some timeout
      body := if body.isNull then none else some body }

/-- What a response means to an `api_call`: the value of its body, an empty object without a body,
or a failure. -/
def classifyCall (response : Http.Response) : Except Failure Value :=
  if !response.isSuccess then
    .error (.engine (.apiCallFailed (.int response.status) (.text response.reason)))
  else if response.content.isEmpty then .ok (.object [])
  else match response.json? with
    | some value => .ok value
    | none =>
        .error (.engine (.apiCallFailed (.int response.status) (.text "Invalid JSON response")))

/-- What a response means to a `webhook`: its status, whether that is a success, and its body. The
body of a success is a value where it is JSON; else the body is text. A body without a text is a
failure, also where it is JSON. -/
def classifyHook (response : Http.Response) : Except Failure Value := do
  let text ← response.text
  let body := if response.isSuccess && !response.content.isEmpty then
      response.json?.getD (.text text)
    else .text text
  .ok (.object
    [("status", .int response.status), ("success", .bool response.isSuccess), ("response", body)])

/-- Run an `api_call`. -/
def callApi (executor : Executor σ) (header : StepHeader) : Action σ Value := do
  let config ← Action.ofExcept ((← Action.variables).resolveFields header.config)
  let request ← Action.ofExcept
    (requestOf executor.settings header config "GET" (Fields.valueOf "body" config))
  let response ← executor.send request
  Action.log .debug s!"api_call {header.id} returned {response.status}"
  Action.ofExcept (classifyCall response)

/-- Run a `webhook`. Its body is the configured payload, or all variables. -/
def callWebhook (executor : Executor σ) (header : StepHeader) : Action σ Value := do
  let scope ← Action.variables
  let config ← Action.ofExcept (scope.resolveFields header.config)
  let payload := (Entries.get? "payload" config).getD scope.snapshot
  let request ← Action.ofExcept (requestOf executor.settings header config "POST" payload)
  let response ← executor.send request
  let output ← Action.ofExcept (classifyHook response)
  if !response.isSuccess then
    Action.log .info s!"Webhook {header.id} answered {response.status}"
  pure output

end Executor
end Automation
