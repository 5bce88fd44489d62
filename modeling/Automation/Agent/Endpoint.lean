import Automation.Agent.Request
import Automation.Http.Message

/-!
Agents behind an HTTP endpoint.

The endpoint gets the prompt, the context and the agent id as JSON and answers with a JSON object.
Errors of the transport, statuses of errors, bodies that are no JSON and answers with an error are
failures of the call.
-/

namespace Automation

/-- An endpoint for agent calls, with the key that it wants. -/
structure AgentEndpoint where
  url : String
  apiKey : Option String
  deriving DecidableEq, Repr

namespace AgentEndpoint

/-- The request for an agent call. An agent id that counts as false is left out. -/
def request (endpoint : AgentEndpoint) (asked : AgentRequest) : Http.Request :=
  let key := endpoint.apiKey.getD ""
  { method := "POST"
    url := endpoint.url
    headers := [("Content-Type", .text "application/json")]
      ++ if key = "" then [] else [("Authorization", .text s!"Bearer {key}")]
    timeout := none
    body := some (.object
      ([("message", asked.prompt), ("context", asked.context)]
        ++ if asked.agentId.truthy then [("agent_id", asked.agentId)] else [])) }

/-- The error that an answer reports: its message if it is an object, else the error itself. What
was read as JSON can be printed. -/
def errorText (error : Value) : String :=
  let message := match error with
    | .object fields => Fields.valueOf "message" fields
    | other => .text other.display
  (message.orElse (.text "Unknown agent error")).display

/-- What the body of an answer means. An answer that is no object becomes one. -/
def classifyReply (asked : AgentRequest) : Value → Outcome Value
  | .object fields =>
      let error := Fields.valueOf "error" fields
      if error.truthy then agentFailed asked (errorText error) else .done (.object fields)
  | other => .done (.object [("reply", other)])

/-- What comes of an agent call. -/
def classify (asked : AgentRequest) : Http.Exchange → Outcome Value
  | .timedOut fault message | .broken fault message =>
      agentFailed asked (if message = "" then fault else message)
  | .answered response =>
      if response.isError then agentFailed asked s!"{response.status} {response.reason}"
      else match response.json? with
        | some reply => classifyReply asked reply
        | none => agentFailed asked "Agent returned invalid JSON"

/-- The agent behind an endpoint. -/
def agent {σ : Type} (endpoint : AgentEndpoint)
    (send : Http.Request → σ → Outcome Http.Exchange × σ) : Agent σ := fun asked world =>
  match send (endpoint.request asked) world with
  | (ended, after) => (ended.bind (classify asked), after)

end AgentEndpoint
end Automation
