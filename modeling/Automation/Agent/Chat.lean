import Automation.Agent.Request
import Automation.Json.Writer

/-!
Agents behind a chat model.

The model gets a system message with the rules of the agent, a second one with the context, and the
prompt as the message of a user. The first choice of its answer is the reply.
-/

namespace Automation

/-- A message of a chat. -/
structure ChatMessage where
  role : String
  content : Value
  deriving Repr

/-- What a chat model is asked. -/
structure ChatRequest where
  model : Value
  messages : List ChatMessage
  temperature : Value
  deriving Repr

/-- What a chat model answers: its choices, its name and the number of tokens, if it counts them. -/
structure ChatReply where
  choices : List Value
  model : Value
  tokens : Option Value
  deriving Repr

/-- What comes of a request to a chat model. -/
inductive ChatExchange where
  | answered (reply : ChatReply)
  | refused (message : String)
  deriving Repr

/-- A chat model with the rules of single agents. -/
structure ChatAgent where
  model : Value
  temperature : Value
  rules : Fields
  deriving Repr

namespace ChatAgent

/-- The rules of an agent without its own. -/
def defaultRules : String := "You are a helpful assistant running one step of an automation."

/-- The rules of an agent. A list or an object names no agent, which is a failure. -/
def rulesFor (chat : ChatAgent) (agentId : Value) : Except Failure Value :=
  match agentId.orElse (.text "") with
  | .text name => .ok ((Entries.get? name chat.rules).getD (.text defaultRules))
  | .list _ => .error (.notAName "list")
  | .object _ | .mapping _ => .error (.notAName "dict")
  | _ => .ok (.text defaultRules)

/-- The message that tells the context; none where the context counts as false. A context without
a JSON text is a failure. -/
def contextMessages (context : Value) : Except Failure (List ChatMessage) :=
  if context.truthy then do
    Json.checkWritable context
    .ok [⟨"system", .text ("Automation context:\n" ++ Json.toText context)⟩]
  else .ok []

/-- The request for an agent call. -/
def request (chat : ChatAgent) (asked : AgentRequest) : Except Failure ChatRequest := do
  let rules ← chat.rulesFor asked.agentId
  let context ← contextMessages asked.context
  .ok
    { model := chat.model
      messages := ⟨"system", rules⟩ :: context ++ [⟨"user", asked.prompt⟩]
      temperature := chat.temperature }

/-- The reply that the content of a choice is. A choice without content is an empty reply, and a
content without a length is a failure. -/
def replyOf (content : Value) : Outcome Value :=
  if !content.truthy then .done (.text "")
  else match content with
    | .text _ | .list _ | .object _ | .mapping _ => .done content
    | other => .failed (.raised "TypeError" s!"object of type '{other.kind}' has no len()")

/-- What an answer means. -/
def classify (asked : AgentRequest) : ChatExchange → Outcome Value
  | .refused message => agentFailed asked message
  | .answered reply =>
      match reply.choices with
      | [] => agentFailed asked "Empty response from model"
      | choice :: _ => do
          let content ← replyOf choice
          .done (.object
            [("reply", content), ("model", reply.model), ("agent_id", asked.agentId),
              ("tokens_used", reply.tokens.getD (.int 0))])

/-- The agent behind a chat model. -/
def agent {σ : Type} (chat : ChatAgent) (send : ChatRequest → σ → Outcome ChatExchange × σ) :
    Agent σ := fun asked world =>
  match chat.request asked with
  | .error failure => (.failed failure, world)
  | .ok request =>
      match send request world with
      | (ended, after) => (ended.bind (classify asked), after)

end ChatAgent
end Automation
