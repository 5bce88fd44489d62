import Automation.Agent.Chat
import Automation.Agent.Endpoint
import Automation.Settings.Basic

/-!
The agent that settings ask for.
-/

namespace Automation

/-- An agent behind an endpoint, or behind a chat model with its key. -/
inductive AgentChoice where
  | endpoint (endpoint : AgentEndpoint)
  | chat (apiKey : String) (chat : ChatAgent)
  deriving Repr

/-- The agent that settings ask for: the endpoint if there is one, else the chat model if there is a
key for it. -/
def Settings.agentChoice? (settings : Settings) : Option AgentChoice :=
  match settings.agentEndpointUrl.filter (· != "") with
  | some url => some (.endpoint ⟨url, settings.agentApiKey⟩)
  | none =>
      if settings.chatApiKey = "" then none
      else some (.chat settings.chatApiKey
        ⟨.text settings.chatModel, .float (Binary64.ofRat (7 / 10)), []⟩)

end Automation
