import Automation.Failure

/-!
Agents: what they are asked, and how they act.
-/

namespace Automation

/-- What an agent is asked: the prompt, what it is told of the run, and which agent is meant. -/
structure AgentRequest where
  prompt : Value
  context : Value
  agentId : Value
  deriving Repr

/-- An agent answers a request with a value, while it changes the world it acts on. -/
abbrev Agent (σ : Type) := AgentRequest → σ → Outcome Value × σ

/-- The failure of an agent call. -/
def agentFailed {α : Type} (request : AgentRequest) (reason : String) : Outcome α :=
  .failed (.engine (.agentInvocationFailed reason request.agentId))

end Automation
