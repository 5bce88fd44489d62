import Automation.Agent.Choice
import Automation.Proofs.Fallible
import Automation.Settings.Reader

/-!
What a chat model is asked, and what its answers mean.

A call that cannot be put into a request is a failure before anything is sent. Otherwise one
request is sent, with the rules of the agent first and the prompt last; and the call gives a reply
exactly if the model answers with a choice that has a length or is empty.
-/

namespace Automation

namespace ChatAgent

variable {chat : ChatAgent} {asked : AgentRequest} {failure : Failure}

/-- An agent has no rules exactly if its id is a list or an object with something in it. -/
theorem rulesFor_eq_error_iff {agentId : Value} :
    chat.rulesFor agentId = .error failure ↔ agentId.truthy = true ∧
      ((∃ items, agentId = .list items ∧ failure = .notAName "list") ∨
        ((∃ fields, agentId = .object fields) ∨ ∃ bindings, agentId = .mapping bindings) ∧
          failure = .notAName "dict") := by
  unfold rulesFor Value.orElse
  by_cases truthy : agentId.truthy = true
  · rw [if_pos truthy]
    cases agentId <;> simp_all [@eq_comm _ failure]
  · rw [if_neg truthy]
    simp [truthy]

theorem contextMessages_eq_ok_iff {context : Value} {messages : List ChatMessage} :
    contextMessages context = .ok messages ↔
      (context.truthy = false ∧ messages = []) ∨
        (context.truthy = true ∧ Json.checkWritable context = .ok () ∧
          messages = [⟨"system", .text ("Automation context:\n" ++ Json.toText context)⟩]) := by
  unfold contextMessages
  cases truthy : context.truthy with
  | false => simp [eq_comm]
  | true =>
      rw [if_pos rfl, bind_eq_ok_iff]
      constructor
      · rintro ⟨⟨⟩, checked, same⟩
        cases same
        exact Or.inr ⟨rfl, checked, rfl⟩
      · rintro (⟨⟨⟩, -⟩ | ⟨-, checked, rfl⟩)
        exact ⟨(), checked, rfl⟩

theorem contextMessages_eq_error_iff {context : Value} :
    contextMessages context = .error failure ↔
      context.truthy = true ∧ Json.checkWritable context = .error failure := by
  unfold contextMessages
  cases truthy : context.truthy with
  | false => simp
  | true =>
      rw [if_pos rfl, bind_eq_error_iff]
      simp

/-- A call that is not put into a request has an agent without rules, or else a context without a
JSON text. -/
theorem request_eq_error_iff : chat.request asked = .error failure ↔
    chat.rulesFor asked.agentId = .error failure ∨
      (∃ rules, chat.rulesFor asked.agentId = .ok rules) ∧ asked.context.truthy = true ∧
        Json.checkWritable asked.context = .error failure := by
  simp only [request, bind_eq_error_iff, contextMessages_eq_error_iff]
  simp

/-- A request tells the rules of the agent first and the prompt last, and the context between them
if there is any. -/
theorem messages_of_request {request : ChatRequest} (made : chat.request asked = .ok request) :
    request.model = chat.model ∧ request.temperature = chat.temperature ∧
      ∃ rules context, chat.rulesFor asked.agentId = .ok rules ∧
        contextMessages asked.context = .ok context ∧
        request.messages = ⟨"system", rules⟩ :: context ++ [⟨"user", asked.prompt⟩] := by
  obtain ⟨rules, isRules, further⟩ := bind_eq_ok_iff.mp made
  obtain ⟨context, isContext, same⟩ := bind_eq_ok_iff.mp further
  cases same
  exact ⟨rfl, rfl, rules, context, isRules, isContext, rfl⟩

/-- The reply that an answer gives: what the first choice says, and where it is from. -/
inductive Gives (asked : AgentRequest) : ChatExchange → Value → Prop where
  | answer {reply : ChatReply} {choice content : Value} {others : List Value}
      (chosen : reply.choices = choice :: others) (said : replyOf choice = .done content) :
      Gives asked (.answered reply) (.object
        [("reply", content), ("model", reply.model), ("agent_id", asked.agentId),
          ("tokens_used", reply.tokens.getD (.int 0))])

/-- A choice says nothing exactly if it is a number or a foreign value that counts as true. -/
theorem replyOf_cases (choice : Value) :
    (∃ content, replyOf choice = .done content) ∨
      ∃ reason, replyOf choice = .failed (.raised "TypeError" reason) := by
  unfold replyOf
  cases choice.truthy with
  | false => exact Or.inl ⟨_, rfl⟩
  | true =>
      cases choice with
      | text _ | list _ | object _ | mapping _ => exact Or.inl ⟨_, rfl⟩
      | null | bool _ | int _ | float _ | «foreign» _ _ => exact Or.inr ⟨_, rfl⟩

/-- An answer gives a reply, or it is a failure of the agent that was asked, or its first choice has
no length. -/
theorem classify_cases (asked : AgentRequest) (exchange : ChatExchange) :
    (∃ value, classify asked exchange = .done value ∧ Gives asked exchange value) ∨
      (∃ reason, classify asked exchange =
        .failed (.engine (.agentInvocationFailed reason asked.agentId))) ∨
      ∃ reason, classify asked exchange = .failed (.raised "TypeError" reason) := by
  cases exchange with
  | refused message => exact Or.inr (Or.inl ⟨message, rfl⟩)
  | answered reply =>
      rw [classify]
      cases chosen : reply.choices with
      | nil => exact Or.inr (Or.inl ⟨_, rfl⟩)
      | cons choice others =>
          rcases replyOf_cases choice with ⟨content, said⟩ | ⟨reason, silent⟩
          · refine Or.inl ⟨_, ?_, .answer chosen said⟩
            simp only [said]
            rfl
          · refine Or.inr (Or.inr ⟨reason, ?_⟩)
            simp only [silent]
            rfl

/-- A call sends one request if it can be put into one, and none otherwise. -/
theorem agent_sends {σ : Type} (send : ChatRequest → σ → Outcome ChatExchange × σ) (world : σ) :
    (∀ failure, chat.request asked = .error failure →
      chat.agent send asked world = (.failed failure, world)) ∧
    ∀ request, chat.request asked = .ok request →
      chat.agent send asked world =
        ((send request world).1.bind (classify asked), (send request world).2) := by
  unfold agent
  constructor
  · intro failure refused
    rw [refused]
  · intro request made
    rw [made]

end ChatAgent

namespace Settings

variable {settings : Settings}

/-- An endpoint is taken before the chat model, whatever key there is for that. -/
theorem agentChoice?_of_hasAgentEndpoint (configured : settings.hasAgentEndpoint = true) :
    ∃ url, settings.agentEndpointUrl = some url ∧
      settings.agentChoice? = some (.endpoint ⟨url, settings.agentApiKey⟩) := by
  cases isUrl : settings.agentEndpointUrl with
  | none =>
      rw [hasAgentEndpoint, isUrl] at configured
      cases configured
  | some url =>
      rw [hasAgentEndpoint, isUrl, Option.any_some] at configured
      refine ⟨url, rfl, ?_⟩
      have kept : (some url).filter (· != "") = some url := if_pos configured
      rw [agentChoice?, isUrl, kept]

/-- There is no agent exactly if there is neither an endpoint nor a key for the chat model. -/
theorem agentChoice?_eq_none_iff :
    settings.agentChoice? = none ↔
      settings.hasAgentEndpoint = false ∧ settings.chatApiKey = "" := by
  cases configured : settings.hasAgentEndpoint with
  | true =>
      obtain ⟨url, -, chosen⟩ := agentChoice?_of_hasAgentEndpoint configured
      simp [chosen]
  | false =>
      have unset : settings.agentEndpointUrl.filter (· != "") = none := by
        cases isUrl : settings.agentEndpointUrl with
        | none => rfl
        | some url =>
            rw [hasAgentEndpoint, isUrl, Option.any_some] at configured
            exact if_neg (Bool.eq_false_iff.mp configured)
      rw [agentChoice?, unset]
      by_cases noKey : settings.chatApiKey = "" <;> simp [noKey]

end Settings
end Automation
