import Automation.Agent.Endpoint

/-!
Which answers of an agent's endpoint are taken.

A call gives a reply for exactly those answers whose status is no error, whose body is JSON, and
whose body, if it is an object, reports no error. For every other outcome of the request the call
fails, with the id of the agent that was asked. The statuses of errors are those from 400 to 599, so
an answer that redirects or only informs is taken like one that succeeds.
-/

namespace Automation.AgentEndpoint

open Http

theorem isError_eq_false_iff {response : Response} (regular : response.IsRegular) :
    response.isError = false ↔ ¬(400 ≤ response.status ∧ response.status ≤ 599) := by
  rw [regular.error, decide_eq_false_iff_not]

/-- The reply that a body gives: the body itself if it is an object without an error, and an object
around it if it is none. -/
inductive Replies : Value → Fields → Prop where
  | object {fields : Fields} (noFault : (Fields.valueOf "error" fields).truthy = false) :
      Replies (.object fields) fields
  | other {body : Value} (noObject : ∀ fields, body ≠ .object fields) :
      Replies body [("reply", body)]

/-- An answer that is taken, and the reply that it gives. -/
inductive Gives : Exchange → Fields → Prop where
  | answer {response : Response} {body : Value} {fields : Fields}
      (noError : ¬(400 ≤ response.status ∧ response.status ≤ 599))
      (json : response.json? = some body) (replies : Replies body fields) :
      Gives (.answered response) fields

variable {exchange : Exchange}

theorem Replies.unique {body : Value} {first second : Fields} (replies : Replies body first)
    (others : Replies body second) : first = second := by
  cases replies with
  | object => cases others with
    | object => rfl
    | other noObject => exact absurd rfl (noObject _)
  | other noObject => cases others with
    | object => exact absurd rfl (noObject _)
    | other => rfl

theorem Gives.unique {first second : Fields} (gives : Gives exchange first)
    (others : Gives exchange second) : first = second := by
  obtain ⟨_, json, replies⟩ := gives
  obtain ⟨_, same, alsoReplies⟩ := others
  rw [json, Option.some.injEq] at same
  subst same
  exact replies.unique alsoReplies

/-- How a call ends: with the reply that was given, or, where none was, with a failure that has the
id of the agent. -/
inductive Settles (asked : AgentRequest) (given : Fields → Prop) : Outcome Value → Prop where
  | reply {fields : Fields} (gives : given fields) : Settles asked given (.done (.object fields))
  | failure {reason : String} (nothing : ∀ fields, ¬given fields) :
      Settles asked given (.failed (.engine (.agentInvocationFailed reason asked.agentId)))

theorem settles_classifyReply (asked : AgentRequest) (body : Value) :
    Settles asked (Replies body) (classifyReply asked body) := by
  cases body with
  | object fields =>
      rw [classifyReply]
      cases faulty : (Fields.valueOf "error" fields).truthy with
      | false => exact .reply (.object faulty)
      | true =>
          refine .failure fun other replies => ?_
          cases replies with
          | object noFault => simp [faulty] at noFault
          | other noObject => exact noObject fields rfl
  | _ => exact .reply (.other nofun)

theorem gives_answered_eq {response : Response} {body : Value}
    (noError : ¬(400 ≤ response.status ∧ response.status ≤ 599))
    (json : response.json? = some body) : Gives (.answered response) = Replies body := by
  funext fields
  apply propext
  constructor
  · rintro ⟨-, same, replies⟩
    rw [json, Option.some.injEq] at same
    exact same ▸ replies
  · exact .answer noError json

theorem settles_classify (asked : AgentRequest) (regular : exchange.IsRegular) :
    Settles asked (Gives exchange) (classify asked exchange) := by
  cases exchange with
  | timedOut | broken => exact .failure nofun
  | answered response =>
      have regular := regular response rfl
      rw [classify]
      cases status : response.isError with
      | true =>
          apply Settles.failure
          rintro _ ⟨noError, -, -⟩
          rw [← isError_eq_false_iff regular, status] at noError
          cases noError
      | false =>
          cases json : response.json? with
          | none =>
              apply Settles.failure
              rintro _ ⟨-, same, -⟩
              rw [json] at same
              cases same
          | some body =>
              rw [gives_answered_eq ((isError_eq_false_iff regular).mp status) json]
              exact settles_classifyReply asked body

/-- An agent call whose request comes to an end gives a reply exactly if an answer was taken, and
the reply is the object that the answer gives. In every other case it fails with the id of the agent
that was asked. -/
theorem agent_gives_iff {σ : Type} (endpoint : AgentEndpoint) (asked : AgentRequest)
    {send : Request → σ → Outcome Exchange × σ} {world after : σ} {exchange : Exchange}
    (sent : send (endpoint.request asked) world = (.done exchange, after))
    (regular : exchange.IsRegular) :
    (∀ reply, (endpoint.agent send asked world).1 = .done reply ↔
        ∃ fields, reply = .object fields ∧ Gives exchange fields) ∧
      ((∀ fields, ¬Gives exchange fields) → ∃ reason, (endpoint.agent send asked world).1 =
        .failed (.engine (.agentInvocationFailed reason asked.agentId))) ∧
      (endpoint.agent send asked world).2 = after := by
  have ended : endpoint.agent send asked world = (classify asked exchange, after) := by
    rw [agent, sent]
    rfl
  rw [ended]
  have settles := settles_classify asked regular
  generalize classify asked exchange = outcome at settles
  cases settles with
  | reply gives =>
      refine ⟨fun reply => ⟨?_, ?_⟩, fun nothing => absurd gives (nothing _), rfl⟩
      · rintro ⟨⟩
        exact ⟨_, rfl, gives⟩
      · rintro ⟨fields, rfl, alsoGives⟩
        rw [gives.unique alsoGives]
  | failure nothing =>
      refine ⟨fun reply => ⟨nofun, ?_⟩, fun _ => ⟨_, rfl⟩, rfl⟩
      rintro ⟨fields, -, gives⟩
      exact absurd gives (nothing fields)

/-- A redirection with an empty object. -/
def redirection : Response := ⟨302, [0x7b, 0x7d], "Found", .ok "\x7b\x7d", false, false⟩

theorem isRegular_redirection : redirection.IsRegular where
  success := by decide
  error := by decide
  garbled _ := nofun

/-- A transport on which every request is answered by a redirection. -/
def redirecting : Request → Unit → Outcome Exchange × Unit :=
  fun _ world => (.done (.answered redirection), world)

/-- A question to an agent. -/
def greeting : AgentRequest := ⟨.text "hi", .object [], .text "x"⟩

theorem agent_gives_iff_of_redirecting :
    redirecting (request ⟨"https://agents.test", none⟩ greeting) () =
        (.done (.answered redirection), ()) ∧
      Exchange.IsRegular (.answered redirection) ∧
      (∀ reply, (agent ⟨"https://agents.test", none⟩ redirecting greeting ()).1 = .done reply ↔
        ∃ fields, reply = .object fields ∧ Gives (.answered redirection) fields) ∧
      ((∀ fields, ¬Gives (.answered redirection) fields) →
        ∃ reason, (agent ⟨"https://agents.test", none⟩ redirecting greeting ()).1 =
          .failed (.engine (.agentInvocationFailed reason greeting.agentId))) ∧
      (agent ⟨"https://agents.test", none⟩ redirecting greeting ()).2 = () := by
  have regular : Exchange.IsRegular (.answered redirection) := by
    rintro _ ⟨⟩
    exact isRegular_redirection
  exact ⟨rfl, regular, agent_gives_iff ⟨"https://agents.test", none⟩ greeting rfl regular⟩

/-- A redirection is no success, and its body is the reply. -/
theorem agent_takes_redirection :
    (agent ⟨"https://agents.test", none⟩ redirecting greeting ()).1 = .done (.object []) ∧
      redirection.IsRegular ∧ redirection.isSuccess = false := by
  have json : redirection.json? = some (.object []) := by rfl
  have taken : classify greeting (.answered redirection) = .done (.object []) := by
    rw [classify, json]
    rfl
  exact ⟨taken, isRegular_redirection, rfl⟩

end Automation.AgentEndpoint
