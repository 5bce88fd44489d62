import Automation.Proofs.Execution.Rounds
import Automation.Proofs.Timestamp.Order
import Automation.Rehearsal.Store
import Automation.Rehearsal.World

/-!
What a scripted world answers.

Its responses are as clients document theirs, and its waits end. The answers of a list are used in
turn, and the last one again and again, so an answer depends on nothing but how many requests went
to the same list before. A store that keeps what it is handed holds what the store behind it would
hold had it been handed only the records that are not refused.
-/

namespace Automation.Rehearsal

theorem isRegular_response (status : Int) (content : List UInt8) :
    (response status content).IsRegular where
  success := (Bool.decide_and _ _).symm
  error := (Bool.decide_and _ _).symm
  garbled _ := nofun

section

variable {α : Type} {answers : List α} {position : Nat}

theorem answerAt?_of_lt (within : position < answers.length) :
    answerAt? answers position = answers[position]? := by
  rw [answerAt?, Nat.min_eq_left (by omega)]

theorem answerAt?_of_le (used : answers.length ≤ position) :
    answerAt? answers position = answers.getLast? := by
  rw [answerAt?, Nat.min_eq_right (by omega), List.getLast?_eq_getElem?]

theorem mem_of_answerAt? {answer : α} (found : answerAt? answers position = some answer) :
    answer ∈ answers := List.mem_of_getElem? found

end

section

variable {script : Script} {asked : Http.Request} {world : World}

/-- Every exchange that a script answers with is one that it holds, or the answer for no list. -/
theorem mem_of_request {exchange : Http.Exchange}
    (answered : (request script asked world).1 = .done exchange) :
    .done exchange = defaultExchange ∨ ∃ name answers,
      Entries.get? name script.exchanges = some answers ∧ .done exchange ∈ answers := by
  simp only [request, exchangeAt] at answered
  cases found : (Entries.get? (listOf script asked) script.exchanges).bind
      (answerAt? · (world.used (listOf script asked))) with
  | none =>
      rw [found, Option.getD_none] at answered
      exact Or.inl answered.symm
  | some answer =>
      rw [found, Option.getD_some] at answered
      obtain ⟨answers, listed, isAnswer⟩ := Option.bind_eq_some_iff.mp found
      exact Or.inr ⟨_, answers, listed, answered ▸ mem_of_answerAt? isAnswer⟩

/-- A script of regular exchanges answers with regular exchanges only. -/
theorem isRegular_of_request (regular : ∀ name answers,
      Entries.get? name script.exchanges = some answers →
        ∀ exchange, .done exchange ∈ answers → Http.Exchange.IsRegular exchange)
    {exchange : Http.Exchange} (answered : (request script asked world).1 = .done exchange) :
    exchange.IsRegular := by
  rcases mem_of_request answered with isDefault | ⟨name, answers, listed, member⟩
  · cases isDefault
    intro response same
    cases same
    exact isRegular_response 200 _
  · exact regular name answers listed exchange member

theorem used_request (name : String) :
    (request script asked world).2.used name =
      world.used name + if listOf script asked = name then 1 else 0 := by
  by_cases same : listOf script asked = name
  · subst same
    rw [if_pos rfl, World.used, request, Entries.get?_put_self, Option.getD_some]
  · rw [if_neg same, World.used, request, Entries.get?_put_of_ne (Ne.symm same)]
    rfl

/-- The world after some requests. -/
def requestAll (script : Script) (requests : List Http.Request) (world : World) : World :=
  requests.foldl (fun world asked => (request script asked world).2) world

theorem used_requestAll (requests : List Http.Request) (name : String) :
    (requestAll script requests world).used name =
      world.used name + requests.countP fun asked => listOf script asked = name := by
  induction requests generalizing world with
  | nil => rfl
  | cons first rest inductionHypothesis =>
      rw [requestAll, List.foldl_cons, ← requestAll, inductionHypothesis, used_request,
        List.countP_cons]
      simp only [decide_eq_true_eq]
      omega

/-- A request is answered by how many requests to its list there were before it. -/
theorem request_after (before : List Http.Request) :
    (request script asked (requestAll script before world)).1 =
      exchangeAt script (listOf script asked) (world.used (listOf script asked) +
        before.countP fun other => listOf script other = listOf script asked) := by
  rw [request, used_requestAll]

/-- Every request is kept, and nothing else happens. -/
theorem events_requestAll (requests : List Http.Request) :
    (requestAll script requests world).events =
      (requests.map Event.requested).reverse ++ world.events := by
  induction requests generalizing world with
  | nil => rfl
  | cons first rest inductionHypothesis =>
      rw [requestAll, List.foldl_cons, ← requestAll, inductionHypothesis, List.map_cons,
        List.reverse_cons, List.append_assoc]
      rfl

theorem takeEvents_requestAll (requests : List Http.Request) (empty : world.events = []) :
    (requestAll script requests world).takeEvents.1 = requests.map Event.requested := by
  rw [World.takeEvents, events_requestAll, empty, List.append_nil, List.reverse_reverse]

/-- The world after some agent calls. -/
def replyAll (replies : List (Outcome Value)) (calls : List AgentRequest) (world : World) : World :=
  calls.foldl (fun world asked => (reply replies asked world).2) world

theorem replied_replyAll {replies : List (Outcome Value)} (calls : List AgentRequest) :
    (replyAll replies calls world).replied = world.replied + calls.length := by
  induction calls generalizing world with
  | nil => rfl
  | cons first rest inductionHypothesis =>
      rw [replyAll, List.foldl_cons, ← replyAll, inductionHypothesis, List.length_cons]
      simp only [reply]
      omega

/-- An agent call is answered by how many calls there were before it, whatever they asked. -/
theorem reply_after {replies : List (Outcome Value)} (before : List AgentRequest)
    (asked : AgentRequest) :
    (reply replies asked (replyAll replies before world)).1 =
      (answerAt? replies (world.replied + before.length)).getD (.done .null) := by
  rw [reply, replied_replyAll]

end

/-- Every wait of a scripted world ends, so that retries come to all of their attempts. -/
theorem waitsEnd {executor : Executor World} {script : Script} (plan : Executor.RetryPlan)
    (scripted : executor.collaborators = collaborators script) : executor.WaitsEnd plan := by
  intro _ world
  rw [scripted]
  rfl

section

variable {τ : Type} {store : RunStore τ} {refusals : Nat → Option String}

/-- The contents of a store that was handed some records, whether it took them or not. -/
def upsertAll {τ : Type} (store : RunStore τ) (records : List RunRecord) (contents : τ) : τ :=
  records.foldl (fun contents record => (store.upsert record contents).2) contents

/-- The records that are not refused, where some were handed over before. -/
def accepted (refusals : Nat → Option String) : (handed : Nat) → List RunRecord → List RunRecord
  | _, [] => []
  | handed, record :: rest =>
      let others := accepted refusals (handed + 1) rest
      if (refusals (handed + 1)).isSome then others else record :: others

theorem handed_upsertAll (records : List RunRecord) (state : Recording τ) :
    (upsertAll (recording store refusals) records state).handed =
      records.reverse ++ state.handed := by
  induction records generalizing state with
  | nil => rfl
  | cons record rest inductionHypothesis =>
      rw [upsertAll, List.foldl_cons, ← upsertAll, inductionHypothesis, List.reverse_cons,
        List.append_assoc, recording]
      dsimp only
      split <;> rfl

/-- A recording store holds what the store behind it holds after the records that are accepted. -/
theorem contents_upsertAll (records : List RunRecord) (state : Recording τ) :
    (upsertAll (recording store refusals) records state).contents =
      upsertAll store (accepted refusals state.handed.length records) state.contents := by
  induction records generalizing state with
  | nil => rfl
  | cons record rest inductionHypothesis =>
      rw [upsertAll, List.foldl_cons, ← upsertAll, inductionHypothesis, accepted]
      cases refused : refusals (state.handed.length + 1) with
      | none => simp [recording, refused, upsertAll]
      | some message => simp [recording, refused]

end

section

open Timestamp

/-- The second of the calendar that a number stands for, counted from the start of its year. -/
theorem instant_moment (number : Nat) : (moment number).instant =
    (daysBeforeYear (2026 + number / 2419200) * 86400 + (number % 2419200 : Nat)) * perSecond := by
  have january (year : Int) : daysBeforeMonth year 1 = 0 := rfl
  simp only [instant, moment, january, perSecond]
  omega

/-- Greater numbers stand for later points in time, so the calendar of a rehearsal moves on with
every record. -/
theorem instant_moment_lt {first second : Nat} (before : first < second) :
    (moment first).instant < (moment second).instant := by
  have year : daysBeforeYear (2026 + first / 2419200) + 28 ≤
      daysBeforeYear (2026 + second / 2419200) ∨
        (first : Int) / 2419200 = second / 2419200 := by
    by_cases same : (first : Int) / 2419200 = second / 2419200
    · exact Or.inr same
    · have later := @daysBeforeYear_mono (2026 + first / 2419200 + 1) (2026 + second / 2419200)
        (by omega)
      have full := daysBeforeYear_succ (2026 + first / 2419200)
      have enough : 28 ≤ daysInYear (2026 + first / 2419200) := by
        unfold daysInYear
        split <;> decide
      apply Or.inl
      omega
  rw [instant_moment, instant_moment, perSecond]
  rcases year with later | same
  · omega
  · rw [same]
    omega

end

end Automation.Rehearsal
