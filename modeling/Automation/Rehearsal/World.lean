import Automation.Agent.Chat
import Automation.Execution.Executor
import Automation.Rehearsal.Fault
import Automation.Rehearsal.Response

/-!
A scripted world for rehearsals.

Requests and agent calls are answered from a script, each list of answers in turn and its last one
again and again. Waiting moves a clock instead of taking time. Whatever the engine asks of the world
is kept as an event.
-/

namespace Automation.Rehearsal

/-- What a world is asked. -/
inductive Event where
  | slept (seconds : Binary64)
  | requested (request : Http.Request)
  | asked (request : AgentRequest)
  | chatted (request : ChatRequest)
  deriving Repr

/-- The answers of a world: to requests by url, with `*` for every other url, and to agent calls if
there is an agent. -/
structure Script where
  exchanges : Entries (List (Outcome Http.Exchange))
  replies : Option (List (Outcome Value))

/-- A world: its clock in seconds, the events so far, latest first, how many answers of each list
were used, how many agent calls there were, and how often each unreliable step ran. -/
structure World where
  clock : Binary64
  events : List Event
  exchanged : Entries Nat
  replied : Nat
  attempts : Entries Nat
  deriving Repr

/-- A world in which nothing has happened. -/
def World.initial : World := ⟨Binary64.zero false, [], [], 0, []⟩

/-- The answer with a position in a list; after the last one, the last one. -/
def answerAt? {α : Type} (answers : List α) (position : Nat) : Option α :=
  answers[min position (answers.length - 1)]?

/-- The answer to a request that no list is for: an empty object. -/
def defaultExchange : Outcome Http.Exchange := .done (.answered (response 200 "{}".toUTF8.toList))

/-- The name of the list that a request is answered from. -/
def listOf (script : Script) (asked : Http.Request) : String :=
  if Entries.has asked.url script.exchanges then asked.url else "*"

/-- The answer with a position in the list of a name. -/
def exchangeAt (script : Script) (name : String) (position : Nat) : Outcome Http.Exchange :=
  ((Entries.get? name script.exchanges).bind (answerAt? · position)).getD defaultExchange

/-- How many answers of the list of a name were used. -/
def World.used (world : World) (name : String) : Nat := (Entries.get? name world.exchanged).getD 0

/-- Answer a request. -/
def request (script : Script) (asked : Http.Request) (world : World) :
    Outcome Http.Exchange × World :=
  let name := listOf script asked
  (exchangeAt script name (world.used name), { world with
    events := .requested asked :: world.events
    exchanged := Entries.put name (world.used name + 1) world.exchanged })

/-- Answer an agent call. -/
def reply (replies : List (Outcome Value)) : Agent World := fun asked world =>
  ((answerAt? replies world.replied).getD (.done .null), { world with
    events := .asked asked :: world.events
    replied := world.replied + 1 })

/-- Answer a request to a chat model. -/
def chat (replies : List (Outcome ChatExchange)) (asked : ChatRequest) (world : World) :
    Outcome ChatExchange × World :=
  ((answerAt? replies world.replied).getD (.done (.answered ⟨[], .null, none⟩)), { world with
    events := .chatted asked :: world.events
    replied := world.replied + 1 })

/-- Wait: the clock moves by a finite positive number of seconds. -/
def sleep (seconds : Binary64) (world : World) : Outcome Unit × World :=
  (.done (), { world with
    events := .slept seconds :: world.events
    clock := if seconds.isFinite && seconds.isPositive then world.clock.add seconds
      else world.clock })

/-- The collaborators of a scripted world. -/
def collaborators (script : Script) : Collaborators World :=
  { request := request script
    agent := script.replies.map reply
    sleep := sleep
    now := World.clock }

/-- The events so far, in order, and a world that has forgotten them. -/
def World.takeEvents (world : World) : List Event × World :=
  (world.events.reverse, { world with events := [] })

end Automation.Rehearsal
