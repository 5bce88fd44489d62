import Automation.Blueprint.Validation
import Automation.Repository
import Automation.Run.Runner

/-!
Dispatch of triggers.

Blueprints are registered under automation ids. Firing an automation fixes the blueprint and the
payload of a run and makes a task of it, which is outstanding until its done callback. Waiting for
all runs gathers the tasks that are outstanding when the wait begins.
-/

namespace Automation

/-- A run that is fixed, under the number of its task. -/
structure FiredRun where
  number : Nat
  automationId : String
  blueprint : Blueprint
  triggerData : Value

/-- What tasks ended with, under their numbers, first the one that ended first. -/
abbrev TaskEnds := List (Nat × Outcome ExecutionResult)

/-- Registered automations, how many tasks were made, and the numbers of those that are
outstanding. -/
structure Dispatcher where
  automations : Repository Blueprint
  created : Nat
  tasks : List Nat

namespace Dispatcher

/-- A dispatcher that made no task yet. -/
def start (automations : Repository Blueprint) : Dispatcher := ⟨automations, 0, []⟩

/-- Nothing registered, nothing outstanding. -/
def empty : Dispatcher := start []

/-- Register a blueprint. A value is validated, a blueprint is taken as it is. -/
def register (dispatcher : Dispatcher) (automationId : String) (source : BlueprintSource) :
    Except Failure (Blueprint × Dispatcher) := do
  let blueprint ← match source with
    | .parsed blueprint => .ok blueprint
    | .stored data => Blueprint.load data
  .ok (blueprint, { dispatcher with
    automations := Repository.put automationId (some blueprint) dispatcher.automations })

/-- Remove an automation, and say whether there was one. -/
def unregister (dispatcher : Dispatcher) (automationId : String) : Bool × Dispatcher :=
  match Repository.remove automationId dispatcher.automations with
  | (removed, automations) => (removed, { dispatcher with automations := automations })

/-- Fire an automation: make a task of the run that is fixed now. -/
def fire (dispatcher : Dispatcher) (automationId : String) (triggerData : Value) :
    Except EngineError (FiredRun × Dispatcher) :=
  match Repository.get? automationId dispatcher.automations with
  | none => .error (.automationNotFound (.text automationId))
  | some blueprint =>
      .ok (⟨dispatcher.created, automationId, blueprint, triggerData⟩, { dispatcher with
        created := dispatcher.created + 1
        tasks := dispatcher.tasks ++ [dispatcher.created] })

/-- The done callback of a task. -/
def discard (number : Nat) (dispatcher : Dispatcher) : Dispatcher :=
  { dispatcher with tasks := dispatcher.tasks.erase number }

/-- The number of outstanding tasks. -/
def pending (dispatcher : Dispatcher) : Nat := dispatcher.tasks.length

end Dispatcher

namespace TaskEnds

/-- The result of a task that ended with one. -/
def result? (ends : TaskEnds) (number : Nat) : Option ExecutionResult :=
  ends.findSome? fun (task, ended) =>
    match ended with
    | .done result => if task = number then some result else none
    | _ => none

/-- What a task that ended without a result ended with, if it is one of these. -/
def stop? (tasks : List Nat) : Nat × Outcome ExecutionResult →
    Option (Outcome (List ExecutionResult))
  | (_, .done _) => none
  | (task, .failed failure) => if tasks.contains task then some (.failed failure) else none
  | (task, .cancelled) => if tasks.contains task then some .cancelled else none

/-- What gathering tasks gives: the end of the first of them to end without a result, else the
results of all, in the order of the tasks. There is nothing yet while one of them goes on. -/
def gather (ends : TaskEnds) (tasks : List Nat) : Option (Outcome (List ExecutionResult)) :=
  match ends.findSome? (stop? tasks) with
  | some stopped => some stopped
  | none => .done <$> tasks.mapM ends.result?

end TaskEnds

/-- What a wait for all runs gives that begins now, once tasks ended as they did. -/
def Dispatcher.waitAll (dispatcher : Dispatcher) (ends : TaskEnds) :
    Option (Outcome (List ExecutionResult)) :=
  ends.gather dispatcher.tasks

/-- What the host gives a run that starts: an id and the time. -/
structure RunIdentity where
  executionId : String
  createdAt : Timestamp

namespace FiredRun

/-- A fired run as it starts. -/
def launch (fired : FiredRun) (identity : RunIdentity) : Launch :=
  { executionId := identity.executionId
    automationId := fired.automationId
    source := .parsed fired.blueprint
    triggerData := fired.triggerData
    createdAt := identity.createdAt }

end FiredRun

namespace Runner

variable {σ τ : Type}

/-- Run fired runs one after the other. -/
def runAll (runner : Runner σ τ) (identify : Nat → RunIdentity) :
    List FiredRun → RunState σ τ → TaskEnds × RunState σ τ
  | [], state => ([], state)
  | fired :: rest, state =>
      match runner.run (fired.launch (identify fired.number)) state with
      | (ended, after) =>
          match runAll runner identify rest after with
          | (others, last) => ((fired.number, ended) :: others, last)

end Runner
end Automation
