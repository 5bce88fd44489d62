import Automation.Blueprint.Basic
import Automation.Blueprint.Writer
import Automation.Value.Printing
import Automation.Value.Size

/-!
Statistics of stored blueprints.

The analysis counts what a stored blueprint holds: its steps, the platforms they name, the agents
they call, its conditions and its loops. A field of the wrong shape does not contribute, and a
blueprint without steps has no statistics. The analysis fails where the id of an agent is an integer
that is not printed.
-/

namespace Automation

/-- The fields of an action or a trigger that may name its platform, first ones first. -/
def defaultPlatformKeys : List String := ["integration", "platform", "service", "provider"]

/-- What a walk over steps has met, in the order of meeting it: the platforms by name, and the
agents by id. -/
structure Tally where
  steps : Nat
  platforms : List String
  agents : List Value
  conditions : Nat
  loops : Nat
  deriving Repr, Inhabited

namespace Tally

/-- Nothing met. -/
def empty : Tally := ⟨0, [], [], 0, 0⟩

/-- What two walks have met. -/
def append (first second : Tally) : Tally :=
  ⟨first.steps + second.steps, first.platforms ++ second.platforms, first.agents ++ second.agents,
    first.conditions + second.conditions, first.loops + second.loops⟩

instance : Append Tally := ⟨append⟩

end Tally

/-- The platform that an action or a trigger names: the first of the keys with a text that is not
empty. -/
def probePlatform? (keys : List String) (probed : Value) : Option String :=
  keys.findSome? fun key =>
    match Fields.valueOf key probed.fields with
    | .text name => if name = "" then none else some name
    | _ => none

/-- The platform of a step: of its action if that is an object, else of its trigger. -/
def platformOf (keys : List String) (step : Value) : String :=
  let action := Fields.valueOf "action" step.fields
  let probed := if action.isObject then action else Fields.valueOf "trigger" step.fields
  (probePlatform? keys probed).getD ""

/-- The id of the agent that a step calls: a text that is not empty, or an integer. -/
def agentId? (step : Fields) : Option Value :=
  match Fields.valueOf "agent_id" (Fields.valueOf "ai_agent_call" step).fields with
  | .text name => if name = "" then none else some (.text name)
  | .int number => some (.int number)
  | _ => none

/-- What a step contributes by itself. -/
def tallyHead (keys : List String) (step : Fields) : Tally :=
  { steps := 1
    platforms :=
      (probePlatform? keys (Fields.valueOf "action" step)).toList
        ++ (probePlatform? keys (Fields.valueOf "trigger" step)).toList
    agents := (agentId? step).toList
    conditions := if (Fields.valueOf "type" step).isText "condition" then 1 else 0
    loops := if (Fields.valueOf "type" step).isText "loop" then 1 else 0 }

mutual

/-- What a step and the steps inside it contribute. Branches count under conditions only, and the
steps of a loop under loops only. -/
def tallyStep (keys : List String) : Value → Tally
  | .object step =>
      let isCondition := (Fields.valueOf "type" step).isText "condition"
      let isLoop := (Fields.valueOf "type" step).isText "loop"
      tallyHead keys step
        ++ (if isCondition then
            tallyBlock keys step "condition" "if_true"
              ++ tallyBlock keys step "condition" "if_false"
              ++ tallyVerdict keys step "trueStep" ++ tallyVerdict keys step "falseStep"
          else .empty)
        ++ (if isLoop then tallyBlock keys step "loop" "steps" else .empty)
        ++ tallyBlock keys step "retry" "steps"
        ++ tallyBlock keys step "retry" "on_retry_fail_steps"
        ++ tallyBlock keys step "fallback" "primary_steps"
        ++ tallyBlock keys step "fallback" "fallback_steps"
  | _ => .empty
  termination_by value => (sizeOf value, 0)
  decreasing_by
    all_goals
      apply Prod.Lex.left
      simp only [Value.object.sizeOf_spec]
      omega

/-- What the steps of one list of a block contribute. -/
def tallyBlock (keys : List String) (step : Fields) (blockName listName : String) : Tally :=
  match _found : Fields.valueOf blockName step with
  | .object block =>
      match _listed : Fields.valueOf listName block with
      | .list items => tallyItems keys items
      | _ => .empty
  | _ => .empty
  termination_by (sizeOf step, 0)
  decreasing_by
    have smaller := Fields.sizeOf_lt_of_valueOf _found
    have bound := Fields.sizeOf_valueOf_le listName block
    rw [_listed, Value.list.sizeOf_spec] at bound
    apply Prod.Lex.left
    omega

/-- What a step in the configuration contributes. -/
def tallyVerdict (keys : List String) (step : Fields) (name : String) : Tally :=
  match _found : Entries.get? name (Fields.valueOf "config" step).fields with
  | some inner => tallyStep keys inner
  | none => .empty
  termination_by (sizeOf step, 0)
  decreasing_by
    have smaller := Fields.sizeOf_lt_of_get? _found
    have inner := Value.sizeOf_fields_le (Fields.valueOf "config" step)
    have outer := Fields.sizeOf_valueOf_le "config" step
    apply Prod.Lex.left
    omega

/-- What the steps of a list contribute. -/
def tallyItems (keys : List String) : List Value → Tally
  | [] => .empty
  | item :: rest => tallyStep keys item ++ tallyItems keys rest
  termination_by items => (sizeOf items, 0)

end

/-- Add a name to names in increasing order, unless it is there. -/
def insertName (name : String) : List String → List String
  | [] => [name]
  | first :: rest =>
      if name = first then first :: rest
      else if name < first then name :: first :: rest
      else first :: insertName name rest

/-- The different names of a list, in increasing order. -/
def distinctNames (names : List String) : List String := names.foldr insertName []

/-- The statistics of a blueprint. -/
structure Statistics where
  totalSteps : Nat
  platforms : List String
  agents : List String
  conditions : Nat
  loops : Nat
  expectedNodes : Nat
  deriving DecidableEq, Repr, Inhabited

namespace Statistics

/-- The statistics of what a walk has met, with the agents by the texts of their ids. One more node
is expected for the start. -/
def ofTally (tally : Tally) : Except Failure Statistics := do
  let platforms := distinctNames tally.platforms
  let agents := distinctNames (← tally.agents.mapM Value.print)
  .ok ⟨tally.steps, platforms, agents, tally.conditions, tally.loops,
    tally.steps + platforms.length + agents.length + 1⟩

/-- Statistics as the fields of an object. -/
def toFields (statistics : Statistics) : Fields :=
  [("totalSteps", .int statistics.totalSteps),
    ("platforms", .list (statistics.platforms.map .text)),
    ("agents", .list (statistics.agents.map .text)),
    ("conditions", .int statistics.conditions),
    ("loops", .int statistics.loops),
    ("expectedNodes", .int statistics.expectedNodes)]

/-- The statistics of a stored blueprint. -/
def ofValue? (keys : List String) (data : Value) : Except Failure (Option Statistics) :=
  match Fields.valueOf "steps" data.fields with
  | .list [] => .ok none
  | .list steps => some <$> ofTally (tallyItems keys steps)
  | _ => .ok none

/-- The statistics of a blueprint, in the form that it is stored in. -/
def ofBlueprint? (keys : List String) (blueprint : Blueprint) :
    Except Failure (Option Statistics) :=
  ofValue? keys blueprint.stored

end Statistics
end Automation
