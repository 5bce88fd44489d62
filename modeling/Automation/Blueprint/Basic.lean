import Automation.Blueprint.Step

/-!
Blueprints: the steps of an automation, its trigger and its initial variables.
-/

namespace Automation

/-- An automation's steps with what describes them. `source` is the object that the blueprint was
read from; it is empty for a blueprint that was not read. -/
structure Blueprint where
  steps : List Step
  version : String
  description : Value
  trigger : Fields
  «variables» : Fields
  source : Fields
  deriving BEq, Repr, Inhabited

namespace Blueprint

/-- Every step of a blueprint, depth first. -/
def allSteps (blueprint : Blueprint) : List Step := Step.preorder blueprint.steps

/-- The first step with an id. -/
def find? (blueprint : Blueprint) (id : String) : Option Step := Step.find? id blueprint.steps

end Blueprint
end Automation
