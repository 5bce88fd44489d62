import Automation.Value

/-!
Steps of blueprints.

A step has a header, which every step has, and up to four blocks that hold further steps: a
condition with two branches, a loop, a retry and a fallback. Two more steps may hang on its
configuration, one for each verdict of a condition. So a step is a tree.

`preorder` visits the trees of a list of steps with a stack; `subtree` and `subtrees` give the same
order by recursion: each step, then the preorder of its children.
-/

namespace Automation

/-- The kinds of step that the engine runs itself. -/
inductive StepType where
  | apiCall
  | agentCall
  | webhook
  | delay
  | condition
  | retry
  | fallback
  | loop
  deriving DecidableEq, Repr, Inhabited

namespace StepType

/-- The name of a kind of step. -/
def name : StepType → String
  | .apiCall => "api_call"
  | .agentCall => "ai_agent_call"
  | .webhook => "webhook"
  | .delay => "delay"
  | .condition => "condition"
  | .retry => "retry"
  | .fallback => "fallback"
  | .loop => "loop"

/-- Every kind of step. -/
def all : List StepType :=
  [.apiCall, .agentCall, .webhook, .delay, .condition, .retry, .fallback, .loop]

/-- The kind of step with a name. -/
def ofName? (name : String) : Option StepType := all.find? fun type => type.name == name

end StepType

/-- The call of an agent: whom to ask, what, and the variable that takes the answer. -/
structure AgentCall where
  agentId : Value
  inputPrompt : Value
  outputVariable : Value
  deriving BEq, Repr, Inhabited

/-- What every step has. -/
structure StepHeader where
  id : String
  type : String
  name : String
  config : Fields
  stopOnError : Bool
  outputVariable : Value
  action : Option Fields
  trigger : Option Fields
  delay : Option Fields
  agentCall : Option AgentCall
  deriving BEq, Repr, Inhabited

/-- A condition and the steps of its two branches. -/
structure ConditionBlock (σ : Type) where
  expression : Value
  ifTrue : List σ
  ifFalse : List σ
  deriving BEq, Repr, Inhabited

/-- A source of items and the steps that run for each of them. -/
structure LoopBlock (σ : Type) where
  source : Value
  steps : List σ
  deriving BEq, Repr, Inhabited

/-- Steps that run until they succeed, and the steps that run where they never do. -/
structure RetryBlock (σ : Type) where
  maxAttempts : Value
  backoffSeconds : Value
  steps : List σ
  recovery : List σ
  deriving BEq, Repr, Inhabited

/-- Steps, and the steps that run where the first ones fail. -/
structure FallbackBlock (σ : Type) where
  primary : List σ
  alternative : List σ
  deriving BEq, Repr, Inhabited

/-- A step with the steps inside it. -/
inductive Step where
  | mk (header : StepHeader) (condition : Option (ConditionBlock Step))
      (loop : Option (LoopBlock Step)) (retry : Option (RetryBlock Step))
      (fallback : Option (FallbackBlock Step)) (trueStep falseStep : Option Step)
  deriving BEq, Repr, Inhabited

namespace Step

/-- What every step has. -/
def header : Step → StepHeader
  | .mk header _ _ _ _ _ _ => header

/-- The condition block of a step. -/
def condition : Step → Option (ConditionBlock Step)
  | .mk _ condition _ _ _ _ _ => condition

/-- The loop block of a step. -/
def loop : Step → Option (LoopBlock Step)
  | .mk _ _ loop _ _ _ _ => loop

/-- The retry block of a step. -/
def retry : Step → Option (RetryBlock Step)
  | .mk _ _ _ retry _ _ _ => retry

/-- The fallback block of a step. -/
def fallback : Step → Option (FallbackBlock Step)
  | .mk _ _ _ _ fallback _ _ => fallback

/-- The step for a condition that holds. -/
def trueStep : Step → Option Step
  | .mk _ _ _ _ _ trueStep _ => trueStep

/-- The step for a condition that does not hold. -/
def falseStep : Step → Option Step
  | .mk _ _ _ _ _ _ falseStep => falseStep

/-- The id of a step. -/
def id (step : Step) : String := step.header.id

/-- The type of a step, as it is written. -/
def type (step : Step) : String := step.header.type

/-- The configuration of a step. -/
def config (step : Step) : Fields := step.header.config

/-- The steps of a condition block. -/
def conditionSteps : Option (ConditionBlock Step) → List Step
  | some block => block.ifTrue ++ block.ifFalse
  | none => []

/-- The steps of a loop block. -/
def loopSteps : Option (LoopBlock Step) → List Step
  | some block => block.steps
  | none => []

/-- The steps of a retry block. -/
def retrySteps : Option (RetryBlock Step) → List Step
  | some block => block.steps ++ block.recovery
  | none => []

/-- The steps of a fallback block. -/
def fallbackSteps : Option (FallbackBlock Step) → List Step
  | some block => block.primary ++ block.alternative
  | none => []

/-- The steps directly inside a step. -/
def children : Step → List Step
  | .mk _ condition loop retry fallback trueStep falseStep =>
      conditionSteps condition ++ trueStep.toList ++ falseStep.toList ++ loopSteps loop
        ++ retrySteps retry ++ fallbackSteps fallback

mutual

/-- A step and all steps inside it: the step, then the preorder of its children. -/
def subtree : Step → List Step
  | .mk header condition loop retry fallback trueStep falseStep =>
      .mk header condition loop retry fallback trueStep falseStep ::
        ((match condition with
            | some ⟨_, ifTrue, ifFalse⟩ => subtrees ifTrue ++ subtrees ifFalse
            | none => [])
          ++ (match trueStep with
            | some step => subtree step
            | none => [])
          ++ (match falseStep with
            | some step => subtree step
            | none => [])
          ++ (match loop with
            | some ⟨_, steps⟩ => subtrees steps
            | none => [])
          ++ (match retry with
            | some ⟨_, _, steps, recovery⟩ => subtrees steps ++ subtrees recovery
            | none => [])
          ++ (match fallback with
            | some ⟨primary, alternative⟩ => subtrees primary ++ subtrees alternative
            | none => []))

/-- The steps of a list and all steps inside them. -/
def subtrees : List Step → List Step
  | [] => []
  | step :: rest => subtree step ++ subtrees rest

end

/-- The number of steps in the trees of a list. -/
def count (steps : List Step) : Nat := (subtrees steps).length

/-- The steps that a stack of steps leads to: the top of the stack, then its children, which go on
top of the rest. Every turn takes one step from the trees on the stack. -/
def visit : (fuel : Nat) → (stack : List Step) → List Step
  | fuel + 1, step :: stack => step :: visit fuel (step.children ++ stack)
  | _, _ => []

/-- Every step of a list of trees, depth first. -/
def preorder (steps : List Step) : List Step := visit (count steps) steps

/-- The first step with an id. -/
def find? (id : String) (steps : List Step) : Option Step :=
  (preorder steps).find? fun step => step.id == id

end Step
end Automation
