import Automation.Blueprint.Step

/-!
Induction over the tree of a step.

The steps directly inside a step are smaller than the step, so what passes from the children of a
step to the step holds of every step. What holds of a step and of all steps inside it holds of
every step that a visit yields.
-/

namespace Automation.Step

theorem children_eq (step : Step) :
    step.children = conditionSteps step.condition ++ step.trueStep.toList ++ step.falseStep.toList
      ++ loopSteps step.loop ++ retrySteps step.retry ++ fallbackSteps step.fallback := by
  obtain ⟨⟩ := step
  rfl

theorem sizeOf_lt_of_mem_children {step child : Step} (member : child ∈ step.children) :
    sizeOf child < sizeOf step := by
  obtain ⟨header, condition, loop, retry, fallback, trueStep, falseStep⟩ := step
  simp only [children, List.mem_append, Option.mem_toList] at member
  rcases member with ((((inCondition | isTrueStep) | isFalseStep) | inLoop) | inRetry) | inFallback
  · cases condition with
    | none => simp [conditionSteps] at inCondition
    | some block =>
        cases block
        simp only [conditionSteps, List.mem_append] at inCondition
        rcases inCondition with inside | inside <;>
          have smaller := List.sizeOf_lt_of_mem inside <;> simp <;> omega
  · obtain rfl := isTrueStep
    simp
    omega
  · obtain rfl := isFalseStep
    simp
    omega
  · cases loop with
    | none => simp [loopSteps] at inLoop
    | some block =>
        cases block
        have smaller := List.sizeOf_lt_of_mem inLoop
        simp [loopSteps] at smaller ⊢
        omega
  · cases retry with
    | none => simp [retrySteps] at inRetry
    | some block =>
        cases block
        simp only [retrySteps, List.mem_append] at inRetry
        rcases inRetry with inside | inside <;>
          have smaller := List.sizeOf_lt_of_mem inside <;> simp <;> omega
  · cases fallback with
    | none => simp [fallbackSteps] at inFallback
    | some block =>
        cases block
        simp only [fallbackSteps, List.mem_append] at inFallback
        rcases inFallback with inside | inside <;>
          have smaller := List.sizeOf_lt_of_mem inside <;> simp <;> omega

/-- What passes from the children of a step to the step holds of every step. -/
theorem inductionOnChildren {motive : Step → Prop}
    (inherit : ∀ step : Step, (∀ child ∈ step.children, motive child) → motive step)
    (step : Step) : motive step :=
  inherit step fun child _ => inductionOnChildren inherit child
  termination_by sizeOf step
  decreasing_by exact sizeOf_lt_of_mem_children ‹_›

/-- The condition of a step: from its configuration, else from its block. -/
def expression (step : Step) : Value :=
  let configured := Fields.valueOf "condition" step.config
  if configured.isNull then (step.condition.map ConditionBlock.expression).getD .null
  else configured

/-- The lists of steps in the blocks of a step. -/
def lists (step : Step) : List (List Step) :=
  [(step.condition.map ConditionBlock.ifTrue).getD [],
    (step.condition.map ConditionBlock.ifFalse).getD [], (step.loop.map LoopBlock.steps).getD [],
    (step.retry.map RetryBlock.steps).getD [], (step.retry.map RetryBlock.recovery).getD [],
    (step.fallback.map FallbackBlock.primary).getD [],
    (step.fallback.map FallbackBlock.alternative).getD []]

/-- A step directly inside a step stands in a list of a block, or is there for a verdict. -/
theorem mem_children_iff {step child : Step} :
    child ∈ step.children ↔
      child ∈ step.lists.flatten ∨ step.trueStep = some child ∨ step.falseStep = some child := by
  have inCondition : child ∈ conditionSteps step.condition ↔
      child ∈ (step.condition.map ConditionBlock.ifTrue).getD [] ∨
        child ∈ (step.condition.map ConditionBlock.ifFalse).getD [] := by
    cases step.condition <;> simp [conditionSteps]
  have inLoop : child ∈ loopSteps step.loop ↔
      child ∈ (step.loop.map LoopBlock.steps).getD [] := by
    cases step.loop <;> simp [loopSteps]
  have inRetry : child ∈ retrySteps step.retry ↔
      child ∈ (step.retry.map RetryBlock.steps).getD [] ∨
        child ∈ (step.retry.map RetryBlock.recovery).getD [] := by
    cases step.retry <;> simp [retrySteps]
  have inFallback : child ∈ fallbackSteps step.fallback ↔
      child ∈ (step.fallback.map FallbackBlock.primary).getD [] ∨
        child ∈ (step.fallback.map FallbackBlock.alternative).getD [] := by
    cases step.fallback <;> simp [fallbackSteps]
  simp only [children_eq, List.mem_append, inCondition, inLoop, inRetry, inFallback,
    Option.mem_toList, lists, List.flatten_cons, List.flatten_nil, List.append_nil]
  grind

/-- A step with a property, as all steps inside it have it. -/
inductive Throughout (p : Step → Prop) : Step → Prop where
  | mk {step : Step} (here : p step) (inside : ∀ child ∈ step.children, Throughout p child) :
      Throughout p step

/-- Stated of a constructor, so that rewriting with it ends at the leaves of a tree. -/
theorem throughout_mk_iff {p : Step → Prop} {header : StepHeader}
    {condition : Option (ConditionBlock Step)} {loop : Option (LoopBlock Step)}
    {retry : Option (RetryBlock Step)} {fallback : Option (FallbackBlock Step)}
    {trueStep falseStep : Option Step} :
    Throughout p (.mk header condition loop retry fallback trueStep falseStep) ↔
      p (.mk header condition loop retry fallback trueStep falseStep) ∧
        ∀ child ∈ children (.mk header condition loop retry fallback trueStep falseStep),
          Throughout p child :=
  ⟨fun ⟨here, inside⟩ => ⟨here, inside⟩, fun ⟨here, inside⟩ => .mk here inside⟩

theorem Throughout.imp {p q : Step → Prop} (implies : ∀ step, p step → q step) {step : Step}
    (all : Throughout p step) : Throughout q step := by
  induction all with
  | mk here _ inside => exact .mk (implies _ here) inside

theorem throughout_of_forall {p : Step → Prop} (holds : ∀ step, p step) (step : Step) :
    Throughout p step := by
  induction step using inductionOnChildren with
  | inherit step inside => exact .mk (holds step) inside

theorem Throughout.and {p q : Step → Prop} {step : Step} (first : Throughout p step)
    (second : Throughout q step) : Throughout (fun inner => p inner ∧ q inner) step := by
  induction first with
  | mk here _ inside =>
      obtain ⟨alsoHere, alsoInside⟩ := second
      exact .mk ⟨here, alsoHere⟩ fun child member => inside child member (alsoInside child member)

theorem Throughout.of_mem_visit {p : Step → Prop} {fuel : Nat} {stack : List Step}
    (all : ∀ step ∈ stack, Throughout p step) : ∀ step ∈ visit fuel stack, p step := by
  induction fuel generalizing stack with
  | zero => simp [visit]
  | succ fuel inductionHypothesis =>
      cases stack with
      | nil => simp [visit]
      | cons top rest =>
          rw [List.forall_mem_cons] at all
          obtain ⟨⟨here, inside⟩, below⟩ := all
          rw [visit, List.forall_mem_cons]
          refine ⟨here, inductionHypothesis fun step member => ?_⟩
          exact (List.mem_append.mp member).elim (inside step) (below step)

end Automation.Step
