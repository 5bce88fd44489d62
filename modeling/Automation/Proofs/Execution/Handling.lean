import Automation.Execution.Steps
import Automation.Proofs.Action
import Automation.Proofs.Blueprint.Tree

/-!
What a step of each type does.

`handle` says it step by step and without recursion: it combines the steps and lists of steps that a
step holds, where a missing block counts as one with empty lists. `RunsAs.execute_eq` ties it to the
execution of the whole tree.
-/

namespace Automation

namespace Step

/-- The single step for a verdict of a condition. -/
def single (step : Step) (verdict : Bool) : Option Step :=
  if verdict then step.trueStep else step.falseStep

/-- The steps of a condition's branch for a verdict. -/
def branch (step : Step) (verdict : Bool) : List Step :=
  if verdict then (step.condition.map ConditionBlock.ifTrue).getD []
  else (step.condition.map ConditionBlock.ifFalse).getD []

def attempted (step : Step) : List Step := (step.retry.map RetryBlock.steps).getD []

def recovery (step : Step) : List Step := (step.retry.map RetryBlock.recovery).getD []

def primary (step : Step) : List Step := (step.fallback.map FallbackBlock.primary).getD []

def alternative (step : Step) : List Step :=
  (step.fallback.map FallbackBlock.alternative).getD []

def iterated (step : Step) : List Step := (step.loop.map LoopBlock.steps).getD []

/-- Where a loop finds its items. -/
def itemSource (step : Step) : Value :=
  (step.loop.map LoopBlock.source).getD (Fields.valueOf "array_source" step.config)

end Step

namespace Executor

variable {σ : Type} {executor : Executor σ}

def planOf (executor : Executor σ) (step : Step) : Except Failure RetryPlan :=
  retryPlan executor.settings step.header ((step.retry.map RetryBlock.maxAttempts).getD .null)
    ((step.retry.map RetryBlock.backoffSeconds).getD .null)

/-- What a condition step holds for a verdict. -/
def branchFor (executor : Executor σ) (step : Step) (verdict : Bool) : Branch σ :=
  ⟨(step.single verdict).map executor.execute,
    unlessEmpty (step.branch verdict) (executor.executeAll (step.branch verdict))⟩

/-- A step that the engine runs itself, as a step of a type that it knows. -/
structure RunsAs (executor : Executor σ) (step : Step) (kind : StepType) : Prop where
  unhandled : Entries.get? step.type executor.handlers = none
  known : StepType.ofName? step.type = some kind

/-- What a step of a type does between the lines that report it. -/
def handle (executor : Executor σ) (step : Step) : StepType → Action σ Value
  | .apiCall => executor.callApi step.header
  | .agentCall => executor.callAgent step.header
  | .webhook => executor.callWebhook step.header
  | .delay => executor.wait step.header
  | .condition =>
      executor.choose step.header ((step.condition.map ConditionBlock.expression).getD .null)
        (executor.branchFor step true) (executor.branchFor step false)
  | .retry =>
      executor.retrying step.header ((step.retry.map RetryBlock.maxAttempts).getD .null)
        ((step.retry.map RetryBlock.backoffSeconds).getD .null)
        (executor.executeAll step.attempted)
        (unlessEmpty step.recovery (executor.executeAll step.recovery))
  | .fallback =>
      fallingBack step.header (executor.executeAll step.primary)
        (unlessEmpty step.alternative (executor.executeAll step.alternative))
  | .loop => looping step.header step.itemSource (executor.executeAll step.iterated)

theorem RunsAs.execute_eq {step : Step} {kind : StepType} (runs : executor.RunsAs step kind) :
    executor.execute step = executor.complete step.header (executor.handle step kind) := by
  obtain ⟨header, condition, loop, retry, fallback, trueStep, falseStep⟩ := step
  obtain ⟨unhandled, known⟩ := runs
  simp only [Step.type, Step.header] at unhandled known
  -- One turn of the recursion is enough: both sides run the inner steps by `execute` itself.
  unfold execute
  rw [unhandled, known]
  cases kind with
  | condition =>
      cases condition <;> cases trueStep <;> cases falseStep <;>
        simp [handle, branchFor, Step.condition, Step.header, Step.trueStep, Step.falseStep,
          Step.single, Step.branch, unlessEmpty]
  | retry =>
      cases retry <;>
        simp [handle, Step.retry, Step.header, Step.attempted, Step.recovery, executeAll,
          unlessEmpty]
  | fallback =>
      cases fallback <;>
        simp [handle, Step.fallback, Step.header, Step.primary, Step.alternative, executeAll,
          unlessEmpty]
  | loop =>
      cases loop <;>
        simp [handle, Step.loop, Step.header, Step.config, Step.iterated, Step.itemSource,
          executeAll]
  | _ => rfl

theorem execute_of_handler {step : Step} {handler : Handler σ}
    (handled : Entries.get? step.type executor.handlers = some handler) :
    executor.execute step = executor.complete step.header (handler step) := by
  obtain ⟨header, condition, loop, retry, fallback, trueStep, falseStep⟩ := step
  simp only [Step.type, Step.header] at handled
  unfold execute
  rw [handled]
  rfl

theorem execute_of_unknown {step : Step}
    (unhandled : Entries.get? step.type executor.handlers = none)
    (unknown : StepType.ofName? step.type = none) :
    executor.execute step = Action.raise (.unknownStepType (.text step.type)) := by
  obtain ⟨header, condition, loop, retry, fallback, trueStep, falseStep⟩ := step
  simp only [Step.type, Step.header] at unhandled unknown
  unfold execute
  rw [unhandled, unknown]
  rfl

/-- The state in which a step starts, once the line that reports it is written. -/
def opened (header : StepHeader) (state : State σ) : State σ :=
  { state with
    log := ⟨.debug, s!"Executing step {header.id} ({header.type})"⟩ :: state.log }

theorem complete_eq (header : StepHeader) (run : Action σ Value) (state : State σ) :
    executor.complete header run state =
      (run >>= fun output => do
        let duration ← Action.ofExcept
          (elapsedMs (executor.collaborators.now state.world) (← executor.now))
        Action.log .debug s!"Step {header.id} completed in {duration}ms"
        if header.outputVariable.truthy then
          Action.setVariables
            (← Action.ofExcept ((← Action.variables).assign header.outputVariable output))
        pure output) (opened header state) := rfl

/-- A step is cancelled exactly where what it does is. -/
theorem complete_cancelled_iff {header : StepHeader} {run : Action σ Value}
    {state after : State σ} :
    executor.complete header run state = (.cancelled, after) ↔
      run (opened header state) = (.cancelled, after) := by
  rw [complete_eq]
  refine Action.bind_cancelled_iff_of_steady fun output => ?_
  refine .bind (fun _ => nofun) fun stop => .bind (.ofExcept _) fun duration => ?_
  refine .bind (.log _ _) fun _ => ?_
  split
  · exact .bind .currentVariables fun scope => .bind (.ofExcept _) fun assigned =>
      .bind (.setVariables assigned) fun _ => .pure output
  · exact .pure output

theorem RunsAs.execute_cancelled_iff {step : Step} {kind : StepType} {state after : State σ}
    (runs : executor.RunsAs step kind) :
    executor.execute step state = (.cancelled, after) ↔
      executor.handle step kind (opened step.header state) = (.cancelled, after) := by
  rw [runs.execute_eq, complete_cancelled_iff]

/-- Judge a condition and report the verdict. -/
def judgeAndReport (executor : Executor σ) (header : StepHeader) (expression : Value) :
    Action σ Bool := do
  let verdict ← executor.judge expression
  Action.log .debug s!"Condition {header.id} evaluated to {(Value.bool verdict).display}"
  pure verdict

/-- Run what a condition holds for its verdict. -/
def runBranch (branchFor : Bool → Branch σ) (verdict : Bool) : Action σ Value :=
  if (branchFor true).single.isSome || (branchFor false).single.isSome then
    match (branchFor verdict).single with
    | some run => withResult verdict <$> run
    | none => pure (.object (verdictFields verdict))
  else
    match (branchFor verdict).listed with
    | some run => do
        let entries ← run
        pure (.object (verdictFields verdict ++ [("branch", entriesValue entries)]))
    | none => pure (.object (verdictFields verdict))

theorem choose_eq {header : StepHeader} {blockExpression expression : Value}
    {branchFor : Bool → Branch σ}
    (same : expression =
      if (Fields.valueOf "condition" header.config).isNull then blockExpression
      else Fields.valueOf "condition" header.config)
    (given : expression.isNull = false) :
    executor.choose header blockExpression (branchFor true) (branchFor false) =
      executor.judgeAndReport header expression >>= runBranch branchFor := by
  have chosen (verdict : Bool) :
      (if verdict = true then branchFor true else branchFor false) = branchFor verdict := by
    cases verdict <;> rfl
  unfold choose
  cases configured : Fields.valueOf "condition" header.config with
  | null =>
      rw [configured] at same
      obtain rfl : expression = blockExpression := same
      simp only [given, chosen, Bool.false_eq_true, if_false]
      rfl
  | _ =>
      rw [configured] at same
      obtain rfl := same
      simp only [chosen]
      rfl

theorem handle_condition {step : Step} (given : step.expression.isNull = false) :
    executor.handle step .condition =
      executor.judgeAndReport step.header step.expression >>=
        runBranch (executor.branchFor step) :=
  choose_eq rfl given

theorem handle_condition_of_null {step : Step} (null : step.expression.isNull = true)
    (state : State σ) :
    executor.handle step .condition state =
      (.failed (.engine (.stepConfig s!"Condition step {step.id} has no expression" [])),
        state) := by
  rw [Step.expression] at null
  rw [handle, choose]
  cases configured : Fields.valueOf "condition" step.config with
  | null =>
      rw [configured] at null
      have blockNull :
          ((step.condition.map ConditionBlock.expression).getD .null).isNull = true := null
      rw [Step.config] at configured
      simp only [configured, blockNull, if_true]
      rfl
  | _ => simp [configured, Value.isNull] at null

theorem runBranch_of_single {step inner : Step} {verdict : Bool}
    (chosen : step.single verdict = some inner) :
    runBranch (executor.branchFor step) verdict =
      withResult verdict <$> executor.execute inner := by
  have held : (executor.branchFor step verdict).single = some (executor.execute inner) := by
    simp [branchFor, chosen]
  have anyHeld : ((executor.branchFor step true).single.isSome ||
      (executor.branchFor step false).single.isSome) = true := by
    cases verdict <;> simp [held]
  rw [runBranch, if_pos anyHeld, held]

theorem runBranch_of_steps {step : Step} {verdict : Bool}
    (noSingle : step.trueStep = none ∧ step.falseStep = none)
    (nonempty : (step.branch verdict).isEmpty = false) :
    runBranch (executor.branchFor step) verdict =
      executor.executeAll (step.branch verdict) >>= fun entries =>
        pure (.object (verdictFields verdict ++ [("branch", entriesValue entries)])) := by
  have noneHeld (either : Bool) : (executor.branchFor step either).single = none := by
    cases either <;> simp [branchFor, Step.single, noSingle]
  have listed : (executor.branchFor step verdict).listed =
      some (executor.executeAll (step.branch verdict)) := by
    simp [branchFor, unlessEmpty, nonempty]
  simp [runBranch, noneHeld, listed]

/-- What a retry does once its attempts have ended. -/
def afterAttempts (executor : Executor σ) (step : Step) (plan : RetryPlan) :
    Except Failure (Nat × List StepEntry) → Action σ Value
  | .ok (number, entries) =>
      pure (.object [("attempts", .int number), ("results", entriesValue entries)])
  | .error failure =>
      match unlessEmpty step.recovery (executor.executeAll step.recovery) with
      | some run => do
          Action.log .info s!"Retry {step.id} exhausted, running recovery steps"
          let entries ← run
          pure (.object [("attempts", .int plan.attempts), ("recovered", .bool true),
            ("results", entriesValue entries)])
      | none =>
          Action.raise (.maxRetriesExceeded
            s!"Step {step.id} failed after {plan.attempts} attempts: {failure.message}"
            (.int plan.attempts) (some failure))

theorem handle_retry {step : Step} {plan : RetryPlan} (planned : executor.planOf step = .ok plan) :
    executor.handle step .retry =
      executor.attempt step.id plan (executor.executeAll step.attempted)
        (plan.attempts.toNat - 1) 1 >>= executor.afterAttempts step plan := by
  rw [planOf] at planned
  rw [handle, retrying, planned]
  rfl

theorem afterAttempts_of_recovery {step : Step} {plan : RetryPlan} {failure : Failure}
    (nonempty : step.recovery.isEmpty = false) (state : State σ) :
    executor.afterAttempts step plan (.error failure) state =
      (executor.executeAll step.recovery >>= fun entries =>
        pure (.object [("attempts", .int plan.attempts), ("recovered", .bool true),
          ("results", entriesValue entries)]))
        { state with
          log := ⟨.info, s!"Retry {step.id} exhausted, running recovery steps"⟩ :: state.log } := by
  simp [afterAttempts, unlessEmpty, nonempty]

/-- A state with the bindings of a loop as they were before it. -/
def restored (before : Variables) (state : State σ) : State σ :=
  { state with «variables» := restoreLoop before state.variables }

theorem handle_loop {step : Step} {items : List Value} (state : State σ)
    (resolved : resolveSource state.variables step.itemSource = .ok (.list items)) :
    executor.handle step .loop state =
      ((visitItems (executor.executeAll step.iterated) 0 items).ensure (restored state.variables)
        >>= fun results =>
          pure (.object [("iterations", .int items.length), ("results", .list results)]))
        state := by
  rw [handle, looping, Action.variables_bind_apply, resolved, Action.ofExcept_ok_bind_apply]
  rfl

end Executor

theorem elapsedMs_zero : elapsedMs (.zero false) (.zero false) = .ok 0 := by
  have nothing : ((Binary64.zero false).sub (.zero false)).mul (Binary64.ofNat 1000) =
      .zero false := by decide +kernel
  have whole : (Binary64.zero false).truncate? = some 0 := by decide +kernel
  rw [elapsedMs, nothing]
  exact congrArg (fun number : Option Int => Except.ok (number.getD 0)) whole

end Automation
