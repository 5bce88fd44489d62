import Automation.Proofs.Execution.Blindness
import Automation.Proofs.Execution.Escape

/-!
The verdict in the output of a condition.

A condition judges its expression in the variables that it finds and puts the verdict into its
output. Where a single step runs for the verdict, the fields of that step's output are added after
it, and a verdict among them takes the place of the condition's own. No other output does that: not
a list of steps, which stands under a name of its own, and not an output without fields.
-/

namespace Automation

namespace Executor

variable {σ : Type} {executor : Executor σ} {step inner : Step} {state after : State σ}
  {nested output : Value} {verdict : Bool}

/-- The fields of an output. -/
def outputFields (output : Value) : Fields := Bindings.named output.bindings

/-- What an output says the verdict is. -/
def reported? (output : Value) : Option Value :=
  Entries.get? "conditionResult" (outputFields output)

/-- The verdict of a condition in the given variables. -/
def verdictIn (executor : Executor σ) (step : Step) (scope : Variables) : Bool :=
  (Condition.evaluate executor.keywords step.expression scope.named).truth

theorem outputFields_withResult (verdict : Bool) (nested : Value) :
    outputFields (withResult verdict nested) =
      if nested.isObject then Entries.merge (verdictFields verdict) (outputFields nested)
      else verdictFields verdict ++ [("result", nested)] := by
  cases nested with
  | object fields => simp [withResult, outputFields, Value.bindings, Value.isObject]
  | mapping bindings =>
      rw [withResult, outputFields, Bindings.named_toValue, Bindings.named_merge,
        Bindings.named_ofFields]
      rfl
  | _ => simp [withResult, outputFields, Value.bindings, Value.isObject]

/-- The verdict in the output of the single step is reported, if there is one. -/
theorem reported?_withResult (distinct : (Entries.keys (outputFields nested)).Nodup) :
    reported? (withResult verdict nested) = some ((reported? nested).getD (.bool verdict)) := by
  rw [reported?, outputFields_withResult]
  split
  · rw [Entries.get?_merge distinct, reported?]
    cases Entries.get? "conditionResult" (outputFields nested) <;> rfl
  · rename_i noObject
    have noFields : outputFields nested = [] := by
      cases nested <;> first | rfl | exact absurd rfl noObject
    rw [reported?, noFields]
    rfl

theorem reported?_append (verdict : Bool) (fields : Fields) :
    reported? (.object (verdictFields verdict ++ fields)) = some (.bool verdict) := by
  simp [reported?, outputFields, Value.bindings, verdictFields, Entries.get?]

/-- Judging changes nothing but the log. -/
theorem exists_judged (executor : Executor σ) (step : Step) (state : State σ) :
    ∃ judged : State σ, judged.variables = state.variables ∧ judged.world = state.world ∧
      executor.judgeAndReport step.header step.expression state =
        (.done (executor.verdictIn step state.variables), judged) :=
  ⟨(executor.judgeAndReport step.header step.expression state).2, rfl, rfl, rfl⟩

theorem eq_of_keep {header : StepHeader} {result : Value}
    (kept : keep header result state = (.done output, after)) : result = output := by
  unfold keep at kept
  split at kept
  · obtain ⟨scope, _, _, kept⟩ := Action.bind_done_iff.mp kept
    obtain ⟨assigned, _, _, kept⟩ := Action.bind_done_iff.mp kept
    obtain ⟨_, _, _, kept⟩ := Action.bind_done_iff.mp kept
    cases kept
    rfl
  · cases kept
    rfl

/-- The output of a step is the output of what its type does. -/
theorem RunsAs.exists_handle_of_done {kind : StepType} (runs : executor.RunsAs step kind)
    (ended : executor.execute step state = (.done output, after)) :
    ∃ between, executor.handle step kind (opened step.header state) = (.done output, between) := by
  rw [runs.execute_eq, complete_eq] at ended
  obtain ⟨result, between, handled, ended⟩ := Action.bind_done_iff.mp ended
  obtain ⟨stop, _, _, ended⟩ := Action.bind_done_iff.mp ended
  obtain ⟨duration, _, _, ended⟩ := Action.bind_done_iff.mp ended
  obtain ⟨_, _, _, kept⟩ := Action.bind_done_iff.mp ended
  obtain rfl : result = output := eq_of_keep kept
  exact ⟨between, handled⟩

/-- Without a single step for its verdict, a condition reports the verdict. -/
theorem reported?_runBranch_of_none (noStep : step.single verdict = none)
    (ended : runBranch (executor.branchFor step) verdict state = (.done output, after)) :
    reported? output = some (.bool verdict) := by
  by_cases noSingle : step.trueStep = none ∧ step.falseStep = none
  · cases listed : step.branch verdict with
    | nil =>
        rw [runBranch_of_idle noStep fun _ => listed] at ended
        cases ended
        exact reported?_append verdict []
    | cons first rest =>
        rw [runBranch_of_steps noSingle (by simp [listed])] at ended
        obtain ⟨entries, _, _, ended⟩ := Action.bind_done_iff.mp ended
        cases ended
        exact reported?_append verdict _
  · rw [runBranch_of_idle noStep fun none => absurd none noSingle] at ended
    cases ended
    exact reported?_append verdict []

/-- The output of a condition reports its verdict in the variables as they were before the step,
unless the single step for that verdict ends with an output that reports one: then it reports
that. -/
theorem condition_reports (runs : executor.RunsAs step .condition)
    (ended : executor.execute step state = (.done output, after)) :
    let verdict := executor.verdictIn step state.variables
    (step.single verdict = none → reported? output = some (.bool verdict)) ∧
      ∀ inner, step.single verdict = some inner →
        ∃ judged nested left, judged.variables = state.variables ∧ judged.world = state.world ∧
          executor.execute inner judged = (.done nested, left) ∧
            ((Entries.keys (outputFields nested)).Nodup →
              reported? output = some ((reported? nested).getD (.bool verdict))) := by
  intro verdict
  obtain ⟨between, handled⟩ := runs.exists_handle_of_done ended
  have given : step.expression.isNull = false := by
    rw [Bool.eq_false_iff]
    intro null
    rw [handle_condition_of_null null] at handled
    cases handled
  obtain ⟨judged, sameVariables, sameWorld, found⟩ :=
    exists_judged executor step (opened step.header state)
  rw [handle_condition given, Action.bind_of_done found] at handled
  refine ⟨fun noStep => reported?_runBranch_of_none noStep handled, fun inner chosen => ?_⟩
  replace handled : (withResult verdict <$> executor.execute inner) judged =
      (.done output, between) := (congrFun (runBranch_of_single chosen) judged).symm.trans handled
  obtain ⟨nested, left, ran, merged⟩ := Action.bind_done_iff.mp handled
  refine ⟨judged, nested, left, sameVariables, sameWorld, ran, fun distinct => ?_⟩
  cases merged
  exact reported?_withResult distinct

/-- A condition whose output goes nowhere succeeds where what it runs for its verdict does. -/
theorem RunsAs.exists_execute_of_runBranch (clock : executor.ClockIsFinite)
    (runs : executor.RunsAs step .condition) (given : step.expression.isNull = false)
    (unnamed : step.header.outputVariable.truthy = false)
    (ran : ∀ judged : State σ, judged.variables = state.variables → ∃ between,
      runBranch (executor.branchFor step) (executor.verdictIn step state.variables) judged =
        (.done output, between)) :
    ∃ after, executor.execute step state = (.done output, after) := by
  obtain ⟨judged, sameVariables, _, found⟩ :=
    exists_judged executor step (opened step.header state)
  obtain ⟨between, ended⟩ := ran judged sameVariables
  have handled : executor.handle step .condition (opened step.header state) =
      (.done output, between) := by
    rw [handle_condition given, Action.bind_of_done found]
    exact ended
  exact ⟨_, Prod.ext ((runs.endsAs clock handled).outcome_eq unnamed) rfl⟩

section

/-- A condition that holds, over one that does not, as they are stored. -/
def opposedConditionsData : Value :=
  .object [("id", .text "outer"), ("type", .text "condition"),
    ("config", .object [("condition", .text "true"), ("trueStep",
      .object [("id", .text "inner"), ("type", .text "condition"),
        ("config", .object [("condition", .text "false")])])])]

/-- A condition that does not hold. -/
def innerCondition : Step :=
  .mk ⟨"inner", "condition", "", [("condition", .text "false")], true, .null, none, none, none,
    none⟩ none none none none none none

/-- A condition that holds, over one that does not. -/
def opposedConditions : Step :=
  .mk ⟨"outer", "condition", "", (Fields.valueOf "config" opposedConditionsData.fields).fields,
    true, .null, none, none, none, none⟩ none none none none (some innerCondition) none

theorem exists_execute_innerCondition (state : State Unit) (fresh : state.variables = ⟨[]⟩) :
    ∃ after, cancellingExecutor.execute innerCondition state =
      (.done (.object (verdictFields false)), after) := by
  have clock : cancellingExecutor.ClockIsFinite := isReliable_cancellingExecutor.clock
  refine RunsAs.exists_execute_of_runBranch clock ⟨rfl, rfl⟩ rfl rfl fun judged _ => ?_
  have verdict : cancellingExecutor.verdictIn innerCondition ⟨[]⟩ = false := by decide +kernel
  rw [fresh, verdict, runBranch_of_idle rfl fun _ => rfl]
  exact ⟨judged, rfl⟩

theorem exists_execute_opposedConditions (state : State Unit) (fresh : state.variables = ⟨[]⟩) :
    ∃ after, cancellingExecutor.execute opposedConditions state =
      (.done (.object (verdictFields false)), after) := by
  have clock : cancellingExecutor.ClockIsFinite := isReliable_cancellingExecutor.clock
  refine RunsAs.exists_execute_of_runBranch clock ⟨rfl, rfl⟩ rfl rfl fun judged same => ?_
  have verdict : cancellingExecutor.verdictIn opposedConditions ⟨[]⟩ = true := by decide +kernel
  obtain ⟨between, ran⟩ := exists_execute_innerCondition judged (same.trans fresh)
  have chosen : opposedConditions.single true = some innerCondition := rfl
  rw [fresh, verdict, runBranch_of_single chosen]
  exact ⟨between, Action.bind_of_done ran⟩

theorem execute_of_opposedConditions :
    let state : State Unit := ⟨⟨[]⟩, [], ()⟩
    opposedConditionsData.isJson = true ∧
      Step.read "step" opposedConditionsData = .ok opposedConditions ∧
      cancellingExecutor.RunsAs opposedConditions .condition ∧
      cancellingExecutor.verdictIn opposedConditions state.variables = true ∧
      ∃ output after, cancellingExecutor.execute opposedConditions state = (.done output, after) ∧
        reported? output = some (.bool false) := by
  intro state
  have stored : Step.read "step" opposedConditionsData = .ok opposedConditions := by cbv
  obtain ⟨after, ended⟩ := exists_execute_opposedConditions state rfl
  exact ⟨by decide, stored, ⟨rfl, rfl⟩, by decide +kernel, _, after, ended, rfl⟩

theorem condition_reports_of_opposedConditions :
    let state : State Unit := ⟨⟨[]⟩, [], ()⟩
    (cancellingExecutor.RunsAs innerCondition .condition ∧
      ∃ output after, cancellingExecutor.execute innerCondition state = (.done output, after) ∧
        reported? output = some (.bool false)) ∧
    cancellingExecutor.RunsAs opposedConditions .condition ∧
      ∃ output after, cancellingExecutor.execute opposedConditions state = (.done output, after) ∧
        ∃ judged nested left, judged.variables = state.variables ∧
          cancellingExecutor.execute innerCondition judged = (.done nested, left) ∧
            reported? output = some ((reported? nested).getD (.bool true)) := by
  intro state
  have innerRuns : cancellingExecutor.RunsAs innerCondition .condition := ⟨rfl, rfl⟩
  have runs : cancellingExecutor.RunsAs opposedConditions .condition := ⟨rfl, rfl⟩
  have innerVerdict : cancellingExecutor.verdictIn innerCondition ⟨[]⟩ = false := by decide +kernel
  have verdict : cancellingExecutor.verdictIn opposedConditions ⟨[]⟩ = true := by decide +kernel
  obtain ⟨innerAfter, innerEnded⟩ := exists_execute_innerCondition state rfl
  obtain ⟨after, ended⟩ := exists_execute_opposedConditions state rfl
  have innerReported := (condition_reports innerRuns innerEnded).1
  have reported := (condition_reports runs ended).2
  rw [innerVerdict] at innerReported
  rw [verdict] at reported
  obtain ⟨judged, nested, left, same, _, ran, reports⟩ := reported innerCondition rfl
  refine ⟨⟨innerRuns, _, innerAfter, innerEnded, innerReported rfl⟩, runs, _, after, ended,
    judged, nested, left, same, ran, reports ?_⟩
  obtain ⟨innerLeft, alsoRan⟩ := exists_execute_innerCondition judged same
  rw [ran] at alsoRan
  cases alsoRan
  decide +kernel

end

end Executor
end Automation
