import Automation.Proofs.Blueprint.RoundTrip
import Automation.Proofs.Execution.Frame
import Automation.Proofs.Execution.Slips

/-!
Which faults escape from a step.

A fault is a failure that is no error of steps. It comes from a step that slips, that waits for no
number of seconds, that has a response without a text, or that has no name for the variable that
takes its output. The attempts of a retry and the primary steps of a fallback with an alternative
keep it in, and so does a list for a step that lets the list go on; from every other place it passes
on to the step around.
-/

namespace Automation.Executor

variable {σ : Type} {executor : Executor σ} {step : Step} {kind : StepType} {failure : Failure}
  {state start : State σ}

/-- The lists of steps that a composite step hands on the failure of, and the states in which it
runs them. -/
inductive HandsOn (executor : Executor σ) : Step → State σ → List Step → State σ → Prop where
  | branch {step : Step} {state start : State σ} {verdict : Bool}
      (runs : executor.RunsAs step .condition) (given : step.expression.isNull = false)
      (judged : executor.judgeAndReport step.header step.expression (opened step.header state) =
        (.done verdict, start))
      (noSingle : step.trueStep = none ∧ step.falseStep = none) :
      HandsOn executor step state (step.branch verdict) start
  | recovery {step : Step} {state exhausted : State σ} {plan : RetryPlan} {failure : Failure}
      (runs : executor.RunsAs step .retry) (planned : executor.planOf step = .ok plan)
      (fails : executor.attempt step.id plan (executor.executeAll step.attempted)
        (plan.attempts.toNat - 1) 1 (opened step.header state) =
          (.done (.error failure), exhausted)) :
      HandsOn executor step state step.recovery
        { exhausted with
          log := ⟨.info, s!"Retry {step.id} exhausted, running recovery steps"⟩ :: exhausted.log }
  | primary {step : Step} {state : State σ} (runs : executor.RunsAs step .fallback)
      (noAlternative : step.alternative = []) :
      HandsOn executor step state step.primary (opened step.header state)
  | alternative {step : Step} {state failed : State σ} {failure : Failure}
      (runs : executor.RunsAs step .fallback)
      (fails : executor.executeAll step.primary (opened step.header state) =
        (.failed failure, failed)) :
      HandsOn executor step state step.alternative
        { failed with
          log := ⟨.warning,
            s!"Primary steps of {step.id} failed, using fallback: {failure.message}"⟩
              :: failed.log }
  | iteration {step : Step} {state start : State σ} {items : List Value}
      (runs : executor.RunsAs step .loop)
      (resolved : resolveSource state.variables step.itemSource = .ok (.list items))
      (iterated : IterationStarts (executor.executeAll step.iterated) 0 items
        (opened step.header state) start) :
      HandsOn executor step state step.iterated start

/-- A composite step comes to a step directly inside it whose failure is its own. -/
inductive PassesUp (executor : Executor σ) : Step → State σ → Step → State σ → Prop where
  | single {step inner : Step} {state start : State σ} {verdict : Bool}
      (runs : executor.RunsAs step .condition) (given : step.expression.isNull = false)
      (judged : executor.judgeAndReport step.header step.expression (opened step.header state) =
        (.done verdict, start))
      (chosen : step.single verdict = some inner) : PassesUp executor step state inner start
  | listed {step inner : Step} {steps : List Step} {state listStart start : State σ}
      (handsOn : executor.HandsOn step state steps listStart)
      (enters : executor.ListEnters steps listStart inner start)
      (stops : inner.header.stopOnError = true) : PassesUp executor step state inner start

/-- A fault escapes from a step that is executed in a state. -/
inductive Escapes (executor : Executor σ) : Step → State σ → Failure → Prop where
  | slip {step : Step} {kind : StepType} {state : State σ} {failure : Failure}
      (runs : executor.RunsAs step kind)
      (slips : executor.Slips step state.variables kind failure) :
      Escapes executor step state failure
  | stall {step : Step} {state : State σ} {failure : Failure}
      (runs : executor.RunsAs step .delay) (stalls : executor.Stalls step state failure)
      (fault : failure.isStepError = false) : Escapes executor step state failure
  | garbled {step : Step} {state : State σ} {failure : Failure}
      (runs : executor.RunsAs step .webhook) (garbles : executor.Garbles step state failure)
      (fault : failure.isStepError = false) : Escapes executor step state failure
  | unnamed {step : Step} {kind : StepType} {state between : State σ} {output : Value}
      {failure : Failure} (runs : executor.RunsAs step kind)
      (handled : executor.handle step kind (opened step.header state) = (.done output, between))
      (wanted : step.header.outputVariable.truthy = true)
      (noName : Variables.checkName step.header.outputVariable = .error failure) :
      Escapes executor step state failure
  | inside {step inner : Step} {state start : State σ} {failure : Failure}
      (passesUp : executor.PassesUp step state inner start)
      (escapes : Escapes executor inner start failure) : Escapes executor step state failure

theorem fails_entry_iff {header : StepHeader} {run : Action σ Value} :
    Action.Fails (entry header run) state failure ↔
      header.stopOnError = true ∧ Action.Fails run state failure := by
  cases ended : run state with
  | mk outcome after =>
      cases outcome with
      | done output => simp [Action.Fails, entry_of_done ended, ended]
      | failed first =>
          cases stops : header.stopOnError with
          | true => simp [Action.Fails, entry_of_failed_stopping ended stops, ended]
          | false => simp [Action.Fails, entry_of_failed_goingOn ended stops]
      | cancelled => simp [Action.Fails, entry_of_cancelled ended, ended]

/-- A list of steps fails as a step that it comes to and that does not let it go on. -/
theorem fails_executeAll_iff {steps : List Step} :
    Action.Fails (executor.executeAll steps) state failure ↔
      ∃ inner start, executor.ListEnters steps state inner start ∧
        inner.header.stopOnError = true ∧ Action.Fails (executor.execute inner) start failure := by
  induction steps generalizing state with
  | nil =>
      rw [executeAll]
      refine iff_of_false Action.not_fails_done ?_
      rintro ⟨_, _, enters, _⟩
      cases enters
  | cons step rest inductionHypothesis =>
      rw [executeAll, Action.fails_bind_iff, fails_entry_iff]
      constructor
      · rintro (⟨stops, fails⟩ | ⟨result, between, ended, fails⟩)
        · exact ⟨step, state, .first, stops, fails⟩
        · rw [Action.fails_bind_pure_iff, inductionHypothesis] at fails
          obtain ⟨inner, start, enters, stops, failsInner⟩ := fails
          exact ⟨inner, start, .later ended enters, stops, failsInner⟩
      · rintro ⟨inner, start, enters, stops, fails⟩
        cases enters with
        | first => exact .inl ⟨stops, fails⟩
        | later ended further =>
            refine .inr ⟨_, _, ended, ?_⟩
            rw [Action.fails_bind_pure_iff, inductionHypothesis]
            exact ⟨inner, start, further, stops, fails⟩

theorem fails_visitItems_iff {body : Action σ (List StepEntry)} {position : Nat}
    {items : List Value} :
    Action.Fails (visitItems body position items) state failure ↔
      ∃ start, IterationStarts body position items state start ∧
        Action.Fails body start failure := by
  induction items generalizing position state with
  | nil =>
      refine iff_of_false Action.not_fails_done ?_
      rintro ⟨_, starts, _⟩
      cases starts
  | cons item rest inductionHypothesis =>
      rw [Action.Fails, visitItems_cons, ← Action.Fails, Action.fails_bind_iff]
      constructor
      · rintro (fails | ⟨entries, between, ended, fails⟩)
        · exact ⟨_, .first, fails⟩
        · rw [Action.fails_bind_pure_iff, inductionHypothesis] at fails
          obtain ⟨start, starts, failsBody⟩ := fails
          exact ⟨start, .later ended starts, failsBody⟩
      · rintro ⟨start, starts, fails⟩
        cases starts with
        | first => exact .inl fails
        | later ended further =>
            refine .inr ⟨_, _, ended, ?_⟩
            rw [Action.fails_bind_pure_iff, inductionHypothesis]
            exact ⟨start, further, fails⟩

theorem not_fails_pause (reliable : executor.IsReliable) {id : String} {plan : RetryPlan}
    {number : Nat} {first : Failure} :
    ¬Action.Fails (executor.pause id plan number first) state failure := by
  intro fails
  rw [pause, Action.Fails, Action.log_bind_apply, ← Action.Fails] at fails
  split at fails
  · next positive =>
      obtain ⟨payload, noNumber⟩ := reliable.sleeps _ _ _ fails
      simp [noNumber, Binary64.isPositive] at positive
  · exact Action.not_fails_done fails

theorem not_fails_settle {α : Type} {action : Action σ α} :
    ¬Action.Fails action.settle state failure := by
  simp [Action.settle, Action.fails_recover_iff]

/-- The attempts of a retry end with a result, or are cancelled. -/
theorem not_fails_attempt (reliable : executor.IsReliable) {id : String} {plan : RetryPlan}
    {body : Action σ (List StepEntry)} {left number : Nat} :
    ¬Action.Fails (executor.attempt id plan body left number) state failure := by
  induction left generalizing number state with
  | zero =>
      intro fails
      rw [attempt_eq, Action.fails_bind_iff] at fails
      rcases fails with settles | ⟨result, between, _, further⟩
      · exact not_fails_settle settles
      · cases result with
        | ok entries => exact Action.not_fails_pure further
        | error first => cases further
  | succ left inductionHypothesis =>
      intro fails
      rw [attempt_eq, Action.fails_bind_iff] at fails
      rcases fails with settles | ⟨result, between, _, further⟩
      · exact not_fails_settle settles
      · cases result with
        | ok entries => exact Action.not_fails_pure further
        | error first =>
            rw [afterAttempt, Action.fails_bind_iff] at further
            rcases further with pauses | ⟨_, paused, _, again⟩
            · exact not_fails_pause reliable pauses
            · exact inductionHypothesis again

theorem fails_keep_iff {header : StepHeader} {output : Value} :
    Action.Fails (keep header output) state failure ↔
      header.outputVariable.truthy = true ∧
        Variables.checkName header.outputVariable = .error failure := by
  unfold keep
  split
  · next wanted =>
      rw [Action.Fails, Action.variables_bind_apply, ← Action.Fails]
      simp [Action.fails_bind_iff, wanted, Variables.assign, bind_eq_error_iff]
  · next unwanted => simp [unwanted]

theorem RunsAs.fails_execute_iff (clock : executor.ClockIsFinite)
    (runs : executor.RunsAs step kind) :
    Action.Fails (executor.execute step) state failure ↔
      Action.Fails (executor.handle step kind) (opened step.header state) failure ∨
        ∃ output between,
          executor.handle step kind (opened step.header state) = (.done output, between) ∧
            step.header.outputVariable.truthy = true ∧
              Variables.checkName step.header.outputVariable = .error failure := by
  rw [runs.execute_eq, Action.Fails, complete_eq, ← Action.Fails, Action.fails_bind_iff]
  refine or_congr_right (exists₂_congr fun output between => and_congr_right fun _ => ?_)
  obtain ⟨durationMs, elapsed⟩ := clock state.world between.world
  change Action.Fails (Action.ofExcept (elapsedMs _ _) >>= fun duration => _) between failure ↔ _
  rw [elapsed]
  exact fails_keep_iff

theorem RunsAs.fails_execute (clock : executor.ClockIsFinite) (runs : executor.RunsAs step kind)
    (fails : Action.Fails (executor.handle step kind) (opened step.header state) failure) :
    Action.Fails (executor.execute step) state failure :=
  (runs.fails_execute_iff clock).mpr (.inl fails)

theorem single_eq_none (noSingle : step.trueStep = none ∧ step.falseStep = none) (verdict : Bool) :
    step.single verdict = none := by
  cases verdict
  · exact noSingle.2
  · exact noSingle.1

theorem runBranch_of_idle {verdict : Bool} (noStep : step.single verdict = none)
    (noList : step.trueStep = none ∧ step.falseStep = none → step.branch verdict = []) :
    runBranch (executor.branchFor step) verdict = pure (.object (verdictFields verdict)) := by
  by_cases noSingle : step.trueStep = none ∧ step.falseStep = none
  · simp [runBranch, branchFor, single_eq_none noSingle, unlessEmpty, noList noSingle]
  · have anyHeld : ((executor.branchFor step true).single.isSome ||
        (executor.branchFor step false).single.isSome) = true := by
      cases first : step.trueStep <;> cases second : step.falseStep <;>
        simp_all [branchFor, Step.single]
    rw [runBranch, if_pos anyHeld]
    simp [branchFor, noStep]

theorem fails_runBranch_iff {verdict : Bool} :
    Action.Fails (runBranch (executor.branchFor step) verdict) state failure ↔
      (∃ inner, step.single verdict = some inner ∧
        Action.Fails (executor.execute inner) state failure) ∨
      (step.trueStep = none ∧ step.falseStep = none) ∧
        Action.Fails (executor.executeAll (step.branch verdict)) state failure := by
  cases chosen : step.single verdict with
  | some inner =>
      have single : ¬(step.trueStep = none ∧ step.falseStep = none) := by
        intro noSingle
        simp [single_eq_none noSingle] at chosen
      rw [runBranch_of_single chosen]
      refine Action.fails_bind_pure_iff.trans ?_
      simp [single]
  | none =>
      by_cases noSingle : step.trueStep = none ∧ step.falseStep = none
      · cases listed : step.branch verdict with
        | nil =>
            rw [runBranch_of_idle chosen fun _ => listed, executeAll]
            simp [noSingle]
        | cons first rest =>
            rw [runBranch_of_steps noSingle (by simp [listed]), Action.fails_bind_pure_iff, listed]
            simp [noSingle]
      · rw [runBranch_of_idle chosen fun both => (noSingle both).elim]
        simp [noSingle]

section

variable (fault : failure.isStepError = false)

include fault

theorem fails_handle_condition_iff :
    Action.Fails (executor.handle step .condition) state failure ↔
      step.expression.isNull = false ∧ ∃ verdict judged,
        executor.judgeAndReport step.header step.expression state = (.done verdict, judged) ∧
          Action.Fails (runBranch (executor.branchFor step) verdict) judged failure := by
  cases given : step.expression.isNull with
  | true =>
      refine iff_of_false (fun fails => ?_) (by simp)
      rw [Action.Fails, handle_condition_of_null given] at fails
      cases fails
      cases fault
  | false =>
      rw [handle_condition given, Action.fails_bind_iff]
      simp only [true_and]
      apply or_iff_right
      intro fails
      cases fails

theorem fails_handle_retry_iff (reliable : executor.IsReliable) :
    Action.Fails (executor.handle step .retry) state failure ↔
      executor.planOf step = .error failure ∨
        ∃ plan first exhausted, executor.planOf step = .ok plan ∧
          executor.attempt step.id plan (executor.executeAll step.attempted)
            (plan.attempts.toNat - 1) 1 state = (.done (.error first), exhausted) ∧
          Action.Fails (executor.executeAll step.recovery)
            { exhausted with
              log := ⟨.info, s!"Retry {step.id} exhausted, running recovery steps"⟩
                :: exhausted.log } failure := by
  rw [handle, retrying, ← planOf, Action.fails_bind_iff, Action.fails_ofExcept_iff]
  refine or_congr_right ⟨?_, ?_⟩
  · rintro ⟨plan, _, planned, fails⟩
    obtain ⟨isPlan, rfl⟩ := Action.ofExcept_eq_done_iff.mp planned
    rcases Action.fails_bind_iff.mp fails with attempting | ⟨ended, exhausted, attempted, handled⟩
    · exact (not_fails_attempt reliable attempting).elim
    · cases ended with
      | ok ended => exact (Action.not_fails_pure handled).elim
      | error first =>
          refine ⟨plan, first, exhausted, isPlan, attempted, ?_⟩
          cases recovery : step.recovery with
          | nil =>
              rw [recovery] at handled
              cases handled
              cases fault
          | cons inner rest =>
              rw [recovery] at handled
              exact Action.fails_bind_pure_iff.mp handled
  · rintro ⟨plan, first, exhausted, isPlan, attempted, fails⟩
    refine ⟨plan, state, Action.ofExcept_eq_done_iff.mpr ⟨isPlan, rfl⟩, ?_⟩
    refine (Action.fails_bind_of_done attempted).mpr ?_
    cases recovery : step.recovery with
    | nil =>
        rw [recovery, executeAll] at fails
        exact (Action.not_fails_done fails).elim
    | cons inner rest =>
        rw [recovery] at fails
        exact Action.fails_bind_pure_iff.mpr fails

end

theorem fails_handle_fallback_iff :
    Action.Fails (executor.handle step .fallback) state failure ↔
      step.alternative = [] ∧ Action.Fails (executor.executeAll step.primary) state failure ∨
        ∃ first failed, executor.executeAll step.primary state = (.failed first, failed) ∧
          Action.Fails (executor.executeAll step.alternative)
            { failed with
              log := ⟨.warning,
                s!"Primary steps of {step.id} failed, using fallback: {first.message}"⟩
                  :: failed.log } failure := by
  rw [handle, fallingBack, Action.fails_recover_iff]
  cases alternative : step.alternative with
  | nil =>
      constructor
      · rintro ⟨first, failed, ended, fails⟩
        cases fails
        exact .inl ⟨rfl, Action.fails_bind_pure_iff.mp (Action.fails_of_eq ended)⟩
      · rintro (⟨_, fails⟩ | ⟨first, failed, _, fails⟩)
        · obtain ⟨failed, ended⟩ := (Action.fails_bind_pure_iff.mpr fails).exists_eq
          exact ⟨failure, failed, ended, rfl⟩
        · rw [executeAll] at fails
          exact (Action.not_fails_done fails).elim
  | cons inner rest =>
      constructor
      · rintro ⟨first, failed, ended, fails⟩
        exact .inr ⟨first, failed, Action.failed_of_bind_pure_failed ended,
          Action.fails_bind_pure_iff.mp fails⟩
      · rintro (⟨none, _⟩ | ⟨first, failed, ended, fails⟩)
        · cases none
        · exact ⟨first, failed, Action.bind_of_failed ended, Action.fails_bind_pure_iff.mpr fails⟩

theorem fails_noList_iff (fault : failure.isStepError = false) {header : StepHeader}
    {source : Value} :
    Action.Fails (Action.ofExcept (noList header source)) state failure ↔
      source.isPrintable = false ∧ failure = .unprintableInteger := by
  rw [Action.fails_ofExcept_iff]
  apply refusal_eq_fault_iff fault
  intro shown
  rfl

theorem fails_handle_loop_iff (fault : failure.isStepError = false) :
    Action.Fails (executor.handle step .loop) state failure ↔
      executor.Slips step state.variables .loop failure ∨
        ∃ items, resolveSource state.variables step.itemSource = .ok (.list items) ∧
          Action.Fails (visitItems (executor.executeAll step.iterated) 0 items) state failure := by
  rw [handle, looping, Action.Fails, Action.variables_bind_apply, ← Action.Fails,
    Action.fails_bind_iff, Action.fails_ofExcept_iff]
  constructor
  · rintro (unfillable | ⟨found, between, resolved, fails⟩)
    · exact .inl (.source unfillable)
    · obtain ⟨resolved, rfl⟩ := Action.ofExcept_eq_done_iff.mp resolved
      by_cases listed : ∃ items, found = .list items
      · obtain ⟨items, rfl⟩ := listed
        refine .inr ⟨items, resolved, ?_⟩
        exact Action.fails_ensure_iff.mp (Action.fails_bind_pure_iff.mp fails)
      · have listed (items : List Value) : found ≠ .list items :=
          fun isList => listed ⟨items, isList⟩
        have unlisted : Action.Fails (Action.ofExcept (noList step.header step.itemSource)) between
            failure := by
          cases found with
          | list items => exact (listed items rfl).elim
          | _ => exact fails
        obtain ⟨notPrinted, rfl⟩ := (fails_noList_iff fault).mp unlisted
        exact .inl (.unprintedSource resolved listed notPrinted)
  · rintro (slips | ⟨items, resolved, fails⟩)
    · cases slips with
      | source unfillable => exact .inl unfillable
      | @unprintedSource found resolved listed notPrinted =>
          refine .inr ⟨found, state, Action.ofExcept_eq_done_iff.mpr ⟨resolved, rfl⟩, ?_⟩
          have unlisted :
              Action.Fails (Action.ofExcept (noList step.header step.itemSource)) state _ :=
            (fails_noList_iff fault).mpr ⟨notPrinted, rfl⟩
          cases found with
          | list items => exact (listed items rfl).elim
          | _ => exact unlisted
      | configuration resolves => simp at resolves
      | request requests => simp at requests
    · refine .inr ⟨.list items, state, Action.ofExcept_eq_done_iff.mpr ⟨resolved, rfl⟩, ?_⟩
      exact Action.fails_bind_pure_iff.mpr (Action.fails_ensure_iff.mpr fails)

theorem ListEnters.mem {steps : List Step} {inner : Step}
    (enters : executor.ListEnters steps state inner start) : inner ∈ steps := by
  induction enters with
  | first => exact List.mem_cons_self
  | later _ _ member => exact List.mem_cons_of_mem _ member

theorem HandsOn.mem_children {steps : List Step} {inner : Step}
    (handsOn : executor.HandsOn step state steps start) (member : inner ∈ steps) :
    inner ∈ step.children := by
  have listed : steps ∈ step.lists := by
    cases handsOn with
    | branch =>
        unfold Step.branch
        split <;> simp [Step.lists]
    | recovery => simp [Step.lists, Step.recovery]
    | primary => simp [Step.lists, Step.primary]
    | alternative => simp [Step.lists, Step.alternative]
    | iteration => simp [Step.lists, Step.iterated]
  exact Step.mem_children_iff.mpr (.inl (List.mem_flatten_of_mem listed member))

theorem PassesUp.mem_children {inner : Step}
    (passesUp : executor.PassesUp step state inner start) : inner ∈ step.children := by
  cases passesUp with
  | single _ _ _ chosen =>
      refine Step.mem_children_iff.mpr (.inr ?_)
      unfold Step.single at chosen
      split at chosen
      · exact .inl chosen
      · exact .inr chosen
  | listed handsOn enters _ => exact handsOn.mem_children enters.mem

section

variable (reliable : executor.IsReliable) (fault : failure.isStepError = false)

include reliable fault

theorem HandsOn.fails_execute {steps : List Step}
    (handsOn : executor.HandsOn step state steps start)
    (fails : Action.Fails (executor.executeAll steps) start failure) :
    Action.Fails (executor.execute step) state failure := by
  cases handsOn with
  | branch runs given judged noSingle =>
      apply runs.fails_execute reliable.clock
      refine (fails_handle_condition_iff fault).mpr ⟨given, _, _, judged, ?_⟩
      exact fails_runBranch_iff.mpr (.inr ⟨noSingle, fails⟩)
  | recovery runs planned exhausted =>
      apply runs.fails_execute reliable.clock
      exact (fails_handle_retry_iff fault reliable).mpr
        (.inr ⟨_, _, _, planned, exhausted, fails⟩)
  | primary runs noAlternative =>
      apply runs.fails_execute reliable.clock
      exact fails_handle_fallback_iff.mpr (.inl ⟨noAlternative, fails⟩)
  | alternative runs failed =>
      apply runs.fails_execute reliable.clock
      exact fails_handle_fallback_iff.mpr (.inr ⟨_, _, failed, fails⟩)
  | iteration runs resolved iterated =>
      apply runs.fails_execute reliable.clock
      refine (fails_handle_loop_iff fault).mpr (.inr ⟨_, resolved, ?_⟩)
      exact fails_visitItems_iff.mpr ⟨_, iterated, fails⟩

theorem PassesUp.fails_execute {inner : Step}
    (passesUp : executor.PassesUp step state inner start)
    (fails : Action.Fails (executor.execute inner) start failure) :
    Action.Fails (executor.execute step) state failure := by
  cases passesUp with
  | single runs given judged chosen =>
      apply runs.fails_execute reliable.clock
      refine (fails_handle_condition_iff fault).mpr ⟨given, _, _, judged, ?_⟩
      exact fails_runBranch_iff.mpr (.inl ⟨_, chosen, fails⟩)
  | listed handsOn enters stops =>
      apply handsOn.fails_execute reliable fault
      exact fails_executeAll_iff.mpr ⟨_, _, enters, stops, fails⟩

/-- A fault that what runs a step fails with is the step's own, or that of a step directly inside
it. -/
theorem escapes_or_passesUp_of_fails (runs : executor.RunsAs step kind)
    (fails : Action.Fails (executor.handle step kind) (opened step.header state) failure) :
    executor.Escapes step state failure ∨
      ∃ inner start, executor.PassesUp step state inner start ∧
        Action.Fails (executor.execute inner) start failure := by
  have ofList {steps : List Step} {start : State σ}
      (handsOn : executor.HandsOn step state steps start)
      (failsList : Action.Fails (executor.executeAll steps) start failure) :
      ∃ inner start, executor.PassesUp step state inner start ∧
        Action.Fails (executor.execute inner) start failure := by
    obtain ⟨inner, innerStart, enters, stops, failsInner⟩ := fails_executeAll_iff.mp failsList
    exact ⟨inner, innerStart, .listed handsOn enters stops, failsInner⟩
  cases kind with
  | apiCall =>
      have slips := (fails_handle_apiCall_iff fault reliable).mp fails
      exact .inl (.slip runs slips)
  | webhook =>
      rcases (fails_handle_webhook_iff fault reliable).mp fails with slips | garbles
      · exact .inl (.slip runs slips)
      · exact .inl (.garbled runs garbles fault)
  | agentCall =>
      have slips := (fails_handle_agentCall_iff fault).mp fails
      exact .inl (.slip runs slips)
  | delay =>
      rcases (fails_handle_delay_iff fault).mp fails with slips | stalls
      · exact .inl (.slip runs slips)
      · exact .inl (.stall runs stalls fault)
  | condition =>
      obtain ⟨given, verdict, judged, found, failsBranch⟩ :=
        (fails_handle_condition_iff fault).mp fails
      rcases fails_runBranch_iff.mp failsBranch with
        ⟨inner, chosen, failsInner⟩ | ⟨noSingle, failsList⟩
      · exact .inr ⟨inner, judged, .single runs given found chosen, failsInner⟩
      · exact .inr (ofList (.branch runs given found noSingle) failsList)
  | retry =>
      rcases (fails_handle_retry_iff fault reliable).mp fails with
        unplanned | ⟨plan, first, exhausted, planned, attempted, failsList⟩
      · exact .inl (.slip runs ((planOf_eq_fault_iff fault).mp unplanned))
      · exact .inr (ofList (.recovery runs planned attempted) failsList)
  | fallback =>
      rcases fails_handle_fallback_iff.mp fails with
        ⟨noAlternative, failsList⟩ | ⟨first, failed, ended, failsList⟩
      · exact .inr (ofList (.primary runs noAlternative) failsList)
      · exact .inr (ofList (.alternative runs ended) failsList)
  | loop =>
      rcases (fails_handle_loop_iff fault).mp fails with slips | ⟨items, resolved, failsItems⟩
      · exact .inl (.slip runs slips)
      · obtain ⟨start, iterated, failsList⟩ := fails_visitItems_iff.mp failsItems
        exact .inr (ofList (.iteration runs resolved iterated) failsList)

theorem Slips.fails_execute (runs : executor.RunsAs step kind)
    (slips : executor.Slips step state.variables kind failure) :
    Action.Fails (executor.execute step) state failure := by
  apply runs.fails_execute reliable.clock
  cases kind with
  | apiCall => exact (fails_handle_apiCall_iff fault reliable).mpr slips
  | webhook => exact (fails_handle_webhook_iff fault reliable).mpr (.inl slips)
  | agentCall => exact (fails_handle_agentCall_iff fault).mpr slips
  | delay => exact (fails_handle_delay_iff fault).mpr (.inl slips)
  | retry =>
      exact (fails_handle_retry_iff fault reliable).mpr
        (.inl ((planOf_eq_fault_iff fault).mpr slips))
  | loop => exact (fails_handle_loop_iff fault).mpr (.inl slips)
  | condition | fallback =>
      cases slips with
      | configuration resolves => simp at resolves
      | request requests => simp at requests

end

theorem Escapes.isStepError_eq (escapes : executor.Escapes step state failure) :
    failure.isStepError = false := by
  induction escapes with
  | slip _ slips => exact slips.isStepError_eq
  | stall _ _ fault => exact fault
  | garbled _ _ fault => exact fault
  | unnamed _ _ _ noName =>
      obtain ⟨kind, rfl⟩ := Variables.failsOnly_checkName _ _ noName
      rfl
  | inside _ _ inheritFault => exact inheritFault

theorem Escapes.fails_execute (reliable : executor.IsReliable)
    (escapes : executor.Escapes step state failure) :
    Action.Fails (executor.execute step) state failure := by
  induction escapes with
  | slip runs slips => exact slips.fails_execute reliable slips.isStepError_eq runs
  | stall runs stalls fault =>
      apply runs.fails_execute reliable.clock
      exact (fails_handle_delay_iff fault).mpr (.inr stalls)
  | garbled runs garbles fault =>
      apply runs.fails_execute reliable.clock
      exact (fails_handle_webhook_iff fault reliable).mpr (.inr garbles)
  | unnamed runs handled wanted noName =>
      exact (runs.fails_execute_iff reliable.clock).mpr (.inr ⟨_, _, handled, wanted, noName⟩)
  | inside passesUp escapes failsInner =>
      exact passesUp.fails_execute reliable escapes.isStepError_eq failsInner

/-- A step whose tree runs by the engine itself fails with anything but an error of steps exactly
where a fault escapes from it. -/
theorem fails_with_fault_iff_escapes (reliable : executor.IsReliable)
    (builtIn : step.Throughout fun inner => Entries.get? inner.type executor.handlers = none)
    (state : State σ) (failure : Failure) :
    (executor.execute step state).1 = .failed failure ∧ failure.isStepError = false ↔
      executor.Escapes step state failure := by
  refine ⟨?_, fun escapes => ⟨escapes.fails_execute reliable, escapes.isStepError_eq⟩⟩
  rintro ⟨fails, fault⟩
  -- By induction on the tree: a fault that is not the step's own fails a step directly inside it.
  induction builtIn generalizing state with
  | @mk step unhandled _ escapesInside =>
      cases known : StepType.ofName? step.type with
      | none =>
          rw [execute_of_unknown unhandled known] at fails
          cases fails
          cases fault
      | some kind =>
          have runs : executor.RunsAs step kind := ⟨unhandled, known⟩
          rcases (runs.fails_execute_iff reliable.clock).mp fails with
            failsInside | ⟨output, between, handled, wanted, noName⟩
          · rcases escapes_or_passesUp_of_fails reliable fault runs failsInside with
              escapes | ⟨inner, start, passesUp, failsInner⟩
            · exact escapes
            · exact .inside passesUp
                (escapesInside inner passesUp.mem_children start failsInner)
          · exact .unnamed runs handled wanted noName

section

theorem isReliable_cancellingExecutor : cancellingExecutor.IsReliable where
  answers _ _ _ := nofun
  sleeps _ _ _ := nofun
  clock _ _ := ⟨0, elapsedMs_zero⟩

/-- A retry without an end, as it is stored. -/
def endlessRetryData : Value :=
  .object [("id", .text "again"), ("type", .text "retry"),
    ("config", .object [("max_attempts", .float (.infinite false))])]

/-- A retry without an end. -/
def endlessRetry : Step :=
  .mk ⟨"again", "retry", "", [("max_attempts", .float (.infinite false))], true, .null, none, none,
    none, none⟩ none none none none none none

theorem slips_endlessRetry (scope : Variables) :
    cancellingExecutor.Slips endlessRetry scope .retry .infiniteInteger := by
  apply Slips.attempts
  rfl

theorem execute_of_endlessRetry :
    endlessRetryData.isJson = true ∧ Step.read "step" endlessRetryData = .ok endlessRetry ∧
      (endlessRetry.Throughout fun inner =>
        Entries.get? inner.type cancellingExecutor.handlers = none) ∧
      cancellingExecutor.IsReliable ∧
      (cancellingExecutor.execute endlessRetry ⟨⟨[]⟩, [], ()⟩).1 = .failed .infiniteInteger ∧
      Failure.infiniteInteger.isStepError = false := by
  have stored : Step.read "step" endlessRetryData = .ok endlessRetry := by
    rw [endlessRetryData, Step.read, Step.readFields_eq_ok_iff, Step.readCondition_eq,
      Step.readLoop_eq, Step.readRetry_eq, Step.readFallback_eq, Step.readVerdictStep,
      Step.readVerdictStep]
    exact ⟨rfl, by decide, rfl, rfl, rfl, rfl, rfl, rfl, rfl⟩
  have builtIn : endlessRetry.Throughout fun inner =>
      Entries.get? inner.type cancellingExecutor.handlers = none :=
    Step.throughout_of_forall (fun _ => rfl) _
  refine ⟨by decide, stored, builtIn, isReliable_cancellingExecutor, ?_, rfl⟩
  exact (slips_endlessRetry _).fails_execute isReliable_cancellingExecutor rfl ⟨rfl, rfl⟩

/-- A loop over a retry without an end. -/
def loopOfEndlessRetry : Step :=
  .mk (namedHeader "each" "loop" .null []) none (some ⟨.list [.int 1], [endlessRetry]⟩)
    none none none none

theorem fails_with_fault_iff_escapes_of_loop :
    let state : State Unit := ⟨⟨[]⟩, [], ()⟩
    cancellingExecutor.IsReliable ∧
      (loopOfEndlessRetry.Throughout fun inner =>
        Entries.get? inner.type cancellingExecutor.handlers = none) ∧
      cancellingExecutor.Escapes loopOfEndlessRetry state .infiniteInteger ∧
      (cancellingExecutor.execute loopOfEndlessRetry state).1 = .failed .infiniteInteger := by
  intro state
  have builtIn : loopOfEndlessRetry.Throughout fun inner =>
      Entries.get? inner.type cancellingExecutor.handlers = none :=
    Step.throughout_of_forall (fun _ => rfl) _
  have handsOn : cancellingExecutor.HandsOn loopOfEndlessRetry state [endlessRetry]
      (bound 0 (.int 1) (opened loopOfEndlessRetry.header state)) :=
    .iteration ⟨rfl, rfl⟩ rfl .first
  have escapes : cancellingExecutor.Escapes loopOfEndlessRetry state .infiniteInteger :=
    .inside (.listed handsOn .first rfl) (.slip ⟨rfl, rfl⟩ (slips_endlessRetry _))
  have fails := (fails_with_fault_iff_escapes isReliable_cancellingExecutor builtIn state _).mpr
    escapes
  exact ⟨isReliable_cancellingExecutor, builtIn, escapes, fails.1⟩

end

end Automation.Executor
