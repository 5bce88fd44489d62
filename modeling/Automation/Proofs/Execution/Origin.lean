import Automation.Proofs.Execution.Cancellation

/-!
Where the cancellation of a composite step comes from.

A composite step is cancelled by a step directly inside it that it comes to, or, where it is a
retry, by the wait between two attempts, and by nothing else.
-/

namespace Automation.Executor

variable {σ : Type} {executor : Executor σ} {step : Step} {state after : State σ}

theorem entry_cancelled_iff {header : StepHeader} {run : Action σ Value} :
    entry header run state = (.cancelled, after) ↔ run state = (.cancelled, after) := by
  refine ⟨fun cancelled => ?_, entry_of_cancelled⟩
  rcases Action.recover_cancelled_iff.mp cancelled with ended | ⟨failure, between, _, handled⟩
  · exact (Action.bind_cancelled_iff_of_steady fun output => .pure _).mp ended
  · split at handled
    · cases handled
    · cases handled

theorem exists_listEnters_of_cancelled {steps : List Step}
    (cancelled : executor.executeAll steps state = (.cancelled, after)) :
    ∃ inner start, executor.ListEnters steps state inner start ∧
      executor.execute inner start = (.cancelled, after) := by
  induction steps generalizing state with
  | nil =>
      rw [executeAll] at cancelled
      cases cancelled
  | cons step rest inductionHypothesis =>
      rw [executeAll] at cancelled
      rcases Action.bind_cancelled_iff.mp cancelled with first | ⟨result, between, ends, others⟩
      · exact ⟨step, state, .first, entry_cancelled_iff.mp first⟩
      · obtain ⟨inner, start, enters, stopped⟩ := inductionHypothesis
          ((Action.bind_cancelled_iff_of_steady fun entries => .pure _).mp others)
        exact ⟨inner, start, .later ends enters, stopped⟩

/-- A retry whose wait after a failed attempt is cancelled. -/
def PauseCancelled (executor : Executor σ) (id : String) (plan : RetryPlan)
    (body : Action σ (List StepEntry)) (left number : Nat) (state after : State σ) : Prop :=
  ∃ leftThen numberThen start failed failure,
    executor.AttemptStarts id plan body left number state (leftThen + 1) numberThen start ∧
      body start = (.failed failure, failed) ∧
        executor.pause id plan numberThen failure failed = (.cancelled, after)

theorem attempt_cancelled_cases {id : String} {plan : RetryPlan} {body : Action σ (List StepEntry)}
    {left number : Nat}
    (cancelled : executor.attempt id plan body left number state = (.cancelled, after)) :
    (∃ leftThen numberThen start,
        executor.AttemptStarts id plan body left number state leftThen numberThen start ∧
          body start = (.cancelled, after)) ∨
      executor.PauseCancelled id plan body left number state after := by
  induction left generalizing number state with
  | zero =>
      rw [attempt] at cancelled
      cases ended : body state with
      | mk outcome between =>
          simp only [ended] at cancelled
          cases outcome with
          | done entries => cases cancelled
          | failed failure => cases cancelled
          | cancelled =>
              cases cancelled
              exact .inl ⟨_, _, _, .first, ended⟩
  | succ left inductionHypothesis =>
      cases ended : body state with
      | mk outcome between =>
          cases outcome with
          | done entries =>
              rw [attempt] at cancelled
              simp only [ended] at cancelled
              cases cancelled
          | cancelled =>
              rw [attempt] at cancelled
              simp only [ended] at cancelled
              cases cancelled
              exact .inl ⟨_, _, _, .first, ended⟩
          | failed failure =>
              rw [attempt_of_failed ended] at cancelled
              rcases Action.bind_cancelled_iff.mp cancelled with
                paused | ⟨_, paused, pauses, further⟩
              · exact .inr ⟨_, _, _, _, _, .first, ended, paused⟩
              · rcases inductionHypothesis further with
                  ⟨_, _, start, starts, stopped⟩ | ⟨_, _, start, failed, _, starts, fails, stopped⟩
                · exact .inl ⟨_, _, start, .later ended pauses starts, stopped⟩
                · exact .inr ⟨_, _, start, failed, _, .later ended pauses starts, fails, stopped⟩

theorem exists_iterationStarts_of_cancelled {body : Action σ (List StepEntry)} {position : Nat}
    {items : List Value}
    (cancelled : visitItems body position items state = (.cancelled, after)) :
    ∃ start, IterationStarts body position items state start ∧
      body start = (.cancelled, after) := by
  induction items generalizing position state with
  | nil => cases cancelled
  | cons item rest inductionHypothesis =>
      rw [visitItems_cons] at cancelled
      rcases Action.bind_cancelled_iff.mp cancelled with first | ⟨entries, between, ends, others⟩
      · exact ⟨_, .first, first⟩
      · obtain ⟨start, starts, stopped⟩ := inductionHypothesis
          ((Action.bind_cancelled_iff_of_steady fun results => .pure _).mp others)
        exact ⟨start, .later ends starts, stopped⟩

theorem runBranch_cancelled_cases {verdict : Bool}
    (cancelled : runBranch (executor.branchFor step) verdict state = (.cancelled, after)) :
    (∃ inner, step.single verdict = some inner ∧
        executor.execute inner state = (.cancelled, after)) ∨
      (step.trueStep = none ∧ step.falseStep = none) ∧
        executor.executeAll (step.branch verdict) state = (.cancelled, after) := by
  by_cases noSingle : step.trueStep = none ∧ step.falseStep = none
  · cases empty : (step.branch verdict).isEmpty with
    | true =>
        have idle : runBranch (executor.branchFor step) verdict =
            pure (.object (verdictFields verdict)) := by
          simp [runBranch, branchFor, Step.single, noSingle, unlessEmpty, empty]
        rw [idle] at cancelled
        cases cancelled
    | false =>
        rw [runBranch_of_steps noSingle empty] at cancelled
        have stopped := (Action.bind_cancelled_iff_of_steady fun entries => .pure _).mp cancelled
        exact .inr ⟨noSingle, stopped⟩
  · cases chosen : step.single verdict with
    | some inner =>
        rw [runBranch_of_single chosen] at cancelled
        have stopped := (Action.bind_cancelled_iff_of_steady fun output => .pure _).mp cancelled
        exact .inl ⟨inner, rfl, stopped⟩
    | none =>
        have anyHeld : ((executor.branchFor step true).single.isSome ||
            (executor.branchFor step false).single.isSome) = true := by
          cases first : step.trueStep <;> cases second : step.falseStep <;>
            simp_all [branchFor, Step.single]
        have idle : runBranch (executor.branchFor step) verdict =
            pure (.object (verdictFields verdict)) := by
          rw [runBranch, if_pos anyHeld]
          simp [branchFor, chosen]
        rw [idle] at cancelled
        cases cancelled

theorem exists_enters_of_cancelled_condition (runs : executor.RunsAs step .condition)
    (cancelled : executor.handle step .condition (opened step.header state) =
      (.cancelled, after)) :
    ∃ inner start, executor.Enters step state inner start none ∧
      executor.execute inner start = (.cancelled, after) := by
  cases given : step.expression.isNull with
  | true =>
      rw [handle_condition_of_null given] at cancelled
      cases cancelled
  | false =>
      rw [handle_condition given] at cancelled
      rcases Action.bind_cancelled_iff.mp cancelled with judging | ⟨verdict, judged, found, ran⟩
      · cases judging
      · rcases runBranch_cancelled_cases ran with
          ⟨inner, chosen, stopped⟩ | ⟨noSingle, listStopped⟩
        · exact ⟨inner, judged, .single runs given found chosen, stopped⟩
        · obtain ⟨inner, start, listed, stopped⟩ := exists_listEnters_of_cancelled listStopped
          exact ⟨inner, start, .branch runs given found noSingle listed, stopped⟩

/-- A retry step whose wait between two attempts is cancelled. -/
def WaitCancelled (executor : Executor σ) (step : Step) (state after : State σ) : Prop :=
  executor.RunsAs step .retry ∧ ∃ plan, executor.planOf step = .ok plan ∧
    executor.PauseCancelled step.id plan (executor.executeAll step.attempted)
      (plan.attempts.toNat - 1) 1 (opened step.header state) after

theorem AttemptStarts.attempt_of_pauseCancelled {id : String} {plan : RetryPlan}
    {body : Action σ (List StepEntry)} {left number leftThen numberThen : Nat}
    {start failed : State σ} {failure : Failure}
    (starts : executor.AttemptStarts id plan body left number state (leftThen + 1) numberThen start)
    (fails : body start = (.failed failure, failed))
    (paused : executor.pause id plan numberThen failure failed = (.cancelled, after)) :
    executor.attempt id plan body left number state = (.cancelled, after) := by
  -- The induction is on the attempts in between, and their number has to be a variable for it.
  generalize counted : leftThen + 1 = remaining at starts
  induction starts with
  | first =>
      subst counted
      rw [attempt_of_failed fails, Action.bind_of_cancelled paused]
  | later earlierFails pauses further inductionHypothesis =>
      rw [attempt_of_failed earlierFails, Action.bind_of_done pauses]
      exact inductionHypothesis fails paused counted

theorem WaitCancelled.execute_eq (waiting : executor.WaitCancelled step state after) :
    executor.execute step state = (.cancelled, after) := by
  obtain ⟨runs, plan, planned, _, _, _, _, _, starts, fails, paused⟩ := waiting
  exact runs.execute_cancelled_iff.mpr
    (handle_retry_of_cancelled_attempt planned (starts.attempt_of_pauseCancelled fails paused))

theorem exists_enters_of_cancelled_retry (runs : executor.RunsAs step .retry)
    (cancelled : executor.handle step .retry (opened step.header state) = (.cancelled, after)) :
    (∃ inner start, executor.Enters step state inner start none ∧
        executor.execute inner start = (.cancelled, after)) ∨
      executor.WaitCancelled step state after := by
  cases planned : executor.planOf step with
  | error failure =>
      rw [planOf] at planned
      rw [handle, retrying, planned] at cancelled
      cases cancelled
  | ok plan =>
      rw [handle_retry planned] at cancelled
      rcases Action.bind_cancelled_iff.mp cancelled with
        attempting | ⟨ended, between, ends, handled⟩
      · rcases attempt_cancelled_cases attempting with
          ⟨_, _, attemptStart, starts, bodyStopped⟩ | paused
        · obtain ⟨inner, start, listed, stopped⟩ := exists_listEnters_of_cancelled bodyStopped
          exact .inl ⟨inner, start, .attempt runs planned starts listed, stopped⟩
        · exact .inr ⟨runs, plan, planned, paused⟩
      · cases ended with
        | ok ended => cases handled
        | error failure =>
            cases empty : step.recovery.isEmpty with
            | true =>
                simp only [afterAttempts, unlessEmpty, empty, if_true] at handled
                cases handled
            | false =>
                rw [afterAttempts_of_recovery empty] at handled
                have ran := (Action.bind_cancelled_iff_of_steady fun entries => .pure _).mp handled
                obtain ⟨inner, start, listed, stopped⟩ := exists_listEnters_of_cancelled ran
                exact .inl ⟨inner, start, .recovery runs planned ends listed, stopped⟩

theorem exists_enters_of_cancelled_fallback (runs : executor.RunsAs step .fallback)
    (cancelled : executor.handle step .fallback (opened step.header state) = (.cancelled, after)) :
    ∃ inner start, executor.Enters step state inner start none ∧
      executor.execute inner start = (.cancelled, after) := by
  rw [handle, fallingBack] at cancelled
  rcases Action.recover_cancelled_iff.mp cancelled with first | ⟨failure, between, fails, handled⟩
  · have ran := (Action.bind_cancelled_iff_of_steady fun entries => .pure _).mp first
    obtain ⟨inner, start, listed, stopped⟩ := exists_listEnters_of_cancelled ran
    exact ⟨inner, start, .primary runs listed, stopped⟩
  · cases empty : step.alternative.isEmpty with
    | true =>
        simp only [unlessEmpty, empty, if_true] at handled
        cases handled
    | false =>
        simp only [unlessEmpty, empty, Bool.false_eq_true, if_false,
          Action.log_bind_apply] at handled
        have failed := Action.failed_of_bind_pure_failed fails
        have ran := (Action.bind_cancelled_iff_of_steady fun entries => .pure _).mp handled
        obtain ⟨inner, start, listed, stopped⟩ := exists_listEnters_of_cancelled ran
        exact ⟨inner, start, .alternative runs failed listed, stopped⟩

theorem exists_enters_of_cancelled_loop (runs : executor.RunsAs step .loop)
    (cancelled : executor.handle step .loop (opened step.header state) = (.cancelled, after)) :
    ∃ inner start between, executor.Enters step state inner start (some state.variables) ∧
      executor.execute inner start = (.cancelled, between) ∧
        { between with «variables» := restoreLoop state.variables between.variables } = after := by
  rw [handle, looping, Action.variables_bind_apply] at cancelled
  have sameScope : (opened step.header state).variables = state.variables := rfl
  rw [sameScope] at cancelled
  cases resolved : resolveSource state.variables step.itemSource with
  | error failure =>
      rw [resolved] at cancelled
      cases cancelled
  | ok source =>
      rw [resolved, Action.ofExcept_ok_bind_apply] at cancelled
      cases source with
      | list items =>
          have ran := (Action.bind_cancelled_iff_of_steady fun results => .pure _).mp cancelled
          obtain ⟨between, visiting, restored⟩ := Action.ensure_cancelled_iff.mp ran
          obtain ⟨iterationStart, starts, bodyStopped⟩ :=
            exists_iterationStarts_of_cancelled visiting
          obtain ⟨inner, start, listed, stopped⟩ := exists_listEnters_of_cancelled bodyStopped
          exact ⟨inner, start, between, .iteration runs resolved starts listed, stopped, restored⟩
      | _ => exact absurd (congrArg Prod.fst cancelled) (Action.Steady.ofExcept _ _)

/-- The kinds of step that hold further steps. -/
def IsComposite (kind : StepType) : Prop :=
  kind = .condition ∨ kind = .retry ∨ kind = .fallback ∨ kind = .loop

/-- A composite step is cancelled exactly where a step directly inside it that it comes to is, or
where it is a retry whose wait is. -/
theorem execute_cancelled_iff {kind : StepType} (runs : executor.RunsAs step kind)
    (composite : IsComposite kind) :
    executor.execute step state = (.cancelled, after) ↔
      (∃ inner start between loop, executor.Enters step state inner start loop ∧
          executor.execute inner start = (.cancelled, between) ∧
            { between with «variables» := leaveLoops loop.toList between.variables } = after) ∨
        executor.WaitCancelled step state after := by
  constructor
  · intro cancelled
    rw [runs.execute_cancelled_iff] at cancelled
    rcases composite with rfl | rfl | rfl | rfl
    · obtain ⟨inner, start, enters, stopped⟩ :=
        exists_enters_of_cancelled_condition runs cancelled
      exact .inl ⟨inner, start, after, none, enters, stopped, rfl⟩
    · rcases exists_enters_of_cancelled_retry runs cancelled with
        ⟨inner, start, enters, stopped⟩ | waiting
      · exact .inl ⟨inner, start, after, none, enters, stopped, rfl⟩
      · exact .inr waiting
    · obtain ⟨inner, start, enters, stopped⟩ :=
        exists_enters_of_cancelled_fallback runs cancelled
      exact .inl ⟨inner, start, after, none, enters, stopped, rfl⟩
    · obtain ⟨inner, start, between, enters, stopped, restored⟩ :=
        exists_enters_of_cancelled_loop runs cancelled
      exact .inl ⟨inner, start, between, _, enters, stopped, restored⟩
  · rintro (⟨inner, start, between, loop, enters, stopped, rfl⟩ | waiting)
    · exact enters.execute_of_cancelled stopped
    · exact waiting.execute_eq

end Automation.Executor
