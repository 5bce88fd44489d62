import Automation.Proofs.Execution.Reach
import Automation.Proofs.Variables.Lookup

/-!
A cancelled step cancels everything around it.

No composite step and no list of steps handles a cancellation: each of them is cancelled in the very
state in which the step inside it was, but for loops, which restore their variables.
-/

namespace Automation.Executor

variable {σ : Type} {executor : Executor σ}

theorem entry_of_cancelled {header : StepHeader} {run : Action σ Value} {state after : State σ}
    (cancelled : run state = (.cancelled, after)) :
    entry header run state = (.cancelled, after) :=
  Action.recover_of_cancelled (Action.bind_of_cancelled cancelled)

theorem ListEnters.executeAll_of_cancelled {steps : List Step} {inner : Step}
    {state start after : State σ} (enters : executor.ListEnters steps state inner start)
    (cancelled : executor.execute inner start = (.cancelled, after)) :
    executor.executeAll steps state = (.cancelled, after) := by
  induction enters with
  | first =>
      rw [executeAll]
      exact Action.bind_of_cancelled (entry_of_cancelled cancelled)
  | later ends further inductionHypothesis =>
      rw [executeAll, Action.bind_of_done ends]
      exact Action.bind_of_cancelled (inductionHypothesis cancelled)

theorem ListEnters.isEmpty_eq {steps : List Step} {inner : Step} {state start : State σ}
    (enters : executor.ListEnters steps state inner start) : steps.isEmpty = false := by
  cases enters <;> rfl

theorem ListEnters.unlessEmpty_eq {steps : List Step} {inner : Step} {state start : State σ}
    (enters : executor.ListEnters steps state inner start) {α : Type} (run : α) :
    unlessEmpty steps run = some run := by
  simp [unlessEmpty, enters.isEmpty_eq]

/-- A failed attempt that is not the last one leads to a pause and the next attempt. -/
theorem attempt_of_failed {id : String} {plan : RetryPlan} {body : Action σ (List StepEntry)}
    {left number : Nat} {state failed : State σ} {failure : Failure}
    (fails : body state = (.failed failure, failed)) :
    executor.attempt id plan body (left + 1) number state =
      (executor.pause id plan number failure >>= fun _ =>
        executor.attempt id plan body left (number + 1)) failed := by
  rw [attempt]
  simp only [fails]
  rfl

theorem AttemptStarts.attempt_of_cancelled {id : String} {plan : RetryPlan}
    {body : Action σ (List StepEntry)} {left number leftThen numberThen : Nat}
    {state start after : State σ}
    (starts : executor.AttemptStarts id plan body left number state leftThen numberThen start)
    (cancelled : body start = (.cancelled, after)) :
    executor.attempt id plan body left number state = (.cancelled, after) := by
  induction starts with
  | first =>
      rw [attempt]
      simp only [cancelled]
  | later fails waits further inductionHypothesis =>
      rw [attempt_of_failed fails, Action.bind_of_done waits]
      exact inductionHypothesis cancelled

theorem visitItems_cons {body : Action σ (List StepEntry)} {position : Nat} {item : Value}
    {rest : List Value} {state : State σ} :
    visitItems body position (item :: rest) state =
      (body >>= fun entries => do
        let others ← visitItems body (position + 1) rest
        pure (entriesValue entries :: others)) (bound position item state) := rfl

theorem IterationStarts.visitItems_of_cancelled {body : Action σ (List StepEntry)} {position : Nat}
    {items : List Value} {state start after : State σ}
    (starts : IterationStarts body position items state start)
    (cancelled : body start = (.cancelled, after)) :
    visitItems body position items state = (.cancelled, after) := by
  induction starts with
  | first => rw [visitItems_cons, Action.bind_of_cancelled cancelled]
  | later ends further inductionHypothesis =>
      rw [visitItems_cons, Action.bind_of_done ends]
      exact Action.bind_of_cancelled (inductionHypothesis cancelled)

section

variable {step : Step} {plan : RetryPlan} {state between after : State σ}

theorem handle_retry_of_cancelled_attempt (planned : executor.planOf step = .ok plan)
    (cancelled : executor.attempt step.id plan (executor.executeAll step.attempted)
      (plan.attempts.toNat - 1) 1 state = (.cancelled, after)) :
    executor.handle step .retry state = (.cancelled, after) := by
  rw [handle_retry planned]
  exact Action.bind_of_cancelled cancelled

theorem handle_retry_of_cancelled_recovery {inner : Step} {start : State σ} {failure : Failure}
    (planned : executor.planOf step = .ok plan)
    (fails : executor.attempt step.id plan (executor.executeAll step.attempted)
      (plan.attempts.toNat - 1) 1 state = (.done (.error failure), between))
    (listed : executor.ListEnters step.recovery
      { between with
        log := ⟨.info, s!"Retry {step.id} exhausted, running recovery steps"⟩ :: between.log }
      inner start)
    (cancelled : executor.execute inner start = (.cancelled, after)) :
    executor.handle step .retry state = (.cancelled, after) := by
  rw [handle_retry planned, Action.bind_of_done fails, afterAttempts_of_recovery listed.isEmpty_eq]
  exact Action.bind_of_cancelled (listed.executeAll_of_cancelled cancelled)

theorem handle_fallback_of_cancelled_primary
    (cancelled : executor.executeAll step.primary state = (.cancelled, after)) :
    executor.handle step .fallback state = (.cancelled, after) := by
  rw [handle, fallingBack]
  exact Action.recover_of_cancelled (Action.bind_of_cancelled cancelled)

theorem handle_fallback_of_cancelled_alternative {inner : Step} {start : State σ}
    {failure : Failure}
    (fails : executor.executeAll step.primary state = (.failed failure, between))
    (listed : executor.ListEnters step.alternative
      { between with
        log := ⟨.warning,
          s!"Primary steps of {step.id} failed, using fallback: {failure.message}"⟩
            :: between.log }
      inner start)
    (cancelled : executor.execute inner start = (.cancelled, after)) :
    executor.handle step .fallback state = (.cancelled, after) := by
  rw [handle, fallingBack, listed.unlessEmpty_eq,
    Action.recover_of_failed (Action.bind_of_failed fails)]
  dsimp only
  rw [Action.log_bind_apply]
  exact Action.bind_of_cancelled (listed.executeAll_of_cancelled cancelled)

theorem handle_loop_of_cancelled {items : List Value}
    (resolved : resolveSource state.variables step.itemSource = .ok (.list items))
    (cancelled : visitItems (executor.executeAll step.iterated) 0 items state =
      (.cancelled, after)) :
    executor.handle step .loop state =
      (.cancelled,
        { after with «variables» := restoreLoop state.variables after.variables }) := by
  rw [handle_loop state resolved]
  exact Action.bind_of_cancelled (Action.ensure_eq cancelled)

end

/-- Variables with the bindings that loops restore when they end, one loop after the other. -/
def leaveLoops (scopes : List Variables) (current : Variables) : Variables :=
  scopes.foldl (fun current before => restoreLoop before current) current

/-- A step that comes to a cancelled step is cancelled in the state of that step, but for the
bindings of a loop. -/
theorem Enters.execute_of_cancelled {step inner : Step} {state start after : State σ}
    {loop : Option Variables} (enters : executor.Enters step state inner start loop)
    (cancelled : executor.execute inner start = (.cancelled, after)) :
    executor.execute step state =
      (.cancelled, { after with «variables» := leaveLoops loop.toList after.variables }) := by
  cases enters with
  | single runs given judged chosen =>
      refine runs.execute_cancelled_iff.mpr ?_
      rw [handle_condition given, Action.bind_of_done judged, runBranch_of_single chosen]
      exact Action.map_of_cancelled cancelled
  | branch runs given judged noSingle listed =>
      refine runs.execute_cancelled_iff.mpr ?_
      have nonempty : (step.branch _).isEmpty = false := listed.isEmpty_eq
      rw [handle_condition given, Action.bind_of_done judged,
        runBranch_of_steps noSingle nonempty]
      exact Action.bind_of_cancelled (listed.executeAll_of_cancelled cancelled)
  | attempt runs planned attempted listed =>
      refine runs.execute_cancelled_iff.mpr (handle_retry_of_cancelled_attempt planned ?_)
      exact attempted.attempt_of_cancelled (listed.executeAll_of_cancelled cancelled)
  | recovery runs planned fails listed =>
      exact runs.execute_cancelled_iff.mpr
        (handle_retry_of_cancelled_recovery planned fails listed cancelled)
  | primary runs listed =>
      exact runs.execute_cancelled_iff.mpr
        (handle_fallback_of_cancelled_primary (listed.executeAll_of_cancelled cancelled))
  | alternative runs fails listed =>
      exact runs.execute_cancelled_iff.mpr
        (handle_fallback_of_cancelled_alternative fails listed cancelled)
  | iteration runs resolved iterated listed =>
      have stopped := iterated.visitItems_of_cancelled (listed.executeAll_of_cancelled cancelled)
      exact runs.execute_cancelled_iff.mpr (handle_loop_of_cancelled resolved stopped)

/-- A cancelled step cancels every step around it, in the state of the cancelled step but for the
bindings that the loops around it restore. -/
theorem Reaches.execute_of_cancelled {root inner : Step} {state start after : State σ}
    {scopes : List Variables} (reaches : executor.Reaches root state inner start scopes)
    (cancelled : executor.execute inner start = (.cancelled, after)) :
    executor.execute root state =
      (.cancelled, { after with «variables» := leaveLoops scopes after.variables }) := by
  induction reaches with
  | here => exact cancelled
  | inside enters further inductionHypothesis =>
      -- A loop around the child ends after the loops inside the child, so it restores last.
      rw [enters.execute_of_cancelled (inductionHypothesis cancelled), leaveLoops, leaveLoops,
        leaveLoops, List.foldl_append]

theorem bound?_leaveLoops_of_not_loopName {scopes : List Variables} {current : Variables}
    {name : Value} (further : ¬IsLoopName name) :
    (leaveLoops scopes current).bound? name = current.bound? name := by
  induction scopes generalizing current with
  | nil => rfl
  | cons scope rest inductionHypothesis =>
      rw [leaveLoops, List.foldl_cons, ← leaveLoops, inductionHypothesis]
      exact bound?_restoreLoop_of_not_loopName further

theorem bound?_leaveLoops_of_loopName {scopes : List Variables} {current outermost : Variables}
    {name : Value} (loopName : IsLoopName name) (last : scopes.getLast? = some outermost) :
    (leaveLoops scopes current).bound? name = outermost.bound? name := by
  obtain ⟨inside, rfl⟩ := List.getLast?_eq_some_iff.mp last
  rw [leaveLoops, List.foldl_append]
  exact bound?_restoreLoop_of_loopName loopName

end Automation.Executor
