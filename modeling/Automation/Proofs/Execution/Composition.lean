import Automation.Proofs.Execution.Cancellation

/-!
Properties that executions inherit from their parts.

A property of actions is closed where it passes from actions to the chains, the handlers of failures
and the reports made of them. The execution of a step has such a property as soon as every step in
its tree adds nothing that breaks it: no handler of a host, no output that is kept, and no binding
of a loop.
-/

namespace Automation

/-- What an action ended with, as its result, unless it was cancelled. -/
def Outcome.settled {α : Type} : Outcome α → Outcome (Except Failure α)
  | .done result => .done (.ok result)
  | .failed failure => .done (.error failure)
  | .cancelled => .cancelled

namespace Action

variable {σ α β : Type}

/-- Whatever an action ends with but a cancellation, as its result. -/
def settle (action : Action σ α) : Action σ (Except Failure α) :=
  (action >>= fun result => pure (Except.ok result)).recover fun failure =>
    done (Except.error failure)

theorem settle_of_done {action : Action σ α} {result : α} {state after : State σ}
    (ended : action state = (.done result, after)) :
    action.settle state = (.done (.ok result), after) :=
  recover_of_done (bind_of_done ended)

theorem settle_of_failed {action : Action σ α} {failure : Failure} {state after : State σ}
    (ended : action state = (.failed failure, after)) :
    action.settle state = (.done (.error failure), after) :=
  recover_of_failed (bind_of_failed ended)

theorem settle_of_cancelled {action : Action σ α} {state after : State σ}
    (ended : action state = (.cancelled, after)) : action.settle state = (.cancelled, after) :=
  recover_of_cancelled (bind_of_cancelled ended)

theorem settle_eq (action : Action σ α) (state : State σ) :
    action.settle state = ((action state).1.settled, (action state).2) := by
  cases ended : action state with
  | mk outcome after =>
      cases outcome with
      | done result => exact settle_of_done ended
      | failed failure => exact settle_of_failed ended
      | cancelled => exact settle_of_cancelled ended

theorem recover_eq {action : Action σ α} {handle : Failure → Action σ α} :
    action.recover handle = action.settle >>= fun ended =>
      match ended with
      | .ok result => done result
      | .error failure => handle failure := by
  funext state
  cases ended : action state with
  | mk outcome after =>
      cases outcome with
      | done result =>
          rw [recover_of_done ended, bind_of_done (settle_of_done ended)]
          rfl
      | failed failure => rw [recover_of_failed ended, bind_of_done (settle_of_failed ended)]
      | cancelled => rw [recover_of_cancelled ended, bind_of_cancelled (settle_of_cancelled ended)]

/-- A property of actions that passes to the actions made of them. Binding variables is left out:
whether that keeps a property depends on the names. -/
structure IsClosed (p : (α : Type) → Action σ α → Prop) : Prop where
  done {α : Type} (result : α) : p α (done result)
  fail {α : Type} (failure : Failure) : p α (fail failure)
  bind {α β : Type} {action : Action σ α} {next : α → Action σ β} (first : p α action)
    (further : ∀ result, p β (next result)) : p β (action >>= next)
  recover {α : Type} {action : Action σ α} {handle : Failure → Action σ α} (first : p α action)
    (handled : ∀ failure, p α (handle failure)) : p α (action.recover handle)
  log (level : Logging.Level) (message : String) : p Unit (log level message)
  scope : p Variables Action.variables
  outside {α : Type} (effect : σ → Outcome α × σ) : p α (outside effect)
  observe {α : Type} (observe : σ → α) : p α fun state => (.done (observe state.world), state)

namespace IsClosed

variable {p : (α : Type) → Action σ α → Prop} (closed : IsClosed p)

include closed

theorem ofExcept (result : Except Failure α) : p α (ofExcept result) := by
  cases result with
  | ok result => exact closed.done result
  | error failure => exact closed.fail failure

theorem map {action : Action σ α} (f : α → β) (first : p α action) : p β (f <$> action) :=
  closed.bind first fun result => closed.done (f result)

theorem settle {action : Action σ α} (first : p α action) : p (Except Failure α) action.settle :=
  closed.recover (closed.bind first fun result => closed.done (Except.ok result)) fun failure =>
    closed.done (Except.error failure)

end IsClosed

end Action

namespace Executor

variable {σ : Type} {executor : Executor σ}

section

variable {header : StepHeader} {run : Action σ Value} {output : Value} {failure : Failure}
  {state after : State σ}

theorem entry_of_done (ended : run state = (.done output, after)) :
    entry header run state = (.done ⟨header.id, .ok output⟩, after) :=
  Action.recover_of_done (Action.bind_of_done ended)

theorem entry_of_failed_stopping (ended : run state = (.failed failure, after))
    (stops : header.stopOnError = true) :
    entry header run state = (.failed failure, after) := by
  refine (Action.recover_of_failed (Action.bind_of_failed ended)).trans ?_
  rw [if_pos stops]
  rfl

theorem entry_of_failed_goingOn (ended : run state = (.failed failure, after))
    (goesOn : header.stopOnError = false) :
    entry header run state =
      (.done ⟨header.id, .error failure.message⟩,
        { after with
          log := ⟨.warning,
            s!"Nested step {header.id} failed, continuing: {failure.message}"⟩ :: after.log }) := by
  refine (Action.recover_of_failed (Action.bind_of_failed ended)).trans ?_
  rw [if_neg (by simp [goesOn])]
  rfl

end

/-- Keep the output of a step under the name that the step gives, if it gives one. -/
def keep (header : StepHeader) (output : Value) : Action σ Value := do
  if header.outputVariable.truthy then
    Action.setVariables
      (← Action.ofExcept ((← Action.variables).assign header.outputVariable output))
  pure output

/-- A clock that never shows times whose distance is no number of milliseconds. -/
def ClockIsFinite (executor : Executor σ) : Prop :=
  ∀ first second, ∃ durationMs, elapsedMs (executor.collaborators.now first)
    (executor.collaborators.now second) = .ok durationMs

/-- What an attempt does once its body is settled. -/
def afterAttempt (executor : Executor σ) (id : String) (plan : RetryPlan)
    (body : Action σ (List StepEntry)) (left number : Nat) :
    Except Failure (List StepEntry) → Action σ (Except Failure (Nat × List StepEntry))
  | .ok entries => pure (.ok (number, entries))
  | .error failure =>
      match left with
      | 0 => do
          Action.log .warning
            s!"Retry {id} attempt {number}/{plan.attempts} failed: {failure.message}"
          pure (.error failure)
      | left + 1 => do
          executor.pause id plan number failure
          executor.attempt id plan body left (number + 1)

theorem attempt_eq {id : String} {plan : RetryPlan} {body : Action σ (List StepEntry)}
    {left number : Nat} :
    executor.attempt id plan body left number =
      body.settle >>= executor.afterAttempt id plan body left number := by
  funext state
  cases ended : body state with
  | mk outcome after =>
      cases outcome with
      | done entries =>
          rw [Action.bind_of_done (Action.settle_of_done ended), attempt]
          simp only [ended]
          rfl
      | cancelled =>
          rw [Action.bind_of_cancelled (Action.settle_of_cancelled ended), attempt]
          simp only [ended]
      | failed failure =>
          rw [Action.bind_of_done (Action.settle_of_failed ended)]
          cases left with
          | zero =>
              rw [attempt]
              simp only [ended]
              rfl
          | succ left => exact attempt_of_failed ended

end Executor

namespace Action.IsClosed

open Executor

variable {σ : Type} {executor : Executor σ} {header : StepHeader}
  {p : (α : Type) → Action σ α → Prop} (closed : IsClosed p)

include closed

theorem send (request : Http.Request) : p _ (executor.send request) := by
  unfold Executor.send
  refine closed.bind (closed.ofExcept _) fun _ => closed.bind (closed.log _ _) fun _ =>
    closed.bind (closed.outside _) fun exchange => ?_
  cases exchange with
  | answered response => exact closed.done response
  | timedOut _ _ | broken _ _ => exact closed.fail _

theorem callApi : p _ (executor.callApi header) :=
  closed.bind closed.scope fun _ => closed.bind (closed.ofExcept _) fun _ =>
    closed.bind (closed.ofExcept _) fun request => closed.bind (closed.send request)
      fun _ => closed.bind (closed.log _ _) fun _ => closed.ofExcept _

theorem callWebhook : p _ (executor.callWebhook header) := by
  unfold Executor.callWebhook
  refine closed.bind closed.scope fun _ => closed.bind (closed.ofExcept _) fun _ =>
    closed.bind (closed.ofExcept _) fun request => closed.bind (closed.send request)
      fun response => closed.bind (closed.ofExcept _) fun _ => ?_
  split
  · exact closed.bind (closed.log _ _) fun _ => closed.done _
  · exact closed.done _

theorem callAgent : p _ (executor.callAgent header) := by
  unfold Executor.callAgent
  refine closed.bind closed.scope fun _ => closed.bind (closed.ofExcept _) fun config => ?_
  split
  · exact closed.fail _
  · exact closed.bind (closed.ofExcept _) fun _ =>
      closed.recover (closed.outside _) fun _ => closed.fail _

theorem wait : p _ (executor.wait header) := by
  unfold Executor.wait
  refine closed.bind closed.scope fun _ => closed.bind (closed.ofExcept _) fun _ =>
    closed.bind (closed.ofExcept _) fun _ => closed.bind (closed.ofExcept _) fun duration => ?_
  have rest : p _ (do
      executor.sleep (duration.div (Binary64.ofNat 1000))
      pure (Value.object [("delayed", reported duration)])) :=
    closed.bind (closed.outside _) fun _ => closed.done _
  split
  · exact closed.bind (closed.fail _) fun _ => rest
  · exact rest

theorem judgeAndReport (expression : Value) :
    p _ (executor.judgeAndReport header expression) :=
  closed.bind (closed.bind closed.scope fun _ => closed.bind (closed.log _ _) fun _ =>
    closed.done _) fun _ => closed.bind (closed.log _ _) fun _ => closed.done _

theorem runBranch {branchFor : Bool → Branch σ}
    (single : ∀ verdict, ∀ run ∈ (branchFor verdict).single, p _ run)
    (listed : ∀ verdict, ∀ run ∈ (branchFor verdict).listed, p _ run) (verdict : Bool) :
    p _ (runBranch branchFor verdict) := by
  unfold Executor.runBranch
  split
  · split
    · next run held => exact closed.map _ (single verdict run held)
    · exact closed.done _
  · split
    · next run held => exact closed.bind (listed verdict run held) fun _ => closed.done _
    · exact closed.done _

theorem pause (id : String) (plan : RetryPlan) (number : Nat) (failure : Failure) :
    p _ (executor.pause id plan number failure) := by
  refine closed.bind (closed.log _ _) fun _ => ?_
  split
  · exact closed.outside _
  · exact closed.done _

theorem attempt {id : String} {plan : RetryPlan} {body : Action σ (List StepEntry)}
    (attempted : p _ body) (left number : Nat) :
    p _ (executor.attempt id plan body left number) := by
  induction left generalizing number with
  | zero =>
      rw [attempt_eq]
      refine closed.bind (closed.settle attempted) fun ended => ?_
      cases ended with
      | ok entries => exact closed.done _
      | error failure => exact closed.bind (closed.log _ _) fun _ => closed.done _
  | succ left inductionHypothesis =>
      rw [attempt_eq]
      refine closed.bind (closed.settle attempted) fun ended => ?_
      cases ended with
      | ok entries => exact closed.done _
      | error failure =>
          exact closed.bind (closed.pause _ _ _ _) fun _ => inductionHypothesis _

theorem retrying {maxAttempts backoffSeconds : Value} {body : Action σ (List StepEntry)}
    {recovery : Option (Action σ (List StepEntry))} (attempted : p _ body)
    (recovering : ∀ run ∈ recovery, p _ run) :
    p _ (executor.retrying header maxAttempts backoffSeconds body recovery) := by
  refine closed.bind (closed.ofExcept _) fun plan =>
    closed.bind (closed.attempt attempted _ _) fun ended => ?_
  cases ended with
  | ok ended => exact closed.done _
  | error failure =>
      cases recovery with
      | none => exact closed.fail _
      | some run =>
          exact closed.bind (closed.log _ _) fun _ =>
            closed.bind (recovering run rfl) fun _ => closed.done _

theorem fallingBack {primary : Action σ (List StepEntry)}
    {alternative : Option (Action σ (List StepEntry))} (first : p _ primary)
    (second : ∀ run ∈ alternative, p _ run) : p _ (fallingBack header primary alternative) := by
  refine closed.recover (closed.bind first fun _ => closed.done _) fun failure => ?_
  cases alternative with
  | none => exact closed.fail _
  | some run =>
      exact closed.bind (closed.log _ _) fun _ =>
        closed.bind (second run rfl) fun _ => closed.done _

theorem entry {run : Action σ Value} (ran : p _ run) : p _ (entry header run) := by
  refine closed.recover (closed.bind ran fun _ => closed.done _) fun failure => ?_
  split
  · exact closed.fail _
  · exact closed.bind (closed.log _ _) fun _ => closed.done _

theorem executeAll {steps : List Step} (ran : ∀ step ∈ steps, p _ (executor.execute step)) :
    p _ (executor.executeAll steps) := by
  induction steps with
  | nil =>
      rw [Executor.executeAll]
      exact closed.done _
  | cons step rest inductionHypothesis =>
      rw [List.forall_mem_cons] at ran
      rw [Executor.executeAll]
      exact closed.bind (closed.entry ran.1) fun _ =>
        closed.bind (inductionHypothesis ran.2) fun _ => closed.done _

/-- What a step does has a property as the steps inside it have it, where its loop keeps it. -/
theorem handle {step : Step} (ran : ∀ child ∈ step.children, p _ (executor.execute child))
    (looped : ∀ body, p _ body → p _ (looping step.header step.itemSource body))
    (kind : StepType) : p _ (executor.handle step kind) := by
  have ranAll (list : List Step) (listed : list ∈ step.lists) : p _ (executor.executeAll list) :=
    closed.executeAll fun child member =>
      ran child (Step.mem_children_iff.mpr (.inl (List.mem_flatten_of_mem listed member)))
  have ranUnlessEmpty (list : List Step) (listed : list ∈ step.lists) :
      ∀ run ∈ unlessEmpty list (executor.executeAll list), p _ run := by
    intro run held
    rw [Option.mem_def, unlessEmpty, Option.ite_none_left_eq_some, Option.some.injEq] at held
    exact held.2 ▸ ranAll list listed
  cases kind with
  | apiCall => exact closed.callApi
  | agentCall => exact closed.callAgent
  | webhook => exact closed.callWebhook
  | delay => exact closed.wait
  | condition =>
      by_cases null : step.expression.isNull = true
      · have missing : executor.handle step .condition = Action.raise _ :=
          funext (handle_condition_of_null null)
        rw [missing]
        exact closed.fail _
      · rw [handle_condition (Bool.eq_false_iff.mpr null)]
        refine closed.bind (closed.judgeAndReport _) (closed.runBranch ?_ ?_)
        · intro verdict run held
          rw [Option.mem_def, branchFor, Option.map_eq_some_iff] at held
          obtain ⟨inner, chosen, rfl⟩ := held
          refine ran inner (Step.mem_children_iff.mpr (.inr ?_))
          cases verdict
          · exact .inr chosen
          · exact .inl chosen
        · intro verdict
          refine ranUnlessEmpty _ ?_
          cases verdict <;> simp [Step.lists, Step.branch]
  | retry =>
      exact closed.retrying (ranAll _ (by simp [Step.lists, Step.attempted]))
        (ranUnlessEmpty _ (by simp [Step.lists, Step.recovery]))
  | fallback =>
      exact closed.fallingBack (ranAll _ (by simp [Step.lists, Step.primary]))
        (ranUnlessEmpty _ (by simp [Step.lists, Step.alternative]))
  | loop => exact looped _ (ranAll _ (by simp [Step.lists, Step.iterated]))

theorem complete {run : Action σ Value} (ran : p _ run)
    (kept : ∀ output, p _ (keep header output)) : p _ (executor.complete header run) :=
  closed.bind (closed.log _ _) fun _ => closed.bind (closed.observe _) fun _ =>
    closed.bind ran fun output => closed.bind (closed.observe _) fun _ =>
      closed.bind (closed.ofExcept _) fun _ => closed.bind (closed.log _ _) fun _ => kept output

end Action.IsClosed

namespace Executor

variable {σ : Type} {executor : Executor σ} {p : (α : Type) → Action σ α → Prop} {step : Step}

/-- A step that adds nothing to what the steps inside it do that breaks a property of actions. -/
structure PassesOn (executor : Executor σ) (p : (α : Type) → Action σ α → Prop) (step : Step) :
    Prop where
  handled : ∀ handler, Entries.get? step.type executor.handlers = some handler →
    p _ (handler step)
  kept : ∀ output, p _ (keep step.header output)
  looped : ∀ body, p _ body → p _ (looping step.header step.itemSource body)

/-- An execution has a closed property that every step in the tree passes on. -/
theorem execute_of_throughout (closed : Action.IsClosed p)
    (passing : step.Throughout (executor.PassesOn p)) : p _ (executor.execute step) := by
  induction passing with
  | @mk step here inside ran =>
      cases handled : Entries.get? step.type executor.handlers with
      | some handler =>
          rw [execute_of_handler handled]
          exact closed.complete (here.handled handler handled) here.kept
      | none =>
          cases known : StepType.ofName? step.type with
          | some kind =>
              rw [RunsAs.execute_eq ⟨handled, known⟩]
              exact closed.complete (closed.handle ran here.looped kind) here.kept
          | none =>
              rw [execute_of_unknown handled known]
              exact closed.fail _

end Executor

end Automation
