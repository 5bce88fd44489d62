import Automation.Proofs.Execution.Composition

/-!
Executions on two worlds.

An execution learns of its world from its collaborators, its clock and the handlers of its host, and
from nothing else. So a relation between actions on two worlds that passes from actions to what is
made of them relates the executions of a step as soon as it relates these.
-/

namespace Automation

/-- A relation between actions on two worlds that passes to the actions made of them. -/
structure Action.Relates {σ τ : Type} (r : (α : Type) → Action σ α → Action τ α → Prop) :
    Prop where
  done {α : Type} (result : α) : r α (done result) (done result)
  fail {α : Type} (failure : Failure) : r α (fail failure) (fail failure)
  bind {α β : Type} {first : Action σ α} {second : Action τ α} {next : α → Action σ β}
    {nextToo : α → Action τ β} (related : r α first second)
    (further : ∀ result, r β (next result) (nextToo result)) :
    r β (first >>= next) (second >>= nextToo)
  recover {α : Type} {first : Action σ α} {second : Action τ α} {handle : Failure → Action σ α}
    {handleToo : Failure → Action τ α} (related : r α first second)
    (handled : ∀ failure, r α (handle failure) (handleToo failure)) :
    r α (first.recover handle) (second.recover handleToo)
  rescope {α : Type} {first : Action σ α} {second : Action τ α} (tidy : Variables → Variables)
    (related : r α first second) :
    r α (first.ensure fun state => { state with «variables» := tidy state.variables })
      (second.ensure fun state => { state with «variables» := tidy state.variables })
  log (level : Logging.Level) (message : String) : r Unit (log level message) (log level message)
  scope : r Variables Action.variables Action.variables
  setVariables (scope : Variables) : r Unit (setVariables scope) (setVariables scope)

/-- Two executors that differ in their worlds alone, with related collaborators, clocks and
handlers. -/
structure Executor.Alike {σ τ : Type} (r : (α : Type) → Action σ α → Action τ α → Prop)
    (first : Executor σ) (second : Executor τ) : Prop where
  settings : second.settings = first.settings
  keywords : second.keywords = first.keywords
  handlers (type : String) :
    Option.Rel (fun handler handlerToo => ∀ step, r Value (handler step) (handlerToo step))
      (Entries.get? type first.handlers) (Entries.get? type second.handlers)
  request (request : Http.Request) :
    r _ (Action.outside (first.collaborators.request request))
      (Action.outside (second.collaborators.request request))
  agent :
    Option.Rel (fun invoke invokeToo => ∀ request, r Value (Action.outside (invoke request))
      (Action.outside (invokeToo request))) first.collaborators.agent second.collaborators.agent
  sleep (seconds : Binary64) : r Unit (first.sleep seconds) (second.sleep seconds)
  now : r Binary64 first.now second.now

namespace Action.Relates

open Executor

variable {σ τ : Type} {r : (α : Type) → Action σ α → Action τ α → Prop} {header : StepHeader}
  (closed : Relates r)

include closed

section

variable {α β : Type} {first : Action σ α} {second : Action τ α}

theorem ofExcept (result : Except Failure α) : r α (ofExcept result) (ofExcept result) := by
  cases result with
  | ok result => exact closed.done result
  | error failure => exact closed.fail failure

theorem map (f : α → β) (related : r α first second) : r β (f <$> first) (f <$> second) :=
  closed.bind related fun result => closed.done (f result)

theorem settle (related : r α first second) : r _ first.settle second.settle :=
  closed.recover (closed.bind related fun result => closed.done (Except.ok result)) fun failure =>
    closed.done (Except.error failure)

end

theorem keep (output : Value) : r Value (Executor.keep header output)
    (Executor.keep header output) := by
  unfold Executor.keep
  split
  · exact closed.bind closed.scope fun scope => closed.bind (closed.ofExcept _) fun assigned =>
      closed.bind (closed.setVariables assigned) fun _ => closed.done output
  · exact closed.done output

theorem runBranch {first : Bool → Branch σ} {second : Bool → Branch τ}
    (single : ∀ verdict, Option.Rel (r Value) (first verdict).single (second verdict).single)
    (listed : ∀ verdict, Option.Rel (r (List StepEntry)) (first verdict).listed
      (second verdict).listed) (verdict : Bool) :
    r Value (runBranch first verdict) (runBranch second verdict) := by
  have sameHeld : ((second true).single.isSome || (second false).single.isSome) =
      ((first true).single.isSome || (first false).single.isSome) := by
    have same (either : Bool) : (second either).single.isSome = (first either).single.isSome := by
      have related := single either
      generalize (first either).single = run, (second either).single = runToo at related ⊢
      cases related <;> rfl
    rw [same, same]
  unfold Executor.runBranch
  rw [sameHeld]
  split
  · have singles := single verdict
    generalize (first verdict).single = run, (second verdict).single = runToo at singles ⊢
    cases singles with
    | some related => exact closed.map (withResult verdict) related
    | none => exact closed.done _
  · have lists := listed verdict
    generalize (first verdict).listed = run, (second verdict).listed = runToo at lists ⊢
    cases lists with
    | some related => exact closed.bind related fun _ => closed.done _
    | none => exact closed.done _

theorem visitItems {body : Action σ (List StepEntry)} {bodyToo : Action τ (List StepEntry)}
    (related : r _ body bodyToo) (position : Nat) (items : List Value) :
    r _ (visitItems body position items) (visitItems bodyToo position items) := by
  induction items generalizing position with
  | nil => exact closed.done []
  | cons item rest inductionHypothesis =>
      exact closed.bind closed.scope fun scope => closed.bind (closed.setVariables _) fun _ =>
        closed.bind related fun entries => closed.bind (inductionHypothesis (position + 1))
          fun others => closed.done _

theorem looping {source : Value} {body : Action σ (List StepEntry)}
    {bodyToo : Action τ (List StepEntry)} (related : r _ body bodyToo) :
    r Value (looping header source body) (looping header source bodyToo) := by
  refine closed.bind closed.scope fun before => closed.bind (closed.ofExcept _) fun resolved => ?_
  cases resolved with
  | list items =>
      exact closed.bind (closed.rescope (restoreLoop before) (closed.visitItems related 0 items))
        fun results => closed.done _
  | _ => exact closed.ofExcept _

theorem fallingBack {primary : Action σ (List StepEntry)} {primaryToo : Action τ (List StepEntry)}
    {alternative : Option (Action σ (List StepEntry))}
    {alternativeToo : Option (Action τ (List StepEntry))} (related : r _ primary primaryToo)
    (relatedToo : Option.Rel (r _) alternative alternativeToo) :
    r Value (fallingBack header primary alternative)
      (fallingBack header primaryToo alternativeToo) := by
  refine closed.recover (closed.bind related fun _ => closed.done _) fun failure => ?_
  cases relatedToo with
  | none => exact closed.fail failure
  | some further =>
      exact closed.bind (closed.log _ _) fun _ => closed.bind further fun _ => closed.done _

theorem entry {run : Action σ Value} {runToo : Action τ Value} (related : r Value run runToo) :
    r StepEntry (entry header run) (entry header runToo) := by
  refine closed.recover (closed.bind related fun _ => closed.done _) fun failure => ?_
  split
  · exact closed.fail failure
  · exact closed.bind (closed.log _ _) fun _ => closed.done _

variable {executor : Executor σ} {executorToo : Executor τ}
  (alike : executor.Alike r executorToo)

include alike

theorem send (request : Http.Request) : r _ (executor.send request) (executorToo.send request) := by
  unfold Executor.send
  refine closed.bind (closed.ofExcept _) fun _ => closed.bind (closed.log _ _) fun _ =>
    closed.bind (alike.request request) fun exchange => ?_
  cases exchange with
  | answered response => exact closed.done response
  | timedOut _ _ | broken _ _ => exact closed.fail _

theorem callApi : r Value (executor.callApi header) (executorToo.callApi header) := by
  unfold Executor.callApi
  rw [alike.settings]
  exact closed.bind closed.scope fun _ => closed.bind (closed.ofExcept _) fun _ =>
    closed.bind (closed.ofExcept _) fun request => closed.bind (closed.send alike request)
      fun _ => closed.bind (closed.log _ _) fun _ => closed.ofExcept _

theorem callWebhook : r Value (executor.callWebhook header) (executorToo.callWebhook header) := by
  unfold Executor.callWebhook
  rw [alike.settings]
  refine closed.bind closed.scope fun _ => closed.bind (closed.ofExcept _) fun _ =>
    closed.bind (closed.ofExcept _) fun request => closed.bind (closed.send alike request)
      fun response => closed.bind (closed.ofExcept _) fun _ => ?_
  split
  · exact closed.bind (closed.log _ _) fun _ => closed.done _
  · exact closed.done _

theorem callAgent : r Value (executor.callAgent header) (executorToo.callAgent header) := by
  unfold Executor.callAgent
  refine closed.bind closed.scope fun _ => closed.bind (closed.ofExcept _) fun config => ?_
  have agents := alike.agent
  generalize executor.collaborators.agent = agent, executorToo.collaborators.agent = agentToo
    at agents ⊢
  cases agents with
  | none => exact closed.fail _
  | some related =>
      exact closed.bind (closed.ofExcept _) fun _ => closed.recover (related _)
        fun _ => closed.fail _

theorem wait : r Value (executor.wait header) (executorToo.wait header) := by
  unfold Executor.wait
  rw [alike.settings]
  refine closed.bind closed.scope fun _ => closed.bind (closed.ofExcept _) fun _ =>
    closed.bind (closed.ofExcept _) fun _ => closed.bind (closed.ofExcept _) fun duration => ?_
  have rest : r Value
      (do
        executor.sleep (duration.div (Binary64.ofNat 1000))
        pure (Value.object [("delayed", reported duration)]))
      (do
        executorToo.sleep (duration.div (Binary64.ofNat 1000))
        pure (Value.object [("delayed", reported duration)])) :=
    closed.bind (alike.sleep _) fun _ => closed.done _
  split
  · exact closed.bind (closed.fail _) fun _ => rest
  · exact rest

theorem judgeAndReport (expression : Value) :
    r Bool (executor.judgeAndReport header expression)
      (executorToo.judgeAndReport header expression) := by
  unfold Executor.judgeAndReport Executor.judge
  rw [alike.keywords]
  exact closed.bind (closed.bind closed.scope fun _ => closed.bind (closed.log _ _) fun _ =>
    closed.done _) fun _ => closed.bind (closed.log _ _) fun _ => closed.done _

theorem pause (id : String) (plan : RetryPlan) (number : Nat) (failure : Failure) :
    r Unit (executor.pause id plan number failure) (executorToo.pause id plan number failure) := by
  refine closed.bind (closed.log _ _) fun _ => ?_
  split
  · exact alike.sleep _
  · exact closed.done ()

theorem attempt {id : String} {plan : RetryPlan} {body : Action σ (List StepEntry)}
    {bodyToo : Action τ (List StepEntry)} (related : r _ body bodyToo) (left number : Nat) :
    r _ (executor.attempt id plan body left number)
      (executorToo.attempt id plan bodyToo left number) := by
  induction left generalizing number with
  | zero =>
      rw [attempt_eq, attempt_eq]
      refine closed.bind (closed.settle related) fun ended => ?_
      cases ended with
      | ok entries => exact closed.done _
      | error failure => exact closed.bind (closed.log _ _) fun _ => closed.done _
  | succ left inductionHypothesis =>
      rw [attempt_eq, attempt_eq]
      refine closed.bind (closed.settle related) fun ended => ?_
      cases ended with
      | ok entries => exact closed.done _
      | error failure =>
          exact closed.bind (closed.pause alike _ _ _ _) fun _ => inductionHypothesis _

theorem retrying {maxAttempts backoffSeconds : Value} {body : Action σ (List StepEntry)}
    {bodyToo : Action τ (List StepEntry)} {recovery : Option (Action σ (List StepEntry))}
    {recoveryToo : Option (Action τ (List StepEntry))} (related : r _ body bodyToo)
    (relatedToo : Option.Rel (r _) recovery recoveryToo) :
    r Value (executor.retrying header maxAttempts backoffSeconds body recovery)
      (executorToo.retrying header maxAttempts backoffSeconds bodyToo recoveryToo) := by
  unfold Executor.retrying
  rw [alike.settings]
  refine closed.bind (closed.ofExcept _) fun plan =>
    closed.bind (closed.attempt alike related _ _) fun ended => ?_
  cases ended with
  | ok ended => exact closed.done _
  | error failure =>
      cases relatedToo with
      | none => exact closed.fail _
      | some further =>
          exact closed.bind (closed.log _ _) fun _ => closed.bind further fun _ => closed.done _

omit alike in
theorem executeAll {steps : List Step}
    (related : ∀ step ∈ steps, r Value (executor.execute step) (executorToo.execute step)) :
    r _ (executor.executeAll steps) (executorToo.executeAll steps) := by
  induction steps with
  | nil =>
      rw [Executor.executeAll, Executor.executeAll]
      exact closed.done []
  | cons step rest inductionHypothesis =>
      rw [List.forall_mem_cons] at related
      rw [Executor.executeAll, Executor.executeAll]
      exact closed.bind (closed.entry related.1) fun _ =>
        closed.bind (inductionHypothesis related.2) fun _ => closed.done _

/-- What a step does is related on two worlds as what the steps inside it do is. -/
theorem handle {step : Step}
    (related : ∀ child ∈ step.children, r Value (executor.execute child)
      (executorToo.execute child)) (kind : StepType) :
    r Value (executor.handle step kind) (executorToo.handle step kind) := by
  have relatedAll (list : List Step) (listed : list ∈ step.lists) :
      r _ (executor.executeAll list) (executorToo.executeAll list) :=
    closed.executeAll fun child member =>
      related child (Step.mem_children_iff.mpr (.inl (List.mem_flatten_of_mem listed member)))
  have relatedUnlessEmpty (list : List Step) (listed : list ∈ step.lists) :
      Option.Rel (r _) (unlessEmpty list (executor.executeAll list))
        (unlessEmpty list (executorToo.executeAll list)) := by
    unfold unlessEmpty
    split
    · exact .none
    · exact .some (relatedAll list listed)
  cases kind with
  | apiCall => exact closed.callApi alike
  | agentCall => exact closed.callAgent alike
  | webhook => exact closed.callWebhook alike
  | delay => exact closed.wait alike
  | condition =>
      by_cases null : step.expression.isNull = true
      · have missing : executor.handle step .condition = Action.raise _ :=
          funext (handle_condition_of_null null)
        have missingToo : executorToo.handle step .condition = Action.raise _ :=
          funext (handle_condition_of_null null)
        rw [missing, missingToo]
        exact closed.fail _
      · have given := Bool.eq_false_iff.mpr null
        rw [handle_condition given, handle_condition given]
        refine closed.bind (closed.judgeAndReport alike _) (closed.runBranch ?_ ?_)
        · intro verdict
          rw [branchFor, branchFor]
          cases chosen : step.single verdict with
          | none => exact .none
          | some inner =>
              refine .some (related inner (Step.mem_children_iff.mpr (.inr ?_)))
              cases verdict
              · exact .inr chosen
              · exact .inl chosen
        · intro verdict
          refine relatedUnlessEmpty _ ?_
          cases verdict <;> simp [Step.lists, Step.branch]
  | retry =>
      exact closed.retrying alike (relatedAll _ (by simp [Step.lists, Step.attempted]))
        (relatedUnlessEmpty _ (by simp [Step.lists, Step.recovery]))
  | fallback =>
      exact closed.fallingBack (relatedAll _ (by simp [Step.lists, Step.primary]))
        (relatedUnlessEmpty _ (by simp [Step.lists, Step.alternative]))
  | loop => exact closed.looping (relatedAll _ (by simp [Step.lists, Step.iterated]))

theorem complete {run : Action σ Value} {runToo : Action τ Value} (related : r Value run runToo) :
    r Value (executor.complete header run) (executorToo.complete header runToo) :=
  closed.bind (closed.log _ _) fun _ => closed.bind alike.now fun _ =>
    closed.bind related fun output => closed.bind alike.now fun _ =>
      closed.bind (closed.ofExcept _) fun _ => closed.bind (closed.log _ _) fun _ =>
        closed.keep output

/-- The executions of a step on two worlds are related as the collaborators, the clocks and the
handlers of the hosts are. -/
theorem execute (step : Step) : r Value (executor.execute step) (executorToo.execute step) := by
  induction step using Step.inductionOnChildren with
  | inherit step inductionHypothesis =>
      have handlers := alike.handlers step.type
      cases handled : Entries.get? step.type executor.handlers with
      | some handler =>
          cases handledToo : Entries.get? step.type executorToo.handlers with
          | none => simp [handled, handledToo] at handlers
          | some handlerToo =>
              rw [handled, handledToo, Option.rel_some_some] at handlers
              rw [execute_of_handler handled, execute_of_handler handledToo]
              exact closed.complete alike (handlers step)
      | none =>
          cases handledToo : Entries.get? step.type executorToo.handlers with
          | some handlerToo => simp [handled, handledToo] at handlers
          | none =>
              cases known : StepType.ofName? step.type with
              | some kind =>
                  rw [RunsAs.execute_eq ⟨handled, known⟩, RunsAs.execute_eq ⟨handledToo, known⟩]
                  exact closed.complete alike (closed.handle alike inductionHypothesis kind)
              | none =>
                  rw [execute_of_unknown handled known, execute_of_unknown handledToo known]
                  exact closed.fail _

end Action.Relates

end Automation
