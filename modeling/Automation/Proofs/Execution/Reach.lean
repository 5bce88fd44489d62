import Automation.Proofs.Execution.Handling

/-!
Which steps an execution comes to, and in which states.

`Enters` has one constructor for each place where a composite step runs a step directly inside it:
under a verdict, in a branch, in an attempt, in the recovery, in either list of a fallback, and in
an iteration of a loop. `Reaches` follows such places to any depth, and gathers the variables that
the loops on the way found, which are what those loops restore when they end.
-/

namespace Automation.Executor

variable {σ : Type}

/-- A list of steps comes to one of its steps once every step before it gave its entry. -/
inductive ListEnters (executor : Executor σ) :
    List Step → State σ → Step → State σ → Prop where
  | first {step : Step} {rest : List Step} {state : State σ} :
      ListEnters executor (step :: rest) state step state
  | later {step inner : Step} {rest : List Step} {state between start : State σ}
      {result : StepEntry}
      (ends : entry step.header (executor.execute step) state = (.done result, between))
      (further : ListEnters executor rest between inner start) :
      ListEnters executor (step :: rest) state inner start

/-- Report a failed attempt, and wait before the next one. -/
def pause (executor : Executor σ) (id : String) (plan : RetryPlan) (number : Nat)
    (failure : Failure) : Action σ Unit := do
  Action.log .warning s!"Retry {id} attempt {number}/{plan.attempts} failed: {failure.message}"
  if plan.backoff.isPositive then executor.sleep plan.backoff else Action.done ()

/-- The attempts that a retry comes to from one of its attempts, each told by how many may follow
it, its number and the state that it starts in: the attempt itself, and each further one after a
failed attempt and the pause. -/
inductive AttemptStarts (executor : Executor σ) (id : String) (plan : RetryPlan)
    (body : Action σ (List StepEntry)) :
    (left number : Nat) → State σ → (leftThen numberThen : Nat) → State σ → Prop where
  | first {left number : Nat} {state : State σ} :
      AttemptStarts executor id plan body left number state left number state
  | later {left number leftThen numberThen : Nat} {state failed paused start : State σ}
      {failure : Failure} (fails : body state = (.failed failure, failed))
      (pauses : executor.pause id plan number failure failed = (.done (), paused))
      (further : AttemptStarts executor id plan body left (number + 1) paused leftThen numberThen
        start) :
      AttemptStarts executor id plan body (left + 1) number state leftThen numberThen start

/-- A state with the variables of a loop bound for one item. -/
def bound (position : Nat) (item : Value) (state : State σ) : State σ :=
  { state with
    «variables» := (state.variables.set itemName item).set indexName (.int position) }

/-- The states in which the iterations of a loop start, each after the one before is done. -/
inductive IterationStarts (body : Action σ (List StepEntry)) :
    (position : Nat) → List Value → State σ → State σ → Prop where
  | first {position : Nat} {item : Value} {rest : List Value} {state : State σ} :
      IterationStarts body position (item :: rest) state (bound position item state)
  | later {position : Nat} {item : Value} {rest : List Value} {state between start : State σ}
      {entries : List StepEntry}
      (ends : body (bound position item state) = (.done entries, between))
      (further : IterationStarts body (position + 1) rest between start) :
      IterationStarts body position (item :: rest) state start

/-- A step comes to a step directly inside it; a loop also found some variables before. -/
inductive Enters (executor : Executor σ) :
    Step → State σ → Step → State σ → Option Variables → Prop where
  | single {step inner : Step} {state start : State σ} {verdict : Bool}
      (runs : executor.RunsAs step .condition) (given : step.expression.isNull = false)
      (judged : executor.judgeAndReport step.header step.expression (opened step.header state) =
        (.done verdict, start))
      (chosen : step.single verdict = some inner) :
      Enters executor step state inner start none
  | branch {step inner : Step} {state judgedState start : State σ} {verdict : Bool}
      (runs : executor.RunsAs step .condition) (given : step.expression.isNull = false)
      (judged : executor.judgeAndReport step.header step.expression (opened step.header state) =
        (.done verdict, judgedState))
      (noSingle : step.trueStep = none ∧ step.falseStep = none)
      (listed : executor.ListEnters (step.branch verdict) judgedState inner start) :
      Enters executor step state inner start none
  | attempt {step inner : Step} {state attemptStart start : State σ} {plan : RetryPlan}
      {left number : Nat} (runs : executor.RunsAs step .retry)
      (planned : executor.planOf step = .ok plan)
      (attempted : executor.AttemptStarts step.id plan (executor.executeAll step.attempted)
        (plan.attempts.toNat - 1) 1 (opened step.header state) left number attemptStart)
      (listed : executor.ListEnters step.attempted attemptStart inner start) :
      Enters executor step state inner start none
  | recovery {step inner : Step} {state exhausted start : State σ} {plan : RetryPlan}
      {failure : Failure}
      (runs : executor.RunsAs step .retry) (planned : executor.planOf step = .ok plan)
      (fails : executor.attempt step.id plan (executor.executeAll step.attempted)
        (plan.attempts.toNat - 1) 1 (opened step.header state) =
          (.done (.error failure), exhausted))
      (listed : executor.ListEnters step.recovery
        { exhausted with
          log := ⟨.info, s!"Retry {step.id} exhausted, running recovery steps"⟩ :: exhausted.log }
        inner start) :
      Enters executor step state inner start none
  | primary {step inner : Step} {state start : State σ}
      (runs : executor.RunsAs step .fallback)
      (listed : executor.ListEnters step.primary (opened step.header state) inner start) :
      Enters executor step state inner start none
  | alternative {step inner : Step} {state failed start : State σ} {failure : Failure}
      (runs : executor.RunsAs step .fallback)
      (fails : executor.executeAll step.primary (opened step.header state) =
        (.failed failure, failed))
      (listed : executor.ListEnters step.alternative
        { failed with
          log := ⟨.warning,
            s!"Primary steps of {step.id} failed, using fallback: {failure.message}"⟩
              :: failed.log }
        inner start) :
      Enters executor step state inner start none
  | iteration {step inner : Step} {state iterationStart start : State σ} {items : List Value}
      (runs : executor.RunsAs step .loop)
      (resolved : resolveSource state.variables step.itemSource = .ok (.list items))
      (iterated : IterationStarts (executor.executeAll step.iterated) 0 items
        (opened step.header state) iterationStart)
      (listed : executor.ListEnters step.iterated iterationStart inner start) :
      Enters executor step state inner start (some state.variables)

/-- A step comes to itself, and to the steps that a step directly inside it comes to. The variables
are those that the loops in between found, from the innermost loop to the outermost. -/
inductive Reaches (executor : Executor σ) :
    Step → State σ → Step → State σ → List Variables → Prop where
  | here {step : Step} {state : State σ} : Reaches executor step state step state []
  | inside {step child inner : Step} {state between start : State σ} {loop : Option Variables}
      {scopes : List Variables}
      (enters : executor.Enters step state child between loop)
      (further : executor.Reaches child between inner start scopes) :
      Reaches executor step state inner start (scopes ++ loop.toList)

end Automation.Executor
