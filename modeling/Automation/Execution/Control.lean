import Automation.Condition.Evaluator
import Automation.Execution.Executor
import Automation.Number.Conversion
import Automation.Variables.Template

/-!
What composite steps do with the steps inside them.

Every function takes the actions of the inner steps and combines them: `choose` runs a branch,
`retrying` repeats a body until it succeeds, `fallingBack` runs an alternative after a failure, and
`looping` runs a body for every item of a list.
-/

namespace Automation.Executor

variable {σ : Type}

/-- What a condition step holds for one verdict: a single step, and a list of steps. -/
structure Branch (σ : Type) where
  single : Option (Action σ Value)
  listed : Option (Action σ (List StepEntry))

/-- The output of a condition without further output. -/
def verdictFields (verdict : Bool) : Fields := [("conditionResult", .bool verdict)]

/-- The output of a condition with the output of its single step: the fields of an object are
added, any other output goes under one name. -/
def withResult (verdict : Bool) (output : Value) : Value :=
  match output with
  | .object fields => .object (Entries.merge (verdictFields verdict) fields)
  | .mapping bindings =>
      (Bindings.merge (Bindings.ofFields (verdictFields verdict)) bindings).toValue
  | other => .object (verdictFields verdict ++ [("result", other)])

/-- The truth of a condition in the current variables. -/
def judge (executor : Executor σ) (expression : Value) : Action σ Bool := do
  let scope ← Action.variables
  let found := Condition.evaluate executor.keywords expression scope.named
  Action.log found.report.level found.report.message
  pure found.truth

/-- Run a condition. Single steps go before lists: where either verdict has one, no list runs. -/
def choose (executor : Executor σ) (header : StepHeader) (blockExpression : Value)
    (ifTrue ifFalse : Branch σ) : Action σ Value := do
  let expression := match Fields.valueOf "condition" header.config with
    | .null => blockExpression
    | configured => configured
  if expression.isNull then
    Action.raise (.stepConfig s!"Condition step {header.id} has no expression" [])
  let verdict ← executor.judge expression
  Action.log .debug s!"Condition {header.id} evaluated to {(Value.bool verdict).display}"
  let branch := if verdict then ifTrue else ifFalse
  if ifTrue.single.isSome || ifFalse.single.isSome then
    match branch.single with
    | some run => withResult verdict <$> run
    | none => pure (.object (verdictFields verdict))
  else
    match branch.listed with
    | some run => do
        let entries ← run
        pure (.object (verdictFields verdict ++ [("branch", entriesValue entries)]))
    | none => pure (.object (verdictFields verdict))

/-- How often a retry runs its body, and how long it waits in between. -/
structure RetryPlan where
  attempts : Int
  backoff : Binary64
  deriving DecidableEq, Repr

/-- The plan of a retry: from its block, else from the configuration, else the default. -/
def retryPlan (settings : Settings) (header : StepHeader) (maxAttempts backoffSeconds : Value) :
    Except Failure RetryPlan := do
  let attempts :=
    (maxAttempts.orElse (Fields.valueOf "max_attempts" header.config)).orElse
      (.int settings.defaultRetryAttempts)
  let backoff :=
    (backoffSeconds.orElse (Fields.valueOf "backoff_seconds" header.config)).orElse (.int 0)
  let invalid : Failure :=
    .engine (.stepConfig s!"Invalid retry settings on step {header.id}" [])
  match ← attempts.toInteger? with
  | none => .error invalid
  | some attempts =>
      match ← backoff.toDouble? with
      | none => .error invalid
      | some backoff =>
          if attempts < 1 then
            .error (.engine (.stepConfig s!"Retry step {header.id} needs max_attempts >= 1" []))
          else .ok ⟨attempts, backoff⟩

/-- Run a body until it succeeds, at most `left + 1` more times, counting from `number`. Gives the
number of the successful attempt with its entries, or the failure of the last one. The lines of the
log name the number of attempts of a plan, which is printed wherever the values are that the step
was read from. -/
def attempt (executor : Executor σ) (id : String) (plan : RetryPlan)
    (body : Action σ (List StepEntry)) :
    (left number : Nat) → Action σ (Except Failure (Nat × List StepEntry))
  | left, number => fun state =>
      match body state with
      | (.done entries, after) => (.done (.ok (number, entries)), after)
      | (.cancelled, after) => (.cancelled, after)
      | (.failed failure, after) =>
          let report : Action σ Unit := Action.log .warning
            s!"Retry {id} attempt {number}/{plan.attempts} failed: {failure.message}"
          match left with
          | 0 => (report.andThen fun _ => Action.done (.error failure)) after
          | left + 1 =>
              (report.andThen fun _ =>
                (if plan.backoff.isPositive then executor.sleep plan.backoff
                  else Action.done ()).andThen fun _ =>
                    attempt executor id plan body left (number + 1)) after

/-- Run a retry. -/
def retrying (executor : Executor σ) (header : StepHeader) (maxAttempts backoffSeconds : Value)
    (body : Action σ (List StepEntry)) (recovery : Option (Action σ (List StepEntry))) :
    Action σ Value := do
  let plan ← Action.ofExcept
    (retryPlan executor.settings header maxAttempts backoffSeconds)
  match ← executor.attempt header.id plan body (plan.attempts.toNat - 1) 1 with
  | .ok (number, entries) =>
      pure (.object [("attempts", .int number), ("results", entriesValue entries)])
  | .error failure =>
      match recovery with
      | some run => do
          Action.log .info s!"Retry {header.id} exhausted, running recovery steps"
          let entries ← run
          pure (.object [("attempts", .int plan.attempts), ("recovered", .bool true),
            ("results", entriesValue entries)])
      | none =>
          Action.raise (.maxRetriesExceeded
            s!"Step {header.id} failed after {plan.attempts} attempts: {failure.message}"
            (.int plan.attempts) (some failure))

/-- Run a fallback. -/
def fallingBack (header : StepHeader) (primary : Action σ (List StepEntry))
    (alternative : Option (Action σ (List StepEntry))) : Action σ Value :=
  let first : Action σ Value := do
    let entries ← primary
    pure (.object [("usedFallback", .bool false), ("results", entriesValue entries)])
  first.recover fun failure =>
    match alternative with
    | none => Action.fail failure
    | some run => do
        Action.log .warning
          s!"Primary steps of {header.id} failed, using fallback: {failure.message}"
        let entries ← run
        pure (.object [("usedFallback", .bool true), ("results", entriesValue entries),
          ("primaryError", .text failure.message)])

/-- Whether two opening braces stand in a text. -/
def hasPlaceholder : List Char → Bool
  | '\x7b' :: '\x7b' :: _ => true
  | _ :: rest => hasPlaceholder rest
  | [] => false

/-- The value that a source of items stands for: a text with placeholders is filled, any other text
is a path, and in any other value placeholders are filled. -/
def resolveSource (scope : Variables) : Value → Except Failure Value
  | .text source =>
      if hasPlaceholder source.toList then scope.resolveText source
      else (·.getD .null) <$> scope.lookup? (Text.trim source.toList)
  | source => scope.resolve source

/-- The variable that holds the item of a loop. -/
def itemName : String := "loop_item"

/-- The variable that holds the position of a loop. -/
def indexName : String := "loop_index"

/-- Bind a variable as it was bound before, if it was. -/
def rebind (scope : Variables) (name : String) : Option Value → Variables
  | some value => scope.set name value
  | none => scope

/-- Variables with the bindings of a loop as they were before it. -/
def restoreLoop (before after : Variables) : Variables :=
  let cleared := (after.unset itemName).unset indexName
  rebind (rebind cleared itemName (before.get? itemName)) indexName (before.get? indexName)

/-- Run a body for every item, counting from `position`. -/
def visitItems (body : Action σ (List StepEntry)) :
    (position : Nat) → List Value → Action σ (List Value)
  | _, [] => Action.done []
  | position, item :: rest => do
      let scope ← Action.variables
      Action.setVariables ((scope.set itemName item).set indexName (.int position))
      let entries ← body
      let others ← visitItems body (position + 1) rest
      pure (entriesValue entries :: others)

/-- The failure of a loop whose source stands for no list. -/
def noList (header : StepHeader) (source : Value) : Except Failure Value := do
  let shown ← source.printQuoted
  .error (.engine (.stepConfig
    s!"Loop step {header.id} array_source {shown} did not resolve to a list" []))

/-- Run a loop. -/
def looping (header : StepHeader) (source : Value) (body : Action σ (List StepEntry)) :
    Action σ Value := do
  let before ← Action.variables
  match ← Action.ofExcept (resolveSource before source) with
  | .list items => do
      let results ← (visitItems body 0 items).ensure fun state =>
        { state with «variables» := restoreLoop before state.variables }
      pure (.object [("iterations", .int items.length), ("results", .list results)])
  | _ => Action.ofExcept (noList header source)

end Automation.Executor
