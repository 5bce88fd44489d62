import Automation.Condition.Grammar
import Automation.Condition.Safety
import Automation.Condition.Substitution
import Automation.Logging.Level

/-!
Evaluating a condition against variables.

An evaluation always has a truth value: a condition that is unsafe, that cannot be read, or whose
values cannot be computed is false. What happened is reported in one line of the log.
-/

namespace Automation.Condition

/-- A refusal of the tokens as a failure. -/
def tokens (text : List Char) : Except Failure (List Token) :=
  match tokenize text with
  | .ok tokens => .ok tokens
  | .error refusal => refuse refusal

/-- The truth of a condition, or why it has none. -/
def decide (keywords : List String) (expression : Value) (scope : Fields) :
    Except Failure Bool := do
  let checked ← match check keywords expression with
    | .ok text => .ok text
    | .error hazard => .error hazard.failure
  let substituted ← substitute scope checked
  verdict literalValue (← tokens substituted)

/-- A truth value and the line that reports how it was found. -/
structure Evaluation where
  truth : Bool
  report : Logging.Line
  deriving DecidableEq, Repr

/-- Evaluate a condition. -/
def evaluate (keywords : List String) (expression : Value) (scope : Fields) : Evaluation :=
  match decide keywords expression scope with
  | .ok truth =>
      ⟨truth, .debug,
        "Expression " ++ expression.inspect ++ " evaluated to " ++ (Value.bool truth).display⟩
  | .error (.engine error) =>
      if error.isExpressionError then
        ⟨false, .warning, s!"Expression rejected ({error.code}): {error.message}"⟩
      else ⟨false, .error, s!"Expression evaluation failed: {error.message}"⟩
  | .error failure => ⟨false, .error, s!"Expression evaluation failed: {failure.message}"⟩

end Automation.Condition
