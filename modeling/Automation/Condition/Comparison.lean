import Automation.Condition.Token
import Automation.Number.Numeral
import Automation.Value.Order

/-!
Comparisons of conditions.

Null equals only null and has no order. A text that is a plain numeral counts as a number where it
is compared with one. Values without an order compare as false.
-/

namespace Automation.Condition

/-- The number that a text stands for beside a number. -/
def numericText? (text : String) : Except Failure (Option Value) :=
  match Numeral.read? (Text.trim text.toList) with
  | some numeral => some <$> numeral.value
  | none => .ok none

/-- Read a numeric text as a number where the other operand is a number. -/
def coerce (left right : Value) : Except Failure (Value × Value) :=
  match left, right with
  | .text characters, other =>
      if other.isNumber then do .ok (((← numericText? characters).getD left), right)
      else .ok (left, right)
  | other, .text characters =>
      if other.isNumber then do .ok (left, ((← numericText? characters).getD right))
      else .ok (left, right)
  | _, _ => .ok (left, right)

/-- Equality of operands. -/
def looselyEqual (left right : Value) : Except Failure Bool :=
  if left.isNull || right.isNull then .ok (left.isNull && right.isNull)
  else do
    let (left, right) ← coerce left right
    .ok (left.equals right)

/-- Order of operands. -/
def looselyOrdered (test : Ordering → Bool) (left right : Value) : Except Failure Bool :=
  if left.isNull || right.isNull then .ok false
  else do
    let (left, right) ← coerce left right
    .ok ((left.ordered? test right).getD false)

/-- Whether a comparison holds. -/
def Comparison.holds : Comparison → Value → Value → Except Failure Bool
  | .equal, left, right => looselyEqual left right
  | .notEqual, left, right => (!·) <$> looselyEqual left right
  | .greater, left, right => looselyOrdered (· == .gt) left right
  | .less, left, right => looselyOrdered (· == .lt) left right
  | .atLeast, left, right => looselyOrdered (· != .lt) left right
  | .atMost, left, right => looselyOrdered (· != .gt) left right

/-- Whether the comparison with a symbol holds. An unknown symbol is noticed only where neither
operand is null. -/
def compareBy (symbol : String) (left right : Value) : Except Failure Bool :=
  match Comparison.ofSymbol? symbol.toList with
  | some comparison => comparison.holds left right
  | none =>
      if left.isNull || right.isNull then .ok false
      else do
        let _ ← coerce left right
        .error (.unknownKey symbol)

end Automation.Condition
