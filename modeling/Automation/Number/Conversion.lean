import Automation.Number.Numeral

/-!
Values as numbers, where a setting of a step asks for one.

A value that stands for no number converts to nothing. A number that is out of range for the other
kind of number is a failure of its own.
-/

namespace Automation.Value

/-- The integer that a value stands for: a fraction is cut off, a truth value is one or zero, and
a text is read. -/
def toInteger? : Value → Except Failure (Option Int)
  | .bool truth => .ok (some (if truth then 1 else 0))
  | .int number => .ok (some number)
  | .float (.infinite _) => .error .infiniteInteger
  | .float number => .ok number.truncate?
  | .text characters => .ok (readInteger characters.toList).toOption
  | _ => .ok none

/-- The double precision number that a value stands for. -/
def toDouble? : Value → Except Failure (Option Binary64)
  | .bool truth => .ok (some (Binary64.ofNat (if truth then 1 else 0)))
  | .int number =>
      match Binary64.ofInt? number with
      | some double => .ok (some double)
      | none => .error .integerTooLarge
  | .float number => .ok (some number)
  | .text characters => .ok (readDouble? characters.toList)
  | _ => .ok none

end Automation.Value
