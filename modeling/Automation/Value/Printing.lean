import Automation.Number.Numeral

/-!
Printing values.

An integer is printed in its digits if there are not too many of them. A value with a longer integer
in it has no text, and printing it is a failure.
-/

namespace Automation.Value

/-- Whether an integer has no more digits than are printed. -/
def isPrintableInteger (number : Int) : Bool :=
  (Decimal.digits number.natAbs).length ≤ digitLimit

mutual

/-- Whether every integer in a value is printed. -/
def isPrintable : Value → Bool
  | .int number => isPrintableInteger number
  | .list items => arePrintable items
  | .object fields => arePrintableFields fields
  | .mapping bindings => arePrintableBindings bindings
  | _ => true

/-- Whether every integer in the items of a list is printed. -/
def arePrintable : List Value → Bool
  | [] => true
  | item :: rest => isPrintable item && arePrintable rest

/-- Whether every integer in the fields of an object is printed. -/
def arePrintableFields : List (String × Value) → Bool
  | [] => true
  | (_, value) :: rest => isPrintable value && arePrintableFields rest

/-- Whether every integer in the bindings of a mapping is printed. -/
def arePrintableBindings : List (Value × Value) → Bool
  | [] => true
  | (name, value) :: rest =>
      isPrintable name && isPrintable value && arePrintableBindings rest

end

/-- Print a value. -/
def print (value : Value) : Except Failure String :=
  if value.isPrintable then .ok value.display else .error .unprintableInteger

/-- Print a value with texts in quotes. -/
def printQuoted (value : Value) : Except Failure String :=
  if value.isPrintable then .ok value.inspect else .error .unprintableInteger

end Automation.Value
