import Automation.Value

/-!
Equality and order of values.

Numbers of both kinds compare by their exact values, and truth values count as one and zero.
Texts compare by code points, lists item by item; nothing else has an order. Not-a-number equals
nothing, but inside lists and objects the same one, told by its payload, is the same item.
-/

namespace Automation

/-- The values of numbers other than not-a-number. -/
inductive Extended where
  | negativeInfinity
  | finite (value : Rat)
  | positiveInfinity
  deriving DecidableEq

namespace Extended

/-- The order of extended numbers. -/
def compare : Extended → Extended → Ordering
  | .negativeInfinity, .negativeInfinity => .eq
  | .negativeInfinity, _ => .lt
  | _, .negativeInfinity => .gt
  | .positiveInfinity, .positiveInfinity => .eq
  | .positiveInfinity, _ => .gt
  | _, .positiveInfinity => .lt
  | .finite left, .finite right =>
      if left < right then .lt else if left = right then .eq else .gt

end Extended

/-- The exact value of a number; not-a-number has none. -/
def Binary64.extended? : Binary64 → Option Extended
  | .notANumber _ => none
  | .infinite true => some .negativeInfinity
  | .infinite false => some .positiveInfinity
  | .finite negative magnitude =>
      (Binary64.finite negative magnitude).toRat?.map .finite

namespace Value

/-- Whether a value counts as a number. -/
def isNumber : Value → Bool
  | .bool _ | .int _ | .float _ => true
  | _ => false

/-- The exact value of a number; not-a-number and other values have none. -/
def extended? : Value → Option Extended
  | .bool truth => some (.finite (if truth then 1 else 0))
  | .int number => some (.finite number)
  | .float number => number.extended?
  | _ => none

/-- Whether two values are the same not-a-number. -/
def isSameNotANumber : Value → Value → Bool
  | .float (.notANumber left), .float (.notANumber right) => left == right
  | _, _ => false

/-- The order of two numbers, unless one of them is not-a-number. -/
def compareNumbers? (left right : Value) : Option Ordering :=
  match left.extended?, right.extended? with
  | some leftValue, some rightValue => some (leftValue.compare rightValue)
  | _, _ => none

/-- Whether two values are the same name. Numbers of both kinds and truth values are the same name
where they are equal. -/
def sameName : Value → Value → Bool
  | .null, .null => true
  | .text left, .text right => left == right
  | .foreign left _, .foreign right _ => left == right
  | left, right =>
      left.isSameNotANumber right
        || (left.isNumber && right.isNumber && compareNumbers? left right == some .eq)

mutual

/-- Equality of values. Objects are equal where they bind the same names to equal values, in any
order; a foreign value equals only itself. -/
def equals : Value → Value → Bool
  | .null, .null => true
  | .text left, .text right => left == right
  | .list left, .list right => equalItems left right
  | .object left, .object right => left.length == right.length && equalFields left right
  | .mapping left, .mapping right => left.length == right.length && equalBindings left right
  | .foreign left _, .foreign right _ => left == right
  | left, right =>
      left.isNumber && right.isNumber && compareNumbers? left right == some .eq

/-- Equality of the items of two lists. -/
def equalItems : List Value → List Value → Bool
  | [], [] => true
  | left :: lefts, right :: rights =>
      (left.equals right || left.isSameNotANumber right) && equalItems lefts rights
  | _, _ => false

/-- Whether every field is bound to an equal value in another object. -/
def equalFields : List (String × Value) → Fields → Bool
  | [], _ => true
  | (name, left) :: rest, fields =>
      (match Entries.get? name fields with
        | some right => left.equals right || left.isSameNotANumber right
        | none => false) && equalFields rest fields

/-- Whether every name is bound to an equal value among other bindings. -/
def equalBindings : List (Value × Value) → List (Value × Value) → Bool
  | [], _ => true
  | (name, left) :: rest, bindings =>
      (match bindings.find? fun binding => name.sameName binding.1 with
        | some (_, right) => left.equals right || left.isSameNotANumber right
        | none => false) && equalBindings rest bindings

end

/-- Whether two items of a list count as the same. -/
def sameItem (left right : Value) : Bool :=
  left.equals right || left.isSameNotANumber right

mutual

/-- Whether the order of two values passes a test; values without an order give nothing, and
not-a-number passes no test. -/
def ordered? (test : Ordering → Bool) : Value → Value → Option Bool
  | .text left, .text right => some (test (compare left right))
  | .list left, .list right => orderedItems? test left right
  | left, right =>
      if left.isNumber && right.isNumber then
        some ((compareNumbers? left right).any test)
      else none

/-- The order of two lists is decided by their first difference, else by their lengths. -/
def orderedItems? (test : Ordering → Bool) : List Value → List Value → Option Bool
  | [], [] => some (test .eq)
  | [], _ :: _ => some (test .lt)
  | _ :: _, [] => some (test .gt)
  | left :: lefts, right :: rights =>
      if sameItem left right then orderedItems? test lefts rights
      else left.ordered? test right

end

end Value
end Automation
