import Automation.Number.Numeral
import Automation.Value.Bindings

/-!
Dotted paths into values.

A part of a path selects a field of an object by its name or an item of a list by its position,
which is written in digits.
-/

namespace Automation.Value

/-- The position that a part of a path names. A part that has digits only but is no integer is a
failure; any other part names no position. -/
def position? (part : List Char) : Except Failure (Option Int) :=
  if !part.isEmpty && part.all Text.isDigit then some <$> readInteger part else .ok none

/-- The value that one part of a path selects. -/
def select? (value : Value) (part : List Char) : Except Failure (Option Value) :=
  match value with
  | .object fields => .ok (Entries.get? (String.ofList part) fields)
  | .mapping bindings => .ok (Bindings.get? (Value.ofChars part) bindings)
  | .list items => do
      match ← position? part with
      | some position => .ok items[position.toNat]?
      | none => .ok none
  | _ => .ok none

/-- The value at the end of a path. -/
def follow? : Value → List (List Char) → Except Failure (Option Value)
  | value, [] => .ok (some value)
  | value, part :: parts => do
      match ← value.select? part with
      | some selected => selected.follow? parts
      | none => .ok none

end Automation.Value
