import Automation.Entries
import Automation.Number.Binary64

/-!
The dynamic values that blueprints, trigger payloads, variables and step outputs are made of.

They are the values of JSON, with integers and double precision numbers kept apart, and with
foreign values, which the host hands in and the engine only passes on, tests for truth and prints.
A foreign value is told from others by its identity. An object whose names are not all texts is a
`mapping`: only the variables of a run are bound in that way.

Texts hold characters only. A text with a lone surrogate in it, which an escape in JSON can bring in
elsewhere, is outside of these values.
-/

namespace Automation

/-- A dynamic value. The names of an object keep their order. -/
inductive Value where
  | null
  | bool (truth : Bool)
  | int (number : Int)
  | float (number : Binary64)
  | text (characters : String)
  | list (items : List Value)
  | object (fields : List (String × Value))
  | mapping (bindings : List (Value × Value))
  | foreign (identity : Nat) (label : String)
  deriving BEq, Repr, Inhabited

/-- The fields of an object. -/
abbrev Fields := Entries Value

namespace Value

/-- What a value counts as where a condition is asked for. -/
def truthy : Value → Bool
  | .null => false
  | .bool truth => truth
  | .int number => number != 0
  | .float number => !number.isZero
  | .text characters => characters != ""
  | .list items => !items.isEmpty
  | .object fields => !fields.isEmpty
  | .mapping bindings => !bindings.isEmpty
  | .foreign _ _ => true

/-- The first value that counts as true, else the second. -/
def orElse (first second : Value) : Value := if first.truthy then first else second

/-- Whether a value is null. -/
def isNull : Value → Bool
  | .null => true
  | _ => false

/-- Whether a value is an object. -/
def isObject : Value → Bool
  | .object _ | .mapping _ => true
  | _ => false

/-- Whether a value is a given text. -/
def isText (wanted : String) : Value → Bool
  | .text characters => characters == wanted
  | _ => false

/-- The fields of an object. -/
def fields? : Value → Option Fields
  | .object fields => some fields
  | _ => none

/-- The fields of an object; any other value has none. -/
def fields : Value → Fields
  | .object fields => fields
  | _ => []

/-- A text value from characters. -/
def ofChars (characters : List Char) : Value := .text (String.ofList characters)

end Value

/-- The value of a field, null where it is missing. -/
def Fields.valueOf (name : String) (fields : Fields) : Value :=
  (Entries.get? name fields).getD .null

end Automation
