import Automation.Number.Numeral

/-!
JSON text of values.

The text is ASCII: any other character is written as an escape, above the basic plane as a pair of
escapes. Items are separated by a comma and a blank, names and values by a colon and a blank.
Infinite numbers and not-a-number are written by name, foreign values as their labels.
`checkWritable` refuses a mapping with a name that JSON has no text for and an integer with more
digits than are written.
-/

namespace Automation.Json

/-- A sixteen bit unit as an escape. -/
def unitEscape (unit : Nat) : List Char := '\\' :: 'u' :: Text.hex 4 unit

/-- One character inside a text. -/
def escape (c : Char) : List Char :=
  if c = '"' then ['\\', '"']
  else if c = '\\' then ['\\', '\\']
  else if c = '\n' then ['\\', 'n']
  else if c = '\r' then ['\\', 'r']
  else if c = '\t' then ['\\', 't']
  else if c = '\x08' then ['\\', 'b']
  else if c = '\x0c' then ['\\', 'f']
  else if ' ' ≤ c ∧ c ≤ '~' then [c]
  else if c.toNat < 0x10000 then unitEscape c.toNat
  else
    let offset := c.toNat - 0x10000
    unitEscape (0xd800 + offset / 0x400) ++ unitEscape (0xdc00 + offset % 0x400)

/-- A text between double quotes. -/
def writeText (text : List Char) : List Char := '"' :: text.flatMap escape ++ ['"']

/-- A double precision number. -/
def writeDouble : Binary64 → List Char
  | .notANumber _ => "NaN".toList
  | .infinite false => "Infinity".toList
  | .infinite true => "-Infinity".toList
  | number => number.text

/-- A name: numbers and truth values are written as texts of their own JSON texts. -/
def writeName : Value → List Char
  | .text characters => writeText characters.toList
  | .null => writeText "null".toList
  | .bool true => writeText "true".toList
  | .bool false => writeText "false".toList
  | .float number => writeText (writeDouble number)
  | other => writeText other.displayed

mutual

/-- The JSON text of a value. -/
def write : Value → List Char
  | .null => "null".toList
  | .bool true => "true".toList
  | .bool false => "false".toList
  | .int number => Decimal.integer number
  | .float number => writeDouble number
  | .text characters => writeText characters.toList
  | .list items => '[' :: writeItems items ++ [']']
  | .object fields => '{' :: writeFields fields ++ ['}']
  | .mapping bindings => '{' :: writeBindings bindings ++ ['}']
  | .foreign _ label => writeText label.toList

/-- The items of a list. -/
def writeItems : List Value → List Char
  | [] => []
  | [item] => write item
  | item :: rest => write item ++ ',' :: ' ' :: writeItems rest

/-- The fields of an object. -/
def writeFields : List (String × Value) → List Char
  | [] => []
  | [(name, value)] => writeText name.toList ++ ':' :: ' ' :: write value
  | (name, value) :: rest =>
      writeText name.toList ++ ':' :: ' ' :: write value ++ ',' :: ' ' :: writeFields rest

/-- The bindings of a mapping. -/
def writeBindings : List (Value × Value) → List Char
  | [] => []
  | [(name, value)] => writeName name ++ ':' :: ' ' :: write value
  | (name, value) :: rest =>
      writeName name ++ ':' :: ' ' :: write value ++ ',' :: ' ' :: writeBindings rest

end

/-- Refuse a name that JSON has no text for. -/
def checkName (name : Value) : Except Failure Unit :=
  match name with
  | .list _ | .object _ | .mapping _ | .foreign _ _ => .error (.unwritableName name.kind)
  | _ => .ok ()

/-- Refuse an integer with more digits than are written. -/
def checkInteger (number : Int) : Except Failure Unit :=
  if digitLimit < (Decimal.digits number.natAbs).length then .error .unprintableInteger
  else .ok ()

/-- Refuse a name that is not written. -/
def checkWritableName (name : Value) : Except Failure Unit :=
  match name with
  | .int number => checkInteger number
  | other => checkName other

mutual

/-- Refuse a value with a name or an integer in it that is not written. What comes first in the text
decides over the failure. -/
def checkWritable : Value → Except Failure Unit
  | .int number => checkInteger number
  | .list items => checkWritableItems items
  | .object fields => checkWritableFields fields
  | .mapping bindings => checkWritableBindings bindings
  | _ => .ok ()

/-- Refuse items with a name or an integer in them that is not written. -/
def checkWritableItems : List Value → Except Failure Unit
  | [] => .ok ()
  | item :: rest => do
      checkWritable item
      checkWritableItems rest

/-- Refuse fields with a name or an integer in them that is not written. -/
def checkWritableFields : List (String × Value) → Except Failure Unit
  | [] => .ok ()
  | (_, value) :: rest => do
      checkWritable value
      checkWritableFields rest

/-- Refuse bindings with a name or an integer in them that is not written. -/
def checkWritableBindings : List (Value × Value) → Except Failure Unit
  | [] => .ok ()
  | (name, value) :: rest => do
      checkWritableName name
      checkWritable value
      checkWritableBindings rest

end

/-- The JSON text of a value, as a string. -/
def toText (value : Value) : String := String.ofList (write value)

end Automation.Json
