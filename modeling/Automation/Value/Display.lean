import Automation.Number.Decimal
import Automation.Text.Quoted
import Automation.Value

/-!
The text of a value, as messages and interpolated placeholders show it.

A text shows as itself; inside a list or an object it is quoted. `kind` names what a value is.
-/

namespace Automation.Value

/-- The name of a value's kind, in words about values of a wrong kind. -/
def kind : Value → String
  | .null => "NoneType"
  | .bool _ => "bool"
  | .int _ => "int"
  | .float _ => "float"
  | .text _ => "str"
  | .list _ => "list"
  | .object _ | .mapping _ => "dict"
  | .foreign _ _ => "Opaque"

mutual

/-- The text of a value in which texts are quoted. -/
def quoted : Value → List Char
  | .null => "None".toList
  | .bool true => "True".toList
  | .bool false => "False".toList
  | .int number => Decimal.integer number
  | .float number => number.text
  | .text characters => Text.quoted characters.toList
  | .list items => '[' :: quotedItems items ++ [']']
  | .object fields => '{' :: quotedFields fields ++ ['}']
  | .mapping bindings => '{' :: quotedBindings bindings ++ ['}']
  | .foreign _ label => label.toList

/-- The items of a list, separated by commas. -/
def quotedItems : List Value → List Char
  | [] => []
  | [item] => item.quoted
  | item :: rest => item.quoted ++ ',' :: ' ' :: quotedItems rest

/-- The fields of an object, separated by commas. -/
def quotedFields : List (String × Value) → List Char
  | [] => []
  | [(name, value)] => Text.quoted name.toList ++ ':' :: ' ' :: value.quoted
  | (name, value) :: rest =>
      Text.quoted name.toList ++ ':' :: ' ' :: value.quoted ++ ',' :: ' ' :: quotedFields rest

/-- The bindings of a mapping, separated by commas. -/
def quotedBindings : List (Value × Value) → List Char
  | [] => []
  | [(name, value)] => name.quoted ++ ':' :: ' ' :: value.quoted
  | (name, value) :: rest =>
      name.quoted ++ ':' :: ' ' :: value.quoted ++ ',' :: ' ' :: quotedBindings rest

end

/-- The text of a value. -/
def displayed : Value → List Char
  | .text characters => characters.toList
  | other => other.quoted

/-- The text of a value, as a string. -/
def display (value : Value) : String := String.ofList value.displayed

/-- The text of a value with texts in quotes, as a string. -/
def inspect (value : Value) : String := String.ofList value.quoted

end Automation.Value
