import Automation.Value.Order

/-!
Bindings of values to names that need not be texts, in the order of insertion.

Objects have texts for names; the variables of a run may have others. `toValue` is the value that
bindings are: an object where all names are texts, else a mapping.
-/

namespace Automation

/-- Names with their values, oldest first. -/
abbrev Bindings := List (Value × Value)

namespace Bindings

/-- Whether bindings have a name at their front. -/
def isNamed (name : Value) (binding : Value × Value) : Bool := binding.1.sameName name

/-- The value under a name. -/
def get? (name : Value) (bindings : Bindings) : Option Value :=
  (bindings.find? (isNamed name)).map Prod.snd

/-- Bind a name: in its place where it is bound already, else at the end. -/
def put (name value : Value) : Bindings → Bindings
  | [] => [(name, value)]
  | (key, old) :: rest =>
      if isNamed name (key, old) then (key, value) :: rest else (key, old) :: put name value rest

/-- Unbind a name. -/
def erase (name : Value) (bindings : Bindings) : Bindings :=
  bindings.filter fun binding => !isNamed name binding

/-- Bind every name of `later` in turn. -/
def merge (bindings later : Bindings) : Bindings :=
  later.foldl (fun result binding => put binding.1 binding.2 result) bindings

/-- The bindings that fields are. -/
def ofFields (fields : Fields) : Bindings :=
  fields.map fun field => (.text field.1, field.2)

/-- The bindings of a name that is a text, as a field. -/
def field? : Value × Value → Option (String × Value)
  | (.text name, value) => some (name, value)
  | _ => none

/-- The bindings whose names are texts. -/
def named (bindings : Bindings) : Fields := bindings.filterMap field?

/-- The value that bindings are. -/
def toValue (bindings : Bindings) : Value :=
  if (named bindings).length = bindings.length then .object (named bindings)
  else .mapping bindings

end Bindings

/-- The bindings of an object; any other value has none. -/
def Value.bindings : Value → Bindings
  | .object fields => Bindings.ofFields fields
  | .mapping bindings => bindings
  | _ => []

end Automation
