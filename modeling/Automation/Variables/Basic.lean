import Automation.Failure
import Automation.Value.Path

/-!
The variables of a run.

A run starts from the variables of its blueprint, overlaid with the trigger payload, which is also
kept as a whole under `trigger`. Steps put their outputs under further names. A name is a text; a
step may also name its output by a number, a truth value or a foreign value, but no path leads to
such an output.
-/

namespace Automation

/-- The variables of a run, in the order in which they were first bound. -/
structure Variables where
  bindings : Bindings
  deriving BEq, Repr, Inhabited

namespace Variables

/-- The variables that a run starts with. Without a payload, `trigger` is an empty object. -/
def create (initial : Fields) (payload : Value) : Variables :=
  let overlaid := Entries.merge initial payload.fields
  let trigger := if payload.isNull then .object [] else payload
  ⟨Bindings.ofFields (Entries.put "trigger" trigger overlaid)⟩

/-- The value of a variable. -/
def get? (scope : Variables) (name : String) : Option Value :=
  Bindings.get? (.text name) scope.bindings

/-- Bind a variable. -/
def set (scope : Variables) (name : String) (value : Value) : Variables :=
  ⟨Bindings.put (.text name) value scope.bindings⟩

/-- Unbind a variable. -/
def unset (scope : Variables) (name : String) : Variables :=
  ⟨Bindings.erase (.text name) scope.bindings⟩

/-- A value as a name: a list and an object are none. -/
def checkName (name : Value) : Except Failure Unit :=
  match name with
  | .list _ | .object _ | .mapping _ => .error (.notAName name.kind)
  | _ => .ok ()

/-- The value under a name that need not be a text. -/
def find? (scope : Variables) (name : Value) : Except Failure (Option Value) := do
  checkName name
  .ok (Bindings.get? name scope.bindings)

/-- Bind the output of a step to the name that the step gives. -/
def assign (scope : Variables) (name value : Value) : Except Failure Variables := do
  checkName name
  .ok ⟨Bindings.put name value scope.bindings⟩

/-- The variables whose names are texts. -/
def named (scope : Variables) : Fields := Bindings.named scope.bindings

/-- All variables as one value. -/
def snapshot (scope : Variables) : Value := Bindings.toValue scope.bindings

/-- The value at a path: a variable of exactly that name, else what the dotted parts lead to. -/
def lookup? (scope : Variables) (path : List Char) : Except Failure (Option Value) :=
  match scope.get? (String.ofList path) with
  | some value => .ok (some value)
  | none => (Value.object scope.named).follow? (Text.splitAt '.' path)

/-- The value at a path that need not be a text: only a text has parts. -/
def lookupValue? (scope : Variables) (path : Value) : Except Failure (Option Value) :=
  match path with
  | .text characters => scope.lookup? characters.toList
  | other => do
      match ← scope.find? other with
      | some value => .ok (some value)
      | none =>
          .error (.raised "AttributeError" s!"'{other.kind}' object has no attribute 'split'")

end Variables
end Automation
