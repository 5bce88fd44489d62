import Automation.Run.Table
import Automation.Value.Order

/-!
Transactions on a table with one column.

A transaction inserts all of its values or none. A value is null, an integer of 64 bits, a double
precision number or a text; truth values become integers, and not-a-number becomes null. A table in
memory is lost when it is closed.
-/

namespace Automation

/-- A table with one column, and whether it outlives its connection. -/
structure Backend where
  rows : List Value
  persistent : Bool
  deriving Repr

namespace Backend

/-- The failure of a value that no column holds. -/
def unsupported (value : Value) : Failure :=
  .raised "ProgrammingError" s!"Error binding parameter 1: type '{value.kind}' is not supported"

/-- A value as a column holds it. -/
def column (value : Value) : Except Failure Value :=
  match value with
  | .bool truth => .ok (.int (if truth then 1 else 0))
  | .int number => if fitsWord number then .ok value else .error .columnOverflow
  | .float (.notANumber _) => .ok .null
  | .float _ | .text _ | .null => .ok value
  | .list _ | .object _ | .mapping _ | .foreign _ _ => .error (unsupported value)

/-- What the steps of a transaction insert. -/
def inserted (steps : List (Except Failure Value)) : Except Failure (List Value) :=
  steps.mapM fun step => step.bind column

/-- Insert values in one transaction: a fault on the way leaves the table as it was. -/
def transact (steps : List (Except Failure Value)) (backend : Backend) :
    Except Failure Unit × Backend :=
  match inserted steps with
  | .ok values => (.ok (), { backend with rows := backend.rows ++ values })
  | .error failure => (.error failure, backend)

/-- The first value that equals a given one. Null equals nothing. -/
def find (wanted : Value) (backend : Backend) : Except Failure (Option Value) := do
  let wanted ← column wanted
  .ok (if wanted.isNull then none else backend.rows.find? (·.equals wanted))

/-- Close the table and open it again. -/
def reopen (backend : Backend) : Backend :=
  if backend.persistent then backend else { backend with rows := [] }

end Backend
end Automation
