import Automation.Rehearsal.World
import Automation.Variables.Template

/-!
Further types of steps for rehearsals: steps that give a value, set variables, fail, fail a few
times, cancel the run, or show the variables.
-/

namespace Automation.Rehearsal

/-- Set variables one after the other, each to its value with the placeholders filled. -/
def setAll : List (String × Value) → Action World Unit
  | [] => Action.done ()
  | (name, written) :: rest => do
      let scope ← Action.variables
      let value ← Action.ofExcept (scope.resolve written)
      Action.setVariables (scope.set name value)
      setAll rest

/-- Give the configured value. -/
def giveValue : Handler World := fun step =>
  Action.done (Fields.valueOf "value" step.config)

/-- Give the configured value with the placeholders filled. -/
def giveResolved : Handler World := fun step => do
  Action.ofExcept ((← Action.variables).resolve (Fields.valueOf "value" step.config))

/-- Set the configured variables. -/
def setVariables : Handler World := fun step => do
  setAll (Fields.valueOf "set" step.config).fields
  pure .null

/-- Fail with the configured kind and message. -/
def failing : Handler World := fun step => do
  let written := (Entries.get? "message" step.config).getD (.text "failed")
  let message ← Action.ofExcept ((← Action.variables).resolve written)
  let kind := (Entries.get? "kind" step.config).getD (.text "StepError")
  fun state => (Outcome.raising kind.display message.display, state)

/-- Fail the configured number of times, then succeed. The number has to be one. -/
def unreliable : Handler World := fun step => do
  let number ← Action.outside fun world =>
    let number := (Entries.get? step.id world.attempts).getD 0 + 1
    (.done number, { world with attempts := Entries.put step.id number world.attempts })
  let failures := (Entries.get? "failures" step.config).getD (.int 1)
  if !failures.isNumber then
    Action.fail (.raised "TypeError"
      s!"'<=' not supported between instances of 'int' and '{failures.kind}'")
  else if (Value.ordered? (· != .gt) (.int number) failures).getD false then
    Action.raise (.step s!"flaky {number}" [])
  else pure (.object [("call", .int number)])

/-- Cancel the run. -/
def cancelling : Handler World := fun _ state => (.cancelled, state)

/-- Show all variables. -/
def showVariables : Handler World := fun _ => do
  pure (← Action.variables).snapshot

/-- The further types of steps by name. -/
def handlers : Entries (Handler World) :=
  [("x_value", giveValue), ("x_resolve", giveResolved), ("x_set", setVariables),
    ("x_fail", failing), ("x_flaky", unreliable), ("x_cancel", cancelling),
    ("x_snapshot", showVariables)]

end Automation.Rehearsal
