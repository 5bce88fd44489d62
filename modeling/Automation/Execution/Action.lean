import Automation.Failure
import Automation.Logging.Level
import Automation.Variables.Basic

/-!
Actions: computations that change the state of a run and end with a value, with a failure or
cancelled.

What an action changed before it failed stays changed. `recover` handles failures and nothing
else, and `ensure` tidies up after every ending.
-/

namespace Automation

/-- The state of a run: its variables, the lines logged so far, latest first, and the world outside
of the engine. -/
structure State (σ : Type) where
  «variables» : Variables
  log : List Logging.Line
  world : σ
  deriving Repr

/-- A computation that changes the state of a run. -/
def Action (σ α : Type) : Type := State σ → Outcome α × State σ

namespace Action

variable {σ α β : Type}

/-- End with a value. -/
def done (result : α) : Action σ α := fun state => (.done result, state)

/-- End with a failure. -/
def fail (failure : Failure) : Action σ α := fun state => (.failed failure, state)

/-- Go on with the value of an action, if it ends with one. -/
def andThen (action : Action σ α) (next : α → Action σ β) : Action σ β := fun state =>
  match action state with
  | (.done result, after) => next result after
  | (.failed failure, after) => (.failed failure, after)
  | (.cancelled, after) => (.cancelled, after)

instance : Monad (Action σ) where
  pure := done
  bind := andThen

/-- End with an error of the engine. -/
def raise (error : EngineError) : Action σ α := fail (.engine error)

/-- End as a computation without effects ends. -/
def ofExcept : Except Failure α → Action σ α
  | .ok result => done result
  | .error failure => fail failure

/-- Handle the failure of an action. -/
def recover (action : Action σ α) (handle : Failure → Action σ α) : Action σ α := fun state =>
  match action state with
  | (.failed failure, after) => handle failure after
  | ended => ended

/-- Change the state after an action, however it ends. -/
def ensure (action : Action σ α) (tidy : State σ → State σ) : Action σ α := fun state =>
  match action state with
  | (ended, after) => (ended, tidy after)

/-- The state of the run. -/
def get : Action σ (State σ) := fun state => (.done state, state)

/-- The variables of the run. -/
def «variables» : Action σ Variables := fun state => (.done state.variables, state)

/-- Replace the variables of the run. -/
def setVariables (scope : Variables) : Action σ Unit := fun state =>
  (.done (), { state with «variables» := scope })

/-- Write a line to the log. -/
def log (level : Logging.Level) (message : String) : Action σ Unit := fun state =>
  (.done (), { state with log := ⟨level, message⟩ :: state.log })

/-- Let the world outside act. -/
def outside (effect : σ → Outcome α × σ) : Action σ α := fun state =>
  match effect state.world with
  | (ended, world) => (ended, { state with world := world })

end Action
end Automation
