import Automation.Proofs.Execution.Composition
import Automation.Proofs.Fallible
import Automation.Proofs.Value.Name

/-!
What an execution leaves alone.

However a step ends, a name is bound as it was before, unless the step or a step inside it gives its
output that name. The names that loops bind are no exception: every loop puts them back, also after
a failure or a cancellation.
-/

namespace Automation

namespace Value

theorem apart_of_sameName_eq_false {name other : Value} (different : name.sameName other = false) :
    Apart name other := by
  intro key same
  rw [Bool.eq_false_iff]
  intro sameToo
  have impossible := sameName_trans (sameName_symm same) sameToo
  simp [impossible] at different

end Value

/-- An action that leaves a name bound as it was, however it ends. -/
def Action.Leaves {σ : Type} (name : Value) (α : Type) (action : Action σ α) : Prop :=
  ∀ state, (action state).2.variables.bound? name = state.variables.bound? name

namespace Action.Leaves

variable {σ α β : Type} {name : Value} {action : Action σ α}

theorem bind {next : α → Action σ β} (first : Leaves name α action)
    (further : ∀ result, Leaves name β (next result)) : Leaves name β (action >>= next) := by
  intro state
  have kept := first state
  cases ended : action state with
  | mk outcome between =>
      rw [ended] at kept
      cases outcome with
      | done result =>
          rw [bind_of_done ended]
          exact (further result between).trans kept
      | failed failure =>
          rw [bind_of_failed ended]
          exact kept
      | cancelled =>
          rw [bind_of_cancelled ended]
          exact kept

theorem recover {handle : Failure → Action σ α} (first : Leaves name α action)
    (handled : ∀ failure, Leaves name α (handle failure)) :
    Leaves name α (action.recover handle) := by
  intro state
  have kept := first state
  cases ended : action state with
  | mk outcome between =>
      rw [ended] at kept
      cases outcome with
      | done result =>
          rw [recover_of_done ended]
          exact kept
      | failed failure =>
          rw [recover_of_failed ended]
          exact (handled failure between).trans kept
      | cancelled =>
          rw [recover_of_cancelled ended]
          exact kept

theorem isClosed (name : Value) : IsClosed (σ := σ) (Leaves name) where
  done _ := fun _ => rfl
  fail _ := fun _ => rfl
  bind := bind
  recover := recover
  log _ _ := fun _ => rfl
  scope := fun _ => rfl
  outside _ := fun _ => rfl
  observe _ := fun _ => rfl

end Action.Leaves

namespace Executor

open Automation.Action (Leaves)

variable {σ : Type} {executor : Executor σ} {step : Step} {name : Value}

/-- A step that gives its output a name. -/
def GivesOutput (name : Value) (header : StepHeader) : Prop :=
  header.outputVariable.truthy = true ∧ header.outputVariable.sameName name = true

theorem bound?_of_assign {scope assigned : Variables} {given output : Value}
    (success : scope.assign given output = .ok assigned)
    (different : given.sameName name = false) : assigned.bound? name = scope.bound? name := by
  simp only [Variables.assign, bind_eq_ok_iff, Except.ok.injEq] at success
  obtain ⟨_, _, rfl⟩ := success
  exact Bindings.get?_put_of_apart (Value.apart_of_sameName_eq_false different) different

theorem leaves_keep {header : StepHeader} (unnamed : ¬GivesOutput name header) (output : Value) :
    Leaves (σ := σ) name _ (keep header output) := by
  intro state
  unfold keep
  by_cases truthy : header.outputVariable.truthy = true
  · have different : header.outputVariable.sameName name = false :=
      Bool.eq_false_iff.mpr fun same => unnamed ⟨truthy, same⟩
    rw [if_pos truthy]
    dsimp only
    rw [Action.variables_bind_apply]
    cases assigned : state.variables.assign header.outputVariable output with
    | error failure => rfl
    | ok scope => exact bound?_of_assign assigned different
  · rw [if_neg truthy]
    rfl

theorem bound?_bound {position : Nat} {item : Value} {state : State σ}
    (further : ¬IsLoopName name) :
    (bound position item state).variables.bound? name = state.variables.bound? name := by
  rw [IsLoopName, not_or] at further
  rw [bound, Variables.bound?_set_of_ne further.2, Variables.bound?_set_of_ne further.1]

theorem leaves_visitItems {body : Action σ (List StepEntry)} (further : ¬IsLoopName name)
    (leaves : Leaves name _ body) (position : Nat) (items : List Value) :
    Leaves name _ (visitItems body position items) := by
  induction items generalizing position with
  | nil => exact fun _ => rfl
  | cons item rest inductionHypothesis =>
      intro state
      have closed := Leaves.isClosed (σ := σ) name
      have iterated := closed.bind leaves fun entries =>
        closed.bind (inductionHypothesis (position + 1)) fun others =>
          closed.done (entriesValue entries :: others)
      rw [visitItems_cons]
      exact (iterated _).trans (bound?_bound further)

/-- A loop leaves a name alone as its body does. The names that it binds itself it puts back,
whatever its body does to them. -/
theorem leaves_looping {header : StepHeader} {source : Value} {body : Action σ (List StepEntry)}
    (leaves : Leaves name _ body) : Leaves name _ (looping header source body) := by
  intro state
  rw [looping, Action.variables_bind_apply]
  cases resolved : resolveSource state.variables source with
  | error failure => rfl
  | ok value =>
      rw [Action.ofExcept_ok_bind_apply]
      cases value with
      | list items =>
          dsimp only
          rw [Action.bind_pure_state, Action.ensure_state]
          by_cases loopName : IsLoopName name
          · exact bound?_restoreLoop_of_loopName loopName
          · rw [bound?_restoreLoop_of_not_loopName loopName]
            exact leaves_visitItems loopName leaves 0 items state
      | _ => exact congrArg (·.variables.bound? name) (Action.ofExcept_state _ state)

/-- Whatever an execution does and however it ends, a name that neither the step nor any step inside
it gives its output is bound as before, and to the same value. -/
theorem execute_frame
    (builtIn : step.Throughout fun inner => Entries.get? inner.type executor.handlers = none)
    (unnamed : step.Throughout fun inner => ¬GivesOutput name inner.header) (state : State σ) :
    (executor.execute step state).2.variables.bound? name = state.variables.bound? name := by
  have passing : step.Throughout (executor.PassesOn (Leaves name)) :=
    (builtIn.and unnamed).imp fun inner ⟨unhandled, unnamed⟩ =>
      { handled := fun handler handled => by simp [unhandled] at handled
        kept := leaves_keep unnamed
        looped := fun body leaves => leaves_looping leaves }
  exact execute_of_throughout (Leaves.isClosed name) passing state

section

/-- A header whose output goes to a variable. -/
def namedHeader (id type : String) (outputVariable : Value) (config : Fields) : StepHeader :=
  ⟨id, type, id, config, true, outputVariable, none, none, none, none⟩

/-- A loop in a retry in a loop, around a request. -/
def nestedLoops : Step :=
  .mk (namedHeader "outer" "loop" (.text "sent") []) none
    (some ⟨.list [.int 1, .int 2],
      [.mk (namedHeader "again" "retry" .null []) none none
        (some ⟨.int 2, .null,
          [.mk (namedHeader "inner" "loop" (.int 1) []) none
            (some ⟨.list [.int 3],
              [.mk (namedHeader "ping" "webhook" (.text "reply") [("url", .text "http://x")])
                none none none none none none]⟩)
            none none none none], []⟩)
        none none none]⟩)
    none none none none

/-- An executor in a world where every request is cancelled. -/
def cancellingExecutor : Executor Unit :=
  { settings := .default
    keywords := []
    handlers := []
    collaborators :=
      { request := fun _ world => (.cancelled, world)
        agent := none
        sleep := fun _ world => (.done (), world)
        now := fun _ => .zero false } }

theorem execute_frame_of_nestedLoops :
    let name := Value.text itemName
    let state : State Unit := ⟨⟨[(.text itemName, .text "mine")]⟩, [], ()⟩
    (nestedLoops.Throughout fun inner =>
        Entries.get? inner.type cancellingExecutor.handlers = none) ∧
      (nestedLoops.Throughout fun inner => ¬GivesOutput name inner.header) ∧
      (cancellingExecutor.execute nestedLoops state).2.variables.bound? name =
        some (.text "mine") := by
  intro name state
  have builtIn : nestedLoops.Throughout fun inner =>
      Entries.get? inner.type cancellingExecutor.handlers = none := by
    simp [nestedLoops, Step.throughout_mk_iff, Step.children, Step.conditionSteps, Step.loopSteps,
      Step.retrySteps, Step.fallbackSteps, cancellingExecutor, Entries.get?]
  have unnamed : nestedLoops.Throughout fun inner => ¬GivesOutput name inner.header := by
    simp [nestedLoops, Step.throughout_mk_iff, Step.children, Step.conditionSteps, Step.loopSteps,
      Step.retrySteps, Step.fallbackSteps, GivesOutput, Step.header, namedHeader, name, itemName,
      Value.truthy, Value.sameName, Value.isSameNotANumber, Value.isNumber]
  have mine : state.variables.bound? name = some (.text "mine") := by rfl
  exact ⟨builtIn, unnamed, (execute_frame builtIn unnamed state).trans mine⟩

end

end Executor
end Automation
