import Automation.Proofs.Execution.Frame
import Automation.Proofs.Execution.Blindness
import Automation.Rehearsal.Handlers

/-!
Further types of steps, and the faults that they raise.

An error that is made by its name is of the kind of that name, and it is made exactly if its
arguments fit. The handlers of further types read no log, so that whatever holds of hosts with such
handlers holds of rehearsals; and but for the one that sets variables they leave all names alone.
-/

namespace Automation

namespace EngineError

variable {kind : String} {positional : List Value} {named : Fields} {error : EngineError}

theorem kind_ofArguments? (made : ofArguments? kind positional named = some error) :
    error.kind = kind := by
  unfold ofArguments? at made
  split at made <;> cases made <;> rfl

/-- An error has a kind if there are names for what makes it. -/
theorem isSome_ofArguments?_eq (kind : String) (positional : List Value) (named : Fields) :
    (ofArguments? kind positional named).isSome = (parameters? kind).isSome := by
  unfold ofArguments? parameters?
  split <;> simp_all

/-- Arguments fit if every name is known and stands for none of the arguments in turn, if these are
not too many, and if the first argument is given. -/
theorem argumentFault?_eq_none_iff {names : List String} :
    argumentFault? names positional named = none ↔
      (∀ entry ∈ named, entry.1 ∈ names ∧ entry.1 ∉ names.take positional.length) ∧
        positional.length ≤ names.length ∧
        (positional ≠ [] ∨ Entries.has (names.headD "") named = true) := by
  have each (entry : String × Value) :
      (if (names.take positional.length).contains entry.1 then
          some s!"got multiple values for argument '{entry.1}'"
        else if names.contains entry.1 then none
        else some s!"got an unexpected keyword argument '{entry.1}'") = none ↔
        entry.1 ∈ names ∧ entry.1 ∉ names.take positional.length := by
    by_cases known : entry.1 ∈ names
    · by_cases twice : entry.1 ∈ names.take positional.length <;> simp [known, twice]
    · have unused : entry.1 ∉ names.take positional.length := fun member =>
        known (List.mem_of_mem_take member)
      simp [known, unused]
  simp only [argumentFault?, Option.orElse_eq_orElse, Option.orElse_eq_or, Option.or_eq_none_iff,
    List.findSome?_eq_none_iff, each]
  refine and_congr_right fun _ => ?_
  by_cases tooMany : names.length < positional.length
  · simp [tooMany, Nat.not_le.mpr tooMany]
  · rw [if_neg tooMany]
    simp [Nat.not_lt.mp tooMany, List.isEmpty_iff, Decidable.imp_iff_not_or]

theorem kind_of_build (built : build kind positional named = .ok (some error)) :
    error.kind = kind := by
  unfold build at built
  split at built
  · cases built
  · rw [Except.ok.injEq] at built
    exact kind_ofArguments? built

/-- A name for which no error is built is no kind of error. -/
theorem build_eq_ok_none_iff :
    build kind positional named = .ok none ↔ parameters? kind = none := by
  have made := isSome_ofArguments?_eq kind positional named
  unfold build
  cases known : parameters? kind with
  | none =>
      rw [known, Option.isSome_none, Option.isSome_eq_false_iff, Option.isNone_iff_eq_none] at made
      simp [made]
  | some parameters =>
      rw [known, Option.isSome_some] at made
      split
      · simp
      · constructor
        · intro same
          rw [Except.ok.injEq] at same
          rw [same] at made
          cases made
        · nofun

theorem kind_mem_kinds (error : EngineError) : error.kind ∈ error.kinds := by
  simp [kinds]

/-- Every error is an error of the engine. -/
theorem engineError_mem_kinds (error : EngineError) : "EngineError" ∈ error.kinds := by
  simp [kinds]

end EngineError

namespace Failure

/-- A failure is of the kind that it is made by, but for second names and for faults that take more
than a message. -/
theorem kind_named {kind : String} (message : String) (notAlias : kind ≠ "EnvironmentError")
    (notAliasToo : kind ≠ "IOError") (complete : incompleteFault? kind = none) :
    (Failure.named kind message).kind = kind := by
  unfold Failure.named
  split
  · rfl
  · rfl
  · exact absurd rfl notAlias
  · exact absurd rfl notAliasToo
  · split
    · next error made => exact EngineError.kind_ofArguments? made
    · rw [complete]
      rfl

end Failure

namespace Rehearsal

open Automation.Action (Blind Leaves)

theorem blind_setAll (entries : List (String × Value)) : Blind _ (setAll entries) := by
  have closed := Blind.isClosed (σ := World)
  induction entries with
  | nil => exact closed.done ()
  | cons entry rest inductionHypothesis =>
      refine closed.bind closed.scope fun scope => ?_
      refine closed.bind (closed.ofExcept _) fun value => ?_
      exact closed.bind (.setVariables _) fun _ => inductionHypothesis

theorem blind_failing (step : Step) : Blind _ (failing step) := by
  have closed := Blind.isClosed (σ := World)
  refine closed.bind closed.scope fun scope => ?_
  refine closed.bind (closed.ofExcept _) fun message => ?_
  exact fun first second same => ⟨rfl, same⟩

theorem blind_unreliable (step : Step) : Blind _ (unreliable step) := by
  have closed := Blind.isClosed (σ := World)
  refine closed.bind (closed.outside _) fun number => ?_
  dsimp only
  split
  · exact closed.fail _
  · split
    · exact closed.fail _
    · exact closed.done _

/-- The handlers of further types read no log. -/
theorem handlersAreBlind {executor : Executor World} (further : executor.handlers = handlers) :
    executor.HandlersAreBlind := by
  have closed := Blind.isClosed (σ := World)
  intro type handler found step
  rw [further] at found
  simp only [handlers, Entries.get?] at found
  repeat' split at found
  all_goals cases found
  · exact closed.done _
  · exact closed.bind closed.scope fun scope => closed.ofExcept _
  · exact closed.bind (blind_setAll _) fun _ => closed.done _
  · exact blind_failing step
  · exact blind_unreliable step
  · exact fun first second same => ⟨rfl, same⟩
  · exact closed.bind closed.scope fun scope => closed.done _

section

variable {name : Value}

theorem leaves_setAll {entries : List (String × Value)}
    (others : ∀ entry ∈ entries, name ≠ .text entry.1) : Leaves name _ (setAll entries) := by
  have closed := Leaves.isClosed (σ := World) name
  induction entries with
  | nil => exact closed.done ()
  | cons entry rest inductionHypothesis =>
      rw [List.forall_mem_cons] at others
      intro state
      rw [setAll, Action.variables_bind_apply]
      cases resolved : state.variables.resolve entry.2 with
      | error failure => rfl
      | ok value =>
          rw [Action.ofExcept_ok_bind_apply]
          exact (inductionHypothesis others.2 _).trans (Variables.bound?_set_of_ne others.1)

theorem leaves_failing (step : Step) : Leaves name _ (failing step) := by
  have closed := Leaves.isClosed (σ := World) name
  refine closed.bind closed.scope fun scope => ?_
  refine closed.bind (closed.ofExcept _) fun message => ?_
  exact fun _ => rfl

theorem leaves_unreliable (step : Step) : Leaves name _ (unreliable step) := by
  have closed := Leaves.isClosed (σ := World) name
  refine closed.bind (closed.outside _) fun number => ?_
  dsimp only
  split
  · exact closed.fail _
  · split
    · exact closed.fail _
    · exact closed.done _

/-- The handlers of further types bind no names but those that a step is configured to set. -/
theorem leaves_of_handler {type : String} {handler : Handler World}
    (found : Entries.get? type handlers = some handler) {step : Step}
    (others : ∀ entry ∈ (Fields.valueOf "set" step.config).fields, name ≠ .text entry.1) :
    Leaves name _ (handler step) := by
  have closed := Leaves.isClosed (σ := World) name
  simp only [handlers, Entries.get?] at found
  repeat' split at found
  all_goals cases found
  · exact closed.done _
  · exact closed.bind closed.scope fun scope => closed.ofExcept _
  · exact closed.bind (leaves_setAll others) fun _ => closed.done _
  · exact leaves_failing step
  · exact leaves_unreliable step
  · exact fun _ => rfl
  · exact closed.bind closed.scope fun scope => closed.done _

end

end Rehearsal
end Automation
