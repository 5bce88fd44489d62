import Automation.Execution.Control
import Automation.Proofs.Value.Path
import Automation.Proofs.Value.Printing

/-!
How the filling of placeholders and the binding of variables fail.

A lookup fails where a path is not followed. A resolution also fails over a value in a longer text
that is not printed.
-/

namespace Automation

theorem Failure.IsUnreadable.isStepError_eq {failure : Failure}
    (unreadable : failure.IsUnreadable) :
    failure.isStepError = false := by
  rcases unreadable with ⟨text, rfl⟩ | ⟨count, rfl⟩ <;> rfl

/-- A failure to fill a placeholder. -/
def Failure.IsUnfillable (failure : Failure) : Prop :=
  failure.IsUnreadable ∨ failure = .unprintableInteger

theorem Failure.IsUnfillable.isStepError_eq {failure : Failure}
    (unfillable : failure.IsUnfillable) :
    failure.isStepError = false := by
  rcases unfillable with unreadable | rfl
  · exact unreadable.isStepError_eq
  · rfl

namespace Variables

variable (scope : Variables)

theorem failsOnly_lookup? (path : List Char) :
    FailsOnly Failure.IsUnreadable (scope.lookup? path) := by
  unfold lookup?
  split
  · exact .ok _
  · exact Value.failsOnly_follow? _ _

/-- A lookup among the computations that fill placeholders. -/
theorem failsOnly_lookup?_of_fill (path : List Char) :
    FailsOnly Failure.IsUnfillable (scope.lookup? path) :=
  fun failure failed => .inl (scope.failsOnly_lookup? path failure failed)

theorem failsOnly_placeholderValue (content : List Char) :
    FailsOnly Failure.IsUnfillable (scope.placeholderValue content) := by
  apply (scope.failsOnly_lookup?_of_fill _).bind
  intro found
  split
  · exact .ok _
  · exact .ok _
  · apply FailsOnly.map
    intro failure failed
    exact .inr (Value.print_eq_error_iff.mp failed).2

theorem failsOnly_fill (parts : List TemplatePart) :
    FailsOnly Failure.IsUnfillable (scope.fill parts) := by
  induction parts with
  | nil => exact .ok []
  | cons part rest inductionHypothesis =>
      cases part with
      | character c => exact inductionHypothesis.bind fun filled => .ok _
      | placeholder content =>
          apply (scope.failsOnly_placeholderValue content).bind
          intro value
          exact inductionHypothesis.bind fun filled => .ok _

theorem failsOnly_resolveText (text : String) :
    FailsOnly Failure.IsUnfillable (scope.resolveText text) := by
  unfold resolveText
  split
  · exact (scope.failsOnly_lookup?_of_fill _).bind fun found => .ok _
  · exact (scope.failsOnly_fill _).map Value.ofChars

mutual

theorem failsOnly_resolve : (value : Value) →
    FailsOnly Failure.IsUnfillable (scope.resolve value)
  | .text characters => by
      rw [resolve]
      exact scope.failsOnly_resolveText characters
  | .list items => by
      rw [resolve]
      exact (failsOnly_resolveItems items).map Value.list
  | .object fields => by
      rw [resolve]
      exact (failsOnly_resolveFields fields).map Value.object
  | .mapping bindings => by
      rw [resolve]
      exact (failsOnly_resolveBindings bindings).map Value.mapping
  | .null | .bool _ | .int _ | .float _ | .foreign _ _ => .ok _

theorem failsOnly_resolveItems : (items : List Value) →
    FailsOnly Failure.IsUnfillable (scope.resolveItems items)
  | [] => .ok []
  | item :: rest => by
      rw [resolveItems]
      exact (failsOnly_resolve item).bind fun resolved =>
        (failsOnly_resolveItems rest).bind fun others => .ok _

theorem failsOnly_resolveFields : (fields : List (String × Value)) →
    FailsOnly Failure.IsUnfillable (scope.resolveFields fields)
  | [] => .ok []
  | (name, value) :: rest => by
      rw [resolveFields]
      exact (failsOnly_resolve value).bind fun resolved =>
        (failsOnly_resolveFields rest).bind fun others => .ok _

theorem failsOnly_resolveBindings : (bindings : List (Value × Value)) →
    FailsOnly Failure.IsUnfillable (scope.resolveBindings bindings)
  | [] => .ok []
  | (name, value) :: rest => by
      rw [resolveBindings]
      exact (failsOnly_resolve value).bind fun resolved =>
        (failsOnly_resolveBindings rest).bind fun others => .ok _

end

theorem failsOnly_resolveSource (source : Value) :
    FailsOnly Failure.IsUnfillable (Executor.resolveSource scope source) := by
  unfold Executor.resolveSource
  split
  · split
    · exact scope.failsOnly_resolveText _
    · exact (scope.failsOnly_lookup?_of_fill _).map _
  · exact scope.failsOnly_resolve _

/-- A list or an object where a name is wanted is the one thing that a binding fails over. -/
theorem failsOnly_checkName (name : Value) :
    FailsOnly (fun failure => ∃ kind, failure = .notAName kind) (checkName name) := by
  cases name with
  | list | object | mapping =>
      exact .error ⟨_, rfl⟩
  | null | bool | int | float | text | foreign => exact .ok ()

end Variables
end Automation
