import Automation.Execution.Action

/-!
How chains of actions end.

A chain goes on from the state in which its first action is done; a failure and a cancellation end
it. Only a failure is handled by `recover`.
-/

namespace Automation.Action

variable {σ α β : Type} {action : Action σ α} {next : α → Action σ β} {state after : State σ}

theorem bind_of_done {result : α} (first : action state = (.done result, after)) :
    (action >>= next) state = next result after := by
  simp [bind, andThen, first]

theorem bind_of_failed {failure : Failure} (first : action state = (.failed failure, after)) :
    (action >>= next) state = (.failed failure, after) := by
  simp [bind, andThen, first]

theorem bind_of_cancelled (first : action state = (.cancelled, after)) :
    (action >>= next) state = (.cancelled, after) := by
  simp [bind, andThen, first]

theorem map_of_cancelled {f : α → β} (first : action state = (.cancelled, after)) :
    (f <$> action) state = (.cancelled, after) :=
  bind_of_cancelled first

theorem bind_bind {γ : Type} (further : β → Action σ γ) :
    action >>= next >>= further = action >>= fun result => next result >>= further := by
  funext state
  rcases ended : action state with ⟨_ | _ | _, after⟩ <;> simp [bind, andThen, ended]

@[simp]
theorem log_bind_apply (level : Logging.Level) (message : String) (next : Unit → Action σ β)
    (state : State σ) :
    (log level message >>= next) state =
      next () { state with log := ⟨level, message⟩ :: state.log } := rfl

@[simp]
theorem variables_bind_apply (next : Variables → Action σ β) (state : State σ) :
    (Action.variables >>= next) state = next state.variables state := rfl

@[simp]
theorem ofExcept_ok_bind_apply (result : α) (next : α → Action σ β) (state : State σ) :
    (ofExcept (.ok result) >>= next) state = next result state := rfl

theorem ofExcept_bind {γ : Type} (first : Except Failure β) (next : β → Except Failure γ) :
    (ofExcept (first >>= next) : Action σ γ) = ofExcept first >>= fun result =>
      ofExcept (next result) := by
  cases first <;> rfl

@[simp]
theorem ofExcept_state (result : Except Failure α) (state : State σ) :
    (ofExcept result state).2 = state := by
  cases result <;> rfl

theorem recover_of_done {handle : Failure → Action σ α} {result : α}
    (ended : action state = (.done result, after)) :
    action.recover handle state = (.done result, after) := by
  simp [recover, ended]

theorem recover_of_failed {handle : Failure → Action σ α} {failure : Failure}
    (ended : action state = (.failed failure, after)) :
    action.recover handle state = handle failure after := by
  simp [recover, ended]

theorem recover_of_cancelled {handle : Failure → Action σ α}
    (ended : action state = (.cancelled, after)) :
    action.recover handle state = (.cancelled, after) := by
  simp [recover, ended]

theorem ensure_eq {tidy : State σ → State σ} {outcome : Outcome α}
    (ended : action state = (outcome, after)) :
    action.ensure tidy state = (outcome, tidy after) := by
  simp [ensure, ended]

theorem bind_done_iff {result : β} :
    (action >>= next) state = (.done result, after) ↔
      ∃ first between, action state = (.done first, between) ∧
        next first between = (.done result, after) := by
  cases ended : action state with
  | mk outcome between =>
      cases outcome with
      | done first =>
          rw [bind_of_done ended]
          constructor
          · exact fun done => ⟨first, between, rfl, done⟩
          · rintro ⟨_, _, same, done⟩
            cases same
            exact done
      | failed failure => simp [bind_of_failed ended]
      | cancelled => simp [bind_of_cancelled ended]

theorem bind_cancelled_iff :
    (action >>= next) state = (.cancelled, after) ↔
      action state = (.cancelled, after) ∨
        ∃ result between, action state = (.done result, between) ∧
          next result between = (.cancelled, after) := by
  cases ended : action state with
  | mk outcome between =>
      cases outcome with
      | done result =>
          rw [bind_of_done ended]
          constructor
          · exact fun cancelled => .inr ⟨result, between, rfl, cancelled⟩
          · rintro (impossible | ⟨_, _, same, cancelled⟩)
            · cases impossible
            · cases same
              exact cancelled
      | failed failure => simp [bind_of_failed ended]
      | cancelled => simp [bind_of_cancelled ended]

theorem failed_of_bind_pure_failed {f : α → β} {failure : Failure}
    (fails : (action >>= fun result => pure (f result)) state = (.failed failure, after)) :
    action state = (.failed failure, after) := by
  cases ended : action state with
  | mk outcome between =>
      cases outcome with
      | done result =>
          rw [bind_of_done ended] at fails
          cases fails
      | failed failure =>
          rw [bind_of_failed ended] at fails
          cases fails
          rfl
      | cancelled =>
          rw [bind_of_cancelled ended] at fails
          cases fails

theorem bind_pure_eq {f : α → β} {outcome : Outcome α} (ended : action state = (outcome, after)) :
    (action >>= fun result => pure (f result)) state = (f <$> outcome, after) := by
  cases outcome with
  | done result => exact bind_of_done ended
  | failed failure => exact bind_of_failed ended
  | cancelled => exact bind_of_cancelled ended

theorem bind_pure_state {f : α → β} :
    ((action >>= fun result => pure (f result)) state).2 = (action state).2 :=
  congrArg Prod.snd (bind_pure_eq (Prod.eta (action state)).symm)

theorem outside_eq {effect : σ → Outcome α × σ} {outcome : Outcome α} {scope : Variables}
    {lines : List Logging.Line} {before world : σ} (ended : effect before = (outcome, world)) :
    outside effect ⟨scope, lines, before⟩ = (outcome, ⟨scope, lines, world⟩) := by
  simp [outside, ended]

theorem outside_eq_done_iff {effect : σ → Outcome α × σ} {result : α} :
    outside effect state = (.done result, after) ↔
      ∃ world, effect state.world = (.done result, world) ∧
        after = { state with world := world } := by
  rcases ended : effect state.world with ⟨outcome, world⟩
  cases outcome <;> simp [outside, ended, eq_comm, and_assoc]

theorem ensure_state {tidy : State σ → State σ} :
    (action.ensure tidy state).2 = tidy (action state).2 := rfl

/-- An action that is never cancelled. -/
def Steady (action : Action σ α) : Prop := ∀ state, (action state).1 ≠ .cancelled

theorem bind_cancelled_iff_of_steady (steady : ∀ result, Steady (next result)) :
    (action >>= next) state = (.cancelled, after) ↔ action state = (.cancelled, after) := by
  refine bind_cancelled_iff.trans (or_iff_left ?_)
  rintro ⟨result, between, _, cancelled⟩
  exact steady result between (congrArg Prod.fst cancelled)

theorem recover_cancelled_iff {handle : Failure → Action σ α} :
    action.recover handle state = (.cancelled, after) ↔
      action state = (.cancelled, after) ∨
        ∃ failure between, action state = (.failed failure, between) ∧
          handle failure between = (.cancelled, after) := by
  cases ended : action state with
  | mk outcome between =>
      cases outcome with
      | done result => simp [recover_of_done ended]
      | cancelled => simp [recover_of_cancelled ended]
      | failed failure =>
          rw [recover_of_failed ended]
          constructor
          · exact fun cancelled => .inr ⟨failure, between, rfl, cancelled⟩
          · rintro (impossible | ⟨_, _, same, cancelled⟩)
            · cases impossible
            · cases same
              exact cancelled

theorem ensure_cancelled_iff {tidy : State σ → State σ} :
    action.ensure tidy state = (.cancelled, after) ↔
      ∃ between, action state = (.cancelled, between) ∧ tidy between = after := by
  cases ended : action state with
  | mk outcome between =>
      simp only [ensure, ended, Prod.mk.injEq]
      exact ⟨fun ⟨cancelled, tidied⟩ => ⟨between, ⟨cancelled, rfl⟩, tidied⟩,
        fun ⟨_, ⟨cancelled, same⟩, tidied⟩ => ⟨cancelled, same ▸ tidied⟩⟩

namespace Steady

theorem bind (first : Steady action) (steady : ∀ result, Steady (next result)) :
    Steady (action >>= next) := fun state ended =>
  first state (congrArg Prod.fst
    ((bind_cancelled_iff_of_steady steady).mp (Prod.ext ended rfl)))

theorem pure (result : α) : Steady (Pure.pure result : Action σ α) := fun _ => nofun

theorem log (level : Logging.Level) (message : String) :
    Steady (Action.log level message : Action σ Unit) := fun _ => nofun

theorem setVariables (scope : Variables) : Steady (Action.setVariables scope : Action σ Unit) :=
  fun _ => nofun

theorem currentVariables : Steady (Action.variables : Action σ Variables) := fun _ => nofun

theorem ofExcept (result : Except Failure α) : Steady (Action.ofExcept result : Action σ α) := by
  cases result <;> exact fun _ => nofun

end Steady

/-- An action fails from a state. -/
def Fails (action : Action σ α) (state : State σ) (failure : Failure) : Prop :=
  (action state).1 = .failed failure

section

variable {failure : Failure}

theorem Fails.exists_eq (fails : Fails action state failure) :
    ∃ after, action state = (.failed failure, after) :=
  ⟨_, Prod.ext fails rfl⟩

theorem fails_of_eq (ended : action state = (.failed failure, after)) :
    Fails action state failure :=
  congrArg Prod.fst ended

@[simp]
theorem not_fails_done {result : α} : ¬Fails (done result : Action σ α) state failure := nofun

@[simp]
theorem not_fails_pure {result : α} : ¬Fails (pure result : Action σ α) state failure := nofun

@[simp]
theorem not_fails_log {level : Logging.Level} {message : String} :
    ¬Fails (log level message : Action σ Unit) state failure := nofun

@[simp]
theorem not_fails_setVariables {scope : Variables} :
    ¬Fails (setVariables scope : Action σ Unit) state failure := nofun

@[simp]
theorem fails_ofExcept_iff {result : Except Failure α} :
    Fails (ofExcept result : Action σ α) state failure ↔ result = .error failure := by
  cases result <;> simp [Fails, ofExcept, done, fail]

theorem ofExcept_eq_done_iff {result : Except Failure α} {value : α} :
    (ofExcept result : Action σ α) state = (.done value, after) ↔
      result = .ok value ∧ after = state := by
  cases result <;> simp [ofExcept, done, fail, eq_comm]

theorem fails_bind_iff :
    Fails (action >>= next) state failure ↔
      Fails action state failure ∨
        ∃ result between, action state = (.done result, between) ∧
          Fails (next result) between failure := by
  cases ended : action state with
  | mk outcome between =>
      cases outcome with
      | done result =>
          simp only [Fails, bind_of_done ended, ended]
          simp [and_assoc]
      | failed other => simp [Fails, bind_of_failed ended, ended]
      | cancelled => simp [Fails, bind_of_cancelled ended, ended]

theorem fails_bind_of_done {result : α} (ended : action state = (.done result, after)) :
    Fails (action >>= next) state failure ↔ Fails (next result) after failure := by
  rw [Fails, Fails, bind_of_done ended]

theorem fails_bind_pure_iff {f : α → β} :
    Fails (action >>= fun result => pure (f result)) state failure ↔
      Fails action state failure := by
  simp [fails_bind_iff]

theorem fails_recover_iff {handle : Failure → Action σ α} :
    Fails (action.recover handle) state failure ↔
      ∃ first between, action state = (.failed first, between) ∧
        Fails (handle first) between failure := by
  cases ended : action state with
  | mk outcome between =>
      cases outcome with
      | done result => simp [Fails, recover_of_done ended]
      | failed first =>
          simp only [Fails, recover_of_failed ended]
          simp [and_assoc]
      | cancelled => simp [Fails, recover_of_cancelled ended]

theorem fails_ensure_iff {tidy : State σ → State σ} :
    Fails (action.ensure tidy) state failure ↔ Fails action state failure := Iff.rfl

end

/-- An action that fails with the errors of steps only. -/
def RaisesStepErrors (action : Action σ α) : Prop :=
  ∀ state failure, Fails action state failure → failure.isStepError = true

theorem fails_bind_iff_of_raisesStepErrors {failure : Failure}
    (further : ∀ result, RaisesStepErrors (next result)) (fault : failure.isStepError = false) :
    Fails (action >>= next) state failure ↔ Fails action state failure := by
  refine fails_bind_iff.trans (or_iff_left ?_)
  rintro ⟨result, between, _, fails⟩
  simp [further result between failure fails] at fault

namespace RaisesStepErrors

theorem bind (first : RaisesStepErrors action)
    (further : ∀ result, RaisesStepErrors (next result)) : RaisesStepErrors (action >>= next) := by
  intro state failure fails
  rcases fails_bind_iff.mp fails with failsFirst | ⟨result, between, _, failsLater⟩
  · exact first state failure failsFirst
  · exact further result between failure failsLater

theorem pure (result : α) : RaisesStepErrors (Pure.pure result : Action σ α) := nofun

theorem log (level : Logging.Level) (message : String) :
    RaisesStepErrors (Action.log level message : Action σ Unit) := nofun

theorem fail {failure : Failure} (isStepError : failure.isStepError = true) :
    RaisesStepErrors (Action.fail failure : Action σ α) := by
  rintro state _ ⟨⟩
  exact isStepError

end RaisesStepErrors
end Automation.Action
