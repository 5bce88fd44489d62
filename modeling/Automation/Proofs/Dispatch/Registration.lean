import Automation.Dispatch
import Automation.Proofs.Blueprint.Loading
import Mathlib.Data.List.Induction

/-!
Which blueprints a dispatcher holds.

A call changes the registered automations only where it succeeds, so after any calls an id holds the
blueprint of the last registration under it that was accepted, unless the id was removed since. A
value is accepted only without flaws; a blueprint is taken as it is.
-/

namespace Automation

/-- What a host asks of a dispatcher. -/
inductive DispatchCall where
  | register (automationId : String) (source : BlueprintSource)
  | unregister (automationId : String)
  | fire (automationId : String) (triggerData : Value)

/-- The blueprint that is registered for a source. -/
def BlueprintSource.admitted : BlueprintSource → Except Failure Blueprint
  | .parsed blueprint => .ok blueprint
  | .stored data => Blueprint.load data

namespace Dispatcher

/-- A dispatcher after a call. One that fails leaves it as it was. -/
def answer (dispatcher : Dispatcher) : DispatchCall → Dispatcher
  | .register automationId source =>
      match dispatcher.register automationId source with
      | .ok (_, after) => after
      | .error _ => dispatcher
  | .unregister automationId => (dispatcher.unregister automationId).2
  | .fire automationId triggerData =>
      match dispatcher.fire automationId triggerData with
      | .ok (_, after) => after
      | .error _ => dispatcher

/-- A dispatcher after calls in turn. -/
def answerAll (dispatcher : Dispatcher) (calls : List DispatchCall) : Dispatcher :=
  calls.foldl answer dispatcher

/-- The blueprint that an id holds. -/
def held? (dispatcher : Dispatcher) (automationId : String) : Option Blueprint :=
  Repository.get? automationId dispatcher.automations

end Dispatcher

/-- Calls after which an id does not hold what it held before. -/
def DispatchCall.Replaces (automationId : String) : DispatchCall → Prop
  | .register other source => other = automationId ∧ ∃ blueprint, source.admitted = .ok blueprint
  | .unregister other => other = automationId
  | .fire _ _ => False

/-- The last registration under an id that was accepted, with no removal since: its source, and the
blueprint registered for it. -/
def Stands (calls : List DispatchCall) (automationId : String) (source : BlueprintSource)
    (blueprint : Blueprint) : Prop :=
  ∃ earlier later, calls = earlier ++ .register automationId source :: later ∧
    source.admitted = .ok blueprint ∧ ∀ call ∈ later, ¬call.Replaces automationId

namespace Dispatcher

variable {dispatcher : Dispatcher} {automationId other : String} {source : BlueprintSource}
  {blueprint : Blueprint} {calls : List DispatchCall} {call : DispatchCall}

theorem register_eq :
    dispatcher.register automationId source =
      source.admitted >>= fun blueprint => .ok (blueprint, { dispatcher with
        automations := Repository.put automationId (some blueprint) dispatcher.automations }) := by
  cases source <;> rfl

theorem register_of_admitted (admitted : source.admitted = .ok blueprint) :
    dispatcher.register automationId source = .ok (blueprint, { dispatcher with
      automations := Repository.put automationId (some blueprint) dispatcher.automations }) := by
  rw [register_eq, admitted, ok_bind]

theorem register_of_refused {failure : Failure} (refused : source.admitted = .error failure) :
    dispatcher.register automationId source = .error failure := by
  rw [register_eq, refused, error_bind]

theorem answer_of_refused {failure : Failure} (refused : source.admitted = .error failure) :
    dispatcher.answer (.register automationId source) = dispatcher := by
  rw [answer, register_of_refused refused]

theorem held?_answer_register_self (admitted : source.admitted = .ok blueprint) :
    (dispatcher.answer (.register automationId source)).held? automationId = some blueprint := by
  rw [answer, register_of_admitted admitted]
  simp [held?, Repository.get?, Repository.put]

theorem held?_answer_unregister_self :
    (dispatcher.answer (.unregister automationId)).held? automationId = none := by
  simp [held?, answer, unregister, Repository.remove, Repository.get?]

theorem automations_answer_fire {triggerData : Value} :
    (dispatcher.answer (.fire automationId triggerData)).automations =
      dispatcher.automations := by
  rw [answer, fire]
  cases Repository.get? automationId dispatcher.automations <;> rfl

theorem held?_answer_of_not_replaces (keeps : ¬call.Replaces automationId) :
    (dispatcher.answer call).held? automationId = dispatcher.held? automationId := by
  cases call with
  | register other source =>
      cases admitted : source.admitted with
      | error failure => rw [answer_of_refused admitted]
      | ok blueprint =>
          have different : automationId ≠ other := by
            rintro rfl
            exact keeps ⟨rfl, blueprint, admitted⟩
          rw [answer, register_of_admitted admitted]
          simp [held?, Repository.get?, Repository.put, Entries.get?_put_of_ne different]
  | unregister other =>
      have different : automationId ≠ other := fun same => keeps same.symm
      simp [held?, answer, unregister, Repository.remove, Repository.get?,
        Entries.get?_erase_of_ne different]
  | fire other triggerData => rw [held?, automations_answer_fire, held?]

theorem answerAll_concat :
    dispatcher.answerAll (calls ++ [call]) = (dispatcher.answerAll calls).answer call := by
  simp [answerAll]

theorem held?_answerAll_of_not_replaces (keep : ∀ call ∈ calls, ¬call.Replaces automationId) :
    (dispatcher.answerAll calls).held? automationId = dispatcher.held? automationId := by
  induction calls generalizing dispatcher with
  | nil => rfl
  | cons call rest inductionHypothesis =>
      rw [List.forall_mem_cons] at keep
      exact (inductionHypothesis keep.2).trans (held?_answer_of_not_replaces keep.1)

/-- After calls an id holds the blueprint of the registration that stands, or what it held before
where none of them replaced that. -/
theorem held?_answerAll_eq_some_iff :
    (dispatcher.answerAll calls).held? automationId = some blueprint ↔
      (∃ source, Stands calls automationId source blueprint) ∨
        (∀ call ∈ calls, ¬call.Replaces automationId) ∧
          dispatcher.held? automationId = some blueprint := by
  constructor
  · intro held
    induction calls using List.reverseRecOn with
    | nil => exact .inr ⟨nofun, held⟩
    | append_singleton earlier call inductionHypothesis =>
        rw [answerAll_concat] at held
        by_cases replaces : call.Replaces automationId
        · cases call with
          | register other source =>
              obtain ⟨rfl, admittedBlueprint, admitted⟩ := replaces
              rw [held?_answer_register_self admitted, Option.some.injEq] at held
              subst held
              exact .inl ⟨source, earlier, [], rfl, admitted, by simp⟩
          | unregister other =>
              obtain rfl : other = automationId := replaces
              rw [held?_answer_unregister_self] at held
              cases held
          | fire => exact replaces.elim
        · have keepsToo (others : List DispatchCall)
              (keep : ∀ call ∈ others, ¬call.Replaces automationId) :
              ∀ other ∈ others ++ [call], ¬other.Replaces automationId := by
            intro other member
            rcases List.mem_append.mp member with before | last
            · exact keep other before
            · rwa [List.mem_singleton.mp last]
          rw [held?_answer_of_not_replaces replaces] at held
          rcases inductionHypothesis held with
            ⟨source, first, later, rfl, admitted, keep⟩ | ⟨keep, heldBefore⟩
          · exact .inl ⟨source, first, later ++ [call], by simp, admitted, keepsToo later keep⟩
          · exact .inr ⟨keepsToo earlier keep, heldBefore⟩
  · rintro (⟨source, earlier, later, rfl, admitted, keep⟩ | ⟨keep, heldBefore⟩)
    · rw [answerAll, List.foldl_append, List.foldl_cons]
      exact (held?_answerAll_of_not_replaces keep).trans (held?_answer_register_self admitted)
    · exact (held?_answerAll_of_not_replaces keep).trans heldBefore

/-- What was registered with a dispatcher that held nothing stands. -/
theorem held?_answerAll_empty_eq_some_iff :
    (empty.answerAll calls).held? automationId = some blueprint ↔
      ∃ source, Stands calls automationId source blueprint := by
  rw [held?_answerAll_eq_some_iff]
  exact or_iff_left fun ⟨_, held⟩ => by cases held

end Dispatcher

namespace Blueprint

variable {data : Value} {blueprint : Blueprint}

theorem load_eq_ok_iff :
    load data = .ok blueprint ↔ validate data = .ok [] ∧ read data = .ok blueprint := by
  rw [load, bind_eq_ok_iff]
  constructor
  · rintro ⟨messages, valid, loaded⟩
    split at loaded
    · next empty =>
        rw [List.isEmpty_iff.mp empty] at valid
        refine ⟨valid, ?_⟩
        split at loaded
        · next isRead =>
            cases loaded
            exact isRead
        · cases loaded
    · cases loaded
  · rintro ⟨valid, isRead⟩
    exact ⟨[], valid, by simp [isRead]⟩

theorem stored_of_read {fields : Fields} (nonempty : fields ≠ [])
    (isRead : read (.object fields) = .ok blueprint) : blueprint.stored = .object fields := by
  rw [read, bind_eq_ok_iff] at isRead
  obtain ⟨steps, _, same⟩ := isRead
  cases same
  rw [stored, if_neg (by simpa using nonempty)]

theorem validateStored_of_load (loaded : load data = .ok blueprint) :
    blueprint.validateStored = .ok [] := by
  obtain ⟨valid, isRead⟩ := load_eq_ok_iff.mp loaded
  obtain ⟨fields, rfl, ⟨items, listed, _⟩, _⟩ :=
    Validation.flaws_eq_ok_nil_iff.mp (validate_eq_ok_nil_iff.mp valid)
  have nonempty : fields ≠ [] := by
    rintro rfl
    cases listed
  rw [validateStored, stored_of_read nonempty isRead]
  exact valid

end Blueprint

namespace Dispatcher

variable {automationId : String} {source : BlueprintSource} {blueprint : Blueprint}
  {calls : List DispatchCall}

theorem parsed_or_valid_of_stands (stands : Stands calls automationId source blueprint) :
    source = .parsed blueprint ∨ blueprint.validateStored = .ok [] := by
  obtain ⟨_, _, _, admitted, _⟩ := stands
  cases source with
  | parsed given =>
      cases admitted
      exact .inl rfl
  | stored data => exact .inr (Blueprint.validateStored_of_load admitted)

/-- Whatever is asked of a dispatcher, an id holds the blueprint of the registration that stands.
It has no flaws unless it was registered as a blueprint, which is never refused. A value with flaws
is refused with the messages of all of them, one over which validation fails with that failure, and
either leaves the dispatcher as it is. -/
theorem registered_follow_validation (calls : List DispatchCall) :
    let dispatcher := empty.answerAll calls
    (∀ automationId blueprint, dispatcher.held? automationId = some blueprint ↔
        ∃ source, Stands calls automationId source blueprint) ∧
      ((∀ automationId blueprint, dispatcher.held? automationId = some blueprint →
          blueprint.validateStored = .ok []) ↔
        ∀ automationId blueprint, Stands calls automationId (.parsed blueprint) blueprint →
          blueprint.validateStored = .ok []) ∧
      (∀ automationId data messages, messages ≠ [] → Blueprint.validate data = .ok messages →
        dispatcher.register automationId (.stored data) =
            .error (.engine (Blueprint.invalid messages)) ∧
          dispatcher.answer (.register automationId (.stored data)) = dispatcher) ∧
      (∀ automationId data failure, Blueprint.validate data = .error failure →
        dispatcher.register automationId (.stored data) = .error failure ∧
          dispatcher.answer (.register automationId (.stored data)) = dispatcher) ∧
      ∀ automationId blueprint,
        ∃ after, dispatcher.register automationId (.parsed blueprint) = .ok (blueprint, after) ∧
          after.held? automationId = some blueprint := by
  intro dispatcher
  have refuse {automationId : String} {data : Value} {failure : Failure}
      (refused : Blueprint.load data = .error failure) :
      dispatcher.register automationId (.stored data) = .error failure ∧
        dispatcher.answer (.register automationId (.stored data)) = dispatcher :=
    ⟨register_of_refused refused, answer_of_refused refused⟩
  refine ⟨fun _ _ => held?_answerAll_empty_eq_some_iff, ⟨?_, ?_⟩, ?_, ?_, ?_⟩
  · intro allValid automationId blueprint stands
    exact allValid automationId blueprint (held?_answerAll_empty_eq_some_iff.mpr ⟨_, stands⟩)
  · intro parsedValid automationId blueprint held
    obtain ⟨source, stands⟩ := held?_answerAll_empty_eq_some_iff.mp held
    rcases parsed_or_valid_of_stands stands with rfl | valid
    · exact parsedValid automationId blueprint stands
    · exact valid
  · intro automationId data messages flawed ended
    apply refuse
    rw [Blueprint.load, ended, ok_bind, if_neg (by simpa using flawed)]
  · intro automationId data failure failed
    apply refuse
    rw [Blueprint.load, failed, error_bind]
  · intro automationId blueprint
    refine ⟨_, register_of_admitted rfl, ?_⟩
    simp [held?, Repository.get?, Repository.put]

/-- A stored blueprint whose only step is of no known type. -/
def strayTyped : Value := .object [("steps", .list [.object [("type", .text "teleport")]])]

open Validation in
theorem validate_strayTyped :
    Blueprint.validate strayTyped = .ok ["steps[0]: invalid type 'teleport'"] := by
  simp [Blueprint.validate, strayTyped, flaws, listFlaws, itemFlaws, stepFlaws, headFlaws,
    nameStep, stepType, StepType.ofName?, StepType.all, StepType.name, switchFlaws, configFlaws,
    duplicateFlaws, blockFlaws_eq, blockValue, verdictFlaws, Fields.valueOf, Entries.get?,
    Value.fields]
  rfl

/-- A dispatcher takes as a blueprint what it refuses as a value. -/
theorem register_of_strayTyped :
    ∃ blueprint, Blueprint.read strayTyped = .ok blueprint ∧
      blueprint.validateStored = .ok ["steps[0]: invalid type 'teleport'"] ∧
      (empty.answer (.register "bad" (.parsed blueprint))).held? "bad" = some blueprint ∧
      empty.register "bad" (.stored strayTyped) =
        .error (.engine (Blueprint.invalid ["steps[0]: invalid type 'teleport'"])) := by
  obtain ⟨blueprint, isRead⟩ : ∃ blueprint, Blueprint.read strayTyped = .ok blueprint :=
    ⟨_, by cbv⟩
  refine ⟨blueprint, isRead, ?_, held?_answer_register_self rfl, ?_⟩
  · rw [Blueprint.validateStored, Blueprint.stored_of_read (by simp) isRead]
    exact validate_strayTyped
  · apply register_of_refused
    rw [BlueprintSource.admitted, Blueprint.load, validate_strayTyped]
    rfl

end Dispatcher

end Automation
