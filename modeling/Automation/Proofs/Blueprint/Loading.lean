import Automation.Proofs.Blueprint.Soundness

/-!
How the validation of a stored blueprint fails, and what loading does then.

Validation lists what is wrong with a blueprint, with one exception: a step whose type is a list or
an object has a type that cannot be looked up, and the walk over the steps fails there.
-/

namespace Automation.Validation

/-- A walk that fails over a type that is no name exactly where some condition holds, and ends
elsewhere. -/
structure FailsIff {α : Type} (stumbles : Prop) (walk : Except Failure α) : Prop where
  fails : stumbles → ∃ kind, walk = .error (.notAName kind)
  ends : ¬stumbles → ∃ found, walk = .ok found

namespace FailsIff

variable {α β : Type} {first second : Prop} {walk : Except Failure α}

theorem of_not (passes : ¬first) (found : α) : FailsIff first (.ok found) :=
  ⟨fun stumbles => (passes stumbles).elim, fun _ => ⟨found, rfl⟩⟩

theorem ok (found : α) : FailsIff False (.ok found) := of_not id found

theorem congr (same : first ↔ second) (failsIff : FailsIff first walk) : FailsIff second walk := by
  rwa [← propext same]

theorem bind {next : α → Except Failure β} (failsIff : FailsIff first walk)
    (further : ∀ found, walk = .ok found → FailsIff second (next found)) :
    FailsIff (first ∨ second) (walk >>= next) := by
  by_cases stumbles : first
  · obtain ⟨kind, failed⟩ := failsIff.fails stumbles
    rw [failed]
    exact ⟨fun _ => ⟨kind, rfl⟩, fun neither => (neither (.inl stumbles)).elim⟩
  · obtain ⟨found, ended⟩ := failsIff.ends stumbles
    rw [ended]
    exact (further found ended).congr (by simp [stumbles])

theorem map (f : α → β) (failsIff : FailsIff first walk) : FailsIff first (f <$> walk) := by
  constructor
  · intro stumbles
    obtain ⟨kind, failed⟩ := failsIff.fails stumbles
    exact ⟨kind, by rw [failed, map_error]⟩
  · intro passes
    obtain ⟨found, ended⟩ := failsIff.ends passes
    exact ⟨f found, by rw [ended, map_ok]⟩

theorem of_error {failure : Failure} (failsIff : FailsIff first walk)
    (failed : walk = .error failure) : first ∧ ∃ kind, failure = .notAName kind := by
  by_cases stumbles : first
  · obtain ⟨kind, failedToo⟩ := failsIff.fails stumbles
    rw [failed, Except.error.injEq] at failedToo
    exact ⟨stumbles, kind, failedToo⟩
  · obtain ⟨found, ended⟩ := failsIff.ends stumbles
    rw [failed] at ended
    cases ended

end FailsIff

/-- A step that validation stumbles over: its type is no scalar, or it has a type and a step
directly inside it is such a step. -/
inductive Stumbles : Value → Prop where
  | here {fields : Fields} {written : Value} (typed : Entries.get? "type" fields = some written)
      (compound : written.isJsonScalar = false) : Stumbles (.object fields)
  | inside {fields : Fields} {written inner : Value}
      (typed : Entries.get? "type" fields = some written) (member : inner ∈ stepsInside fields)
      (stumbles : Stumbles inner) : Stumbles (.object fields)

variable {fields : Fields} {place : String}

theorem stumbles_object_iff :
    Stumbles (.object fields) ↔
      ∃ written, Entries.get? "type" fields = some written ∧
        (written.isJsonScalar = false ∨ ∃ inner ∈ stepsInside fields, Stumbles inner) := by
  constructor
  · intro stumbles
    cases stumbles with
    | here typed compound => exact ⟨_, typed, .inl compound⟩
    | inside typed member stumbles => exact ⟨_, typed, .inr ⟨_, member, stumbles⟩⟩
  · rintro ⟨written, typed, compound | ⟨inner, member, stumbles⟩⟩
    · exact .here typed compound
    · exact .inside typed member stumbles

theorem failsIff_stepType {written : Value} (json : written.isJson = true) :
    FailsIff (written.isJsonScalar = false) (stepType place written) := by
  cases written with
  | list items => exact ⟨fun _ => ⟨_, rfl⟩, fun scalar => (scalar rfl).elim⟩
  | object fields => exact ⟨fun _ => ⟨_, rfl⟩, fun scalar => (scalar rfl).elim⟩
  | text name =>
      rw [stepType]
      cases StepType.ofName? name with
      | none => exact .of_not (by simp [Value.isJsonScalar]) _
      | some known => exact .of_not (by simp [Value.isJsonScalar]) _
  | null | bool | int | float => exact .of_not (by simp [Value.isJsonScalar]) _
  | mapping | foreign => simp [Value.isJson, Value.consistsOf, Value.isJsonScalar] at json

theorem failsIff_headFlaws (json : Value.fieldsConsistOf Value.isJsonScalar fields = true) :
    FailsIff (∃ written ∈ Entries.get? "type" fields, written.isJsonScalar = false)
      (headFlaws place fields) := by
  unfold headFlaws
  cases typed : Entries.get? "type" fields with
  | none => exact (FailsIff.ok _).congr (by simp)
  | some written =>
      have scalar : written.isJson = true := Value.consistsOf_of_get? json typed
      refine FailsIff.congr ?_ ((failsIff_stepType scalar).bind fun _ _ => FailsIff.ok _)
      simp

/-- The steps inside a step are looked at where it has a type. -/
theorem complete_of_headFlaws {own : List Flaw} {name : String} {complete : Bool}
    (head : headFlaws place fields = .ok (own, name, complete)) :
    complete = true ↔ ∃ written, Entries.get? "type" fields = some written := by
  unfold headFlaws at head
  cases typed : Entries.get? "type" fields with
  | none =>
      rw [typed] at head
      cases head
      simp
  | some written =>
      simp only [typed, bind_eq_ok_iff, Except.ok.injEq, Prod.mk.injEq] at head
      obtain ⟨_, _, _, _, rfl⟩ := head
      simp

theorem failsIff_itemFlaws {path : String} {position : Nat} {seen : List String}
    {items : List Value}
    (decides : ∀ item ∈ items, ∀ place, FailsIff (Stumbles item) (stepFlaws place item)) :
    FailsIff (∃ item ∈ items, Stumbles item) (itemFlaws path position seen items) := by
  induction items generalizing position seen with
  | nil =>
      rw [itemFlaws]
      exact (FailsIff.ok _).congr (by simp)
  | cons item rest inductionHypothesis =>
      rw [List.forall_mem_cons] at decides
      rw [itemFlaws]
      refine FailsIff.congr ?_ ((decides.1 _).bind fun own _ =>
        (inductionHypothesis decides.2).bind fun others _ => FailsIff.ok _)
      simp

theorem failsIff_listFlaws {path : String} {value : Value}
    (decides : ∀ item ∈ value.items, ∀ place, FailsIff (Stumbles item) (stepFlaws place item)) :
    FailsIff (∃ item ∈ value.items, Stumbles item) (listFlaws path value) := by
  cases value with
  | list items =>
      rw [listFlaws]
      exact failsIff_itemFlaws decides
  | null | bool | int | float | text | object | mapping | foreign =>
      rw [listFlaws]
      · exact (FailsIff.ok _).congr (by simp [Value.items])
      · simp

section

variable (decides : ∀ step ∈ stepsInside fields, ∀ place,
  FailsIff (Stumbles step) (stepFlaws place step))

include decides

theorem failsIff_blockFlaws {names : String × String} (known : names ∈ blockLists) :
    FailsIff (∃ item ∈ (blockValue fields names.1 names.2).items, Stumbles item)
      (blockFlaws place fields names.1 names.2) := by
  have decidesListed : ∀ item ∈ (blockValue fields names.1 names.2).items, ∀ place,
      FailsIff (Stumbles item) (stepFlaws place item) := by
    intro item listed
    apply decides
    apply List.mem_append_left
    exact List.mem_flatten_of_mem (List.mem_map_of_mem known) listed
  rw [blockFlaws_eq]
  split
  · next missing =>
      rw [missing]
      exact (FailsIff.ok _).congr (by simp [Value.items])
  · exact failsIff_listFlaws decidesListed

theorem failsIff_verdictFlaws {verdict : String} (known : verdict ∈ verdictNames) :
    FailsIff (∃ step ∈ Entries.get? verdict (Fields.valueOf "config" fields).fields, Stumbles step)
      (verdictFlaws place fields verdict) := by
  rw [verdictFlaws]
  split
  · next step found =>
      refine FailsIff.congr ?_ (decides step ?_ _)
      · simp [found]
      · apply List.mem_append_right
        exact List.mem_filterMap.mpr ⟨verdict, known, found⟩
  · next missing => exact (FailsIff.ok _).congr (by simp [missing])

omit decides in
theorem exists_mem_stepsInside_iff {holds : Value → Prop} :
    (∃ step ∈ stepsInside fields, holds step) ↔
      (∃ names ∈ blockLists, ∃ item ∈ (blockValue fields names.1 names.2).items, holds item) ∨
        ∃ verdict ∈ verdictNames,
          ∃ step ∈ Entries.get? verdict (Fields.valueOf "config" fields).fields, holds step := by
  simp only [stepsInside, List.mem_append, List.mem_flatten, listsInside, List.mem_map,
    verdictSteps, List.mem_filterMap, Option.mem_def]
  constructor
  · rintro ⟨step, ⟨_, ⟨names, known, rfl⟩, listed⟩ | ⟨verdict, known, found⟩, held⟩
    · exact .inl ⟨names, known, step, listed, held⟩
    · exact .inr ⟨verdict, known, step, found, held⟩
  · rintro (⟨names, known, step, listed, held⟩ | ⟨verdict, known, step, found, held⟩)
    · exact ⟨step, .inl ⟨_, ⟨names, known, rfl⟩, listed⟩, held⟩
    · exact ⟨step, .inr ⟨verdict, known, found⟩, held⟩

theorem failsIff_stepFlaws_object
    (json : Value.fieldsConsistOf Value.isJsonScalar fields = true) :
    FailsIff (Stumbles (.object fields)) (stepFlaws place (.object fields)) := by
  rw [stepFlaws, stumbles_object_iff]
  refine FailsIff.congr ?_ (@FailsIff.bind _ _ _
    ((∃ written, Entries.get? "type" fields = some written) ∧
      ∃ inner ∈ stepsInside fields, Stumbles inner) _ _ (failsIff_headFlaws json) ?_)
  · constructor
    · rintro (⟨written, typed, compound⟩ | ⟨⟨written, typed⟩, inside⟩)
      · exact ⟨written, typed, .inl compound⟩
      · exact ⟨written, typed, .inr inside⟩
    · rintro ⟨written, typed, compound | inside⟩
      · exact .inl ⟨written, typed, compound⟩
      · exact .inr ⟨⟨written, typed⟩, inside⟩
  · rintro ⟨own, name, complete⟩ head
    rw [← complete_of_headFlaws head]
    cases complete with
    | false => exact (FailsIff.ok _).congr (by simp)
    | true =>
        have inBlock (blockName listName : String) (known : (blockName, listName) ∈ blockLists) :
            FailsIff _ (blockFlaws name fields blockName listName) :=
          failsIff_blockFlaws decides known
        have inVerdict (verdict : String) (known : verdict ∈ verdictNames) :
            FailsIff _ (verdictFlaws name fields verdict) :=
          failsIff_verdictFlaws decides known
        simp only [true_and, if_true]
        refine FailsIff.congr ?_ ((inBlock "condition" "if_true" ?_).bind fun _ _ =>
          (inBlock "condition" "if_false" ?_).bind fun _ _ =>
          (inBlock "loop" "steps" ?_).bind fun _ _ =>
          (inBlock "retry" "steps" ?_).bind fun _ _ =>
          (inBlock "retry" "on_retry_fail_steps" ?_).bind fun _ _ =>
          (inBlock "fallback" "primary_steps" ?_).bind fun _ _ =>
          (inBlock "fallback" "fallback_steps" ?_).bind fun _ _ =>
          (inVerdict "trueStep" ?_).bind fun _ _ =>
          (inVerdict "falseStep" ?_).bind fun _ _ => FailsIff.ok _)
        · rw [exists_mem_stepsInside_iff]
          simp [blockLists, verdictNames, or_assoc]
        all_goals simp [blockLists, verdictNames]

end

/-- The walk over a step fails exactly where it stumbles, whatever place it starts from. -/
theorem failsIff_stepFlaws (value : Value) (place : String) :
    value.isJson = true → FailsIff (Stumbles value) (stepFlaws place value) := by
  cases value with
  | object fields =>
      intro json
      have jsonFields := Value.fieldsConsistOf_fields json
      have decides : ∀ step ∈ stepsInside fields, ∀ place,
          FailsIff (Stumbles step) (stepFlaws place step) := by
        intro step inside place
        exact failsIff_stepFlaws step place (isJson_of_mem_stepsInside jsonFields inside)
      exact failsIff_stepFlaws_object decides jsonFields
  | null | bool | int | float | text | list | mapping | foreign =>
      intro json
      rw [stepFlaws]
      · apply FailsIff.of_not
        intro stumbles
        cases stumbles
      · simp
  termination_by sizeOf value
  decreasing_by exact sizeOf_lt_of_mem_stepsInside ‹_›

theorem failsIff_flaws {data : Value} (json : data.isJson = true) :
    FailsIff (∃ items, Entries.get? "steps" data.fields = some (.list items) ∧
      ∃ item ∈ items, Stumbles item) (flaws data) := by
  cases data with
  | object fields =>
      have jsonFields := Value.fieldsConsistOf_fields json
      simp only [Value.fields]
      cases listed : Entries.get? "steps" fields with
      | none =>
          simp only [flaws, listed]
          exact (FailsIff.ok _).congr (by simp)
      | some steps =>
          have jsonSteps : steps.isJson = true := Value.consistsOf_of_get? jsonFields listed
          have walk : FailsIff (∃ item ∈ steps.items, Stumbles item) (listFlaws "steps" steps) := by
            apply failsIff_listFlaws
            intro item member place
            exact failsIff_stepFlaws item place (Value.consistsOf_of_mem_items jsonSteps member)
          simp only [flaws, listed]
          refine FailsIff.congr ?_ (@FailsIff.bind _ _ _ False _ _ walk fun found _ => ?_)
          · cases steps <;> simp [Value.items]
          · split
            · exact FailsIff.ok _
            · exact FailsIff.ok _
            · exact FailsIff.ok _
  | _ => exact (FailsIff.ok _).congr (by simp [Value.fields, Entries.get?])

end Automation.Validation

namespace Automation.Blueprint

open Validation

theorem exists_read_of_validate_eq_nil {data : Value} (valid : validate data = .ok []) :
    ∃ blueprint, read data = .ok blueprint := by
  rw [validate_eq_ok_nil_iff] at valid
  obtain ⟨fields, rfl, ⟨items, listed, validItems⟩, _⟩ := flaws_eq_ok_nil_iff.mp valid
  have held : Fields.valueOf "steps" fields = .list items := by simp [Fields.valueOf, listed]
  obtain ⟨steps, readItems⟩ : ∃ steps, Step.readSteps "steps" (.list items) = .ok steps := by
    apply Step.exists_readSteps (.inr ⟨items, rfl⟩)
    intro item member place
    exact (validItems.valid item member).exists_read place
  exact ⟨_, by rw [read, held, readItems, ok_bind]⟩

/-- Validation and loading fail alike, exactly where a step that validation comes to has a list or
an object for its type. Elsewhere validation gives messages; loading gives the blueprint that is
read where there are none, and else the error of a blueprint with exactly these messages. -/
theorem load_follows_validate {data : Value} (json : data.isJson = true) :
    ((∃ failure, validate data = .error failure) ↔
      ∃ items, Entries.get? "steps" data.fields = some (.list items) ∧
        ∃ item ∈ items, Stumbles item) ∧
      (∀ failure, validate data = .error failure →
        (∃ kind, failure = .notAName kind) ∧ load data = .error failure) ∧
      (validate data = .ok [] → ∃ blueprint, read data = .ok blueprint ∧
        load data = .ok blueprint) ∧
      ∀ messages, messages ≠ [] → validate data = .ok messages →
        load data = .error (.engine (invalid messages)) := by
  have failsIff : FailsIff _ (validate data) := (failsIff_flaws json).map (List.map Flaw.message)
  refine ⟨⟨?_, ?_⟩, ?_, ?_, ?_⟩
  · rintro ⟨failure, failed⟩
    exact (failsIff.of_error failed).1
  · intro stumbles
    obtain ⟨kind, failed⟩ := failsIff.fails stumbles
    exact ⟨_, failed⟩
  · intro failure failed
    exact ⟨(failsIff.of_error failed).2, by rw [load, failed, error_bind]⟩
  · intro valid
    obtain ⟨blueprint, isRead⟩ := exists_read_of_validate_eq_nil valid
    refine ⟨blueprint, isRead, ?_⟩
    rw [load, valid, ok_bind, isRead]
    rfl
  · intro messages some ended
    rw [load, ended, ok_bind, if_neg (by simpa using some)]

section

/-- A step with a list for its type. -/
def listTyped : Value := .object [("type", .list [])]

theorem load_of_listTyped :
    validate (.object [("steps", .list [listTyped])]) = .error (.notAName "list") ∧
      load (.object [("steps", .list [listTyped])]) = .error (.notAName "list") := by
  have failed : validate (.object [("steps", .list [listTyped])]) = .error (.notAName "list") := by
    simp [validate, listTyped, flaws, listFlaws, itemFlaws, stepFlaws, headFlaws, nameStep,
      stepType, Entries.get?]
  exact ⟨failed, by rw [load, failed, error_bind]⟩

/-- A loop over a step with a list for its type. -/
def loopOfListTyped : Value :=
  .object [("steps", .list [.object
    [("type", .text "loop"), ("loop", .object [("steps", .list [listTyped])])]])]

theorem load_follows_validate_of_loopOfListTyped :
    loopOfListTyped.isJson = true ∧
      ∃ kind, validate loopOfListTyped = .error (.notAName kind) ∧
        load loopOfListTyped = .error (.notAName kind) := by
  have json : loopOfListTyped.isJson = true := by decide
  have stumbles : Stumbles (.object
      [("type", .text "loop"), ("loop", .object [("steps", .list [listTyped])])]) := by
    apply Stumbles.inside rfl
    · apply List.mem_append_left
      exact List.mem_flatten_of_mem (List.mem_map_of_mem (a := ("loop", "steps")) (by decide))
        List.mem_cons_self
    · exact .here rfl rfl
  obtain ⟨failsIff, alike, _⟩ := load_follows_validate json
  obtain ⟨failure, failed⟩ := failsIff.mpr ⟨_, rfl, _, List.mem_cons_self, stumbles⟩
  obtain ⟨⟨kind, rfl⟩, loaded⟩ := alike failure failed
  exact ⟨json, kind, failed, loaded⟩

end

end Automation.Blueprint
