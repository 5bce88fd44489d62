import Automation.Proofs.Blueprint.Soundness
import Automation.Proofs.Text.Runs

/-!
When the written form of a valid blueprint is valid.

A step is written with every default filled in, so two things can be wrong with it that were not
wrong before: a retry without a number of attempts is written with null for it, and a step without
an id is written with its position as its id, which a step of the same list may have given itself.
Nothing else goes wrong.
-/

namespace Automation

namespace Text

/-- The path of an item of a list is not blank. -/
theorem trim_itemPath_ne_nil (path : String) (index : Nat) :
    trim s!"{path}[{index}]".toList ≠ [] :=
  have opens : '[' ∈ s!"{path}[{index}]".toList := by
    simp [show (toString "[").toList = ['['] from rfl]
  trim_ne_nil_of_mem opens (by decide)

end Text

namespace Step

/-- A step whose written form is valid if the step was read from a valid one: at every depth of the
lists in its blocks, a retry says how often it tries, and no two steps of a list have the same
id. -/
inductive IsStorable : Step → Prop where
  | mk {step : Step}
      (attempts : ∀ block, step.type = StepType.retry.name → step.retry = some block →
        block.maxAttempts ≠ .null)
      (distinct : ∀ steps ∈ step.lists, (steps.map Step.id).Nodup)
      (inside : ∀ steps ∈ step.lists, ∀ child ∈ steps, IsStorable child) : IsStorable step

theorem writeAll_eq_map (steps : List Step) : writeAll steps = steps.map write := by
  induction steps with
  | nil => rw [writeAll, List.map_nil]
  | cons step rest inductionHypothesis => rw [writeAll, inductionHypothesis, List.map_cons]

/-- The fields that a step is written as. -/
def written (step : Step) : Fields := Fields.ofSlots step.slots

end Step

namespace Validation

open Step

theorem declaredId?_write (step : Step) : declaredId? step.write = some step.id := by
  rw [write_eq]
  simp [declaredId?, Value.fields, slots, StepHeader.slots, Fields.valueOf, Step.id]

theorem filterMap_declaredId?_write (steps : List Step) :
    (steps.map write).filterMap declaredId? = steps.map Step.id := by
  induction steps with
  | nil => rfl
  | cons step rest inductionHypothesis =>
      rw [List.map_cons, List.filterMap_cons_some (declaredId?_write step), inductionHypothesis,
        List.map_cons]

section

variable (step : Step)

theorem valueOf_condition_written : Fields.valueOf "condition" step.written =
    (step.condition.map writeCondition).getD .null := by
  simp [Step.written, slots, StepHeader.slots, Fields.valueOf]

theorem valueOf_loop_written : Fields.valueOf "loop" step.written =
    (step.loop.map writeLoop).getD .null := by
  simp [Step.written, slots, StepHeader.slots, Fields.valueOf]

theorem valueOf_retry_written : Fields.valueOf "retry" step.written =
    (step.retry.map writeRetry).getD .null := by
  simp [Step.written, slots, StepHeader.slots, Fields.valueOf]

theorem valueOf_fallback_written : Fields.valueOf "fallback" step.written =
    (step.fallback.map writeFallback).getD .null := by
  simp [Step.written, slots, StepHeader.slots, Fields.valueOf]

/-- What the blocks of a written step hold are the lists of the step. -/
theorem blockValue_written : ∀ entry ∈ blockLists.zip step.lists,
    blockValue step.written entry.1.1 entry.1.2 = .null ∧ entry.2 = [] ∨
      blockValue step.written entry.1.1 entry.1.2 = .list (entry.2.map write) := by
  simp only [blockLists, Step.lists, List.zip_cons_cons, List.zip_nil_right, List.forall_mem_cons,
    blockValue, valueOf_condition_written, valueOf_loop_written, valueOf_retry_written,
    valueOf_fallback_written]
  refine ⟨?_, ?_, ?_, ?_, ?_, ?_, ?_, by simp⟩
  · cases step.condition <;>
      simp [writeCondition, Value.fields, Fields.valueOf, Entries.get?, writeAll_eq_map]
  · cases step.condition <;>
      simp [writeCondition, Value.fields, Fields.valueOf, Entries.get?, writeAll_eq_map]
  · cases step.loop <;>
      simp [writeLoop, Value.fields, Fields.valueOf, Entries.get?, writeAll_eq_map]
  · cases step.retry <;>
      simp [writeRetry, Value.fields, Fields.valueOf, Entries.get?, writeAll_eq_map]
  · cases step.retry <;>
      simp [writeRetry, Value.fields, Fields.valueOf, Entries.get?, writeAll_eq_map]
  · cases step.fallback <;>
      simp [writeFallback, Value.fields, Fields.valueOf, Entries.get?, writeAll_eq_map]
  · cases step.fallback <;>
      simp [writeFallback, Value.fields, Fields.valueOf, Entries.get?, writeAll_eq_map]

theorem map_fst_zip_lists : (blockLists.zip step.lists).map Prod.fst = blockLists := rfl

theorem map_snd_zip_lists : (blockLists.zip step.lists).map Prod.snd = step.lists := rfl

theorem items_blockValue_written : ∀ entry ∈ blockLists.zip step.lists,
    (blockValue step.written entry.1.1 entry.1.2).items = entry.2.map write := by
  intro entry known
  rcases blockValue_written step entry known with ⟨missing, none⟩ | held
  · simp [missing, none, Value.items]
  · simp [held, Value.items]

theorem listsInside_written : listsInside step.written = step.lists.map (List.map write) := by
  calc listsInside step.written
    _ = ((blockLists.zip step.lists).map Prod.fst).map fun names =>
          (blockValue step.written names.1 names.2).items := rfl
    _ = ((blockLists.zip step.lists).map Prod.snd).map (List.map write) := by
        rw [List.map_map, List.map_map]
        exact List.map_congr_left (items_blockValue_written step)
    _ = step.lists.map (List.map write) := by rw [map_snd_zip_lists]

/-- The blocks of a written step hold valid lists if no two steps of a list have the same id. -/
theorem validLists_written_iff :
    ValidLists step.written ↔ ∀ steps ∈ step.lists, (steps.map Step.id).Nodup := by
  constructor
  · rintro ⟨_, distinct⟩ steps inside
    rw [listsInside_written] at distinct
    rw [← filterMap_declaredId?_write]
    exact distinct _ (List.mem_map_of_mem inside)
  · intro distinct
    refine ⟨fun names known => ?_, ?_⟩
    · rw [← map_fst_zip_lists step] at known
      obtain ⟨entry, held, rfl⟩ := List.mem_map.mp known
      exact (blockValue_written step entry held).imp And.left fun list => ⟨_, list⟩
    · rw [listsInside_written]
      simp only [List.forall_mem_map, filterMap_declaredId?_write]
      exact distinct

end

section

variable {fields : Fields} {type : StepType} {path : String} {step : Step}

theorem config_written (success : readFields path fields = .ok step) :
    (Fields.valueOf "config" step.written).fields = (Fields.valueOf "config" fields).fields := by
  rw [Step.written, config_ofSlots]
  exact config_of_readFields success

theorem verdictSteps_written (success : readFields path fields = .ok step) :
    verdictSteps step.written = verdictSteps fields := by
  rw [verdictSteps, verdictSteps, config_written success]

/-- The id of a step that was read is not blank: it is the one that the step gives itself, or its
path. -/
theorem trim_id_ne_nil (head : ValidHead fields type) (success : readFields path fields = .ok step)
    (notBlank : Text.trim path.toList ≠ []) : Text.trim step.id.toList ≠ [] := by
  obtain ⟨_, _, isHeader, _⟩ := readFields_eq_ok_iff.mp success
  rw [Step.id, isHeader]
  simp only [readHeader, Fields.valueOf]
  cases found : Entries.get? "id" fields with
  | none => simpa [Value.orElse, Value.truthy, Value.display, Value.displayed] using notBlank
  | some id =>
      obtain ⟨text, rfl, visible⟩ := head.named id found
      have notEmpty : text ≠ "" := by
        rintro rfl
        exact visible rfl
      simpa [Value.orElse, Value.truthy, Value.display, Value.displayed, notEmpty] using visible

/-- The number of attempts of a retry that was read is missing or fine. -/
theorem isAttempts_maxAttempts_iff {block : RetryBlock Step}
    (provides : Provides fields (Fields.valueOf "config" fields).fields .retry)
    (success : readRetry path fields = .ok (some block)) :
    isAttempts block.maxAttempts = true ↔ block.maxAttempts ≠ .null := by
  obtain ⟨retry, held, fine⟩ := provides
  rw [readRetry_eq, held] at success
  simp only [bind_eq_ok_iff, Except.ok.injEq, Option.some.injEq] at success
  obtain ⟨_, _, _, _, rfl⟩ := success
  simp only [Fields.valueOf]
  cases found : Entries.get? "max_attempts" retry with
  | none => simp [isAttempts]
  | some attempts =>
      have isFine := fine attempts found
      refine ⟨?_, fun _ => isFine⟩
      rintro _ rfl
      cases isFine

theorem provides_written_iff (head : ValidHead fields type) (complete : step.Supplies type)
    (success : readFields path fields = .ok step) :
    Provides step.written (Fields.valueOf "config" step.written).fields type ↔
      ∀ block, type = .retry → step.retry = some block → block.maxAttempts ≠ .null := by
  have provides := head.provides
  obtain ⟨_, _, _, _, _, retry, _⟩ := readFields_eq_ok_iff.mp success
  rw [config_written success]
  cases type with
  | apiCall | webhook => simpa [Provides] using provides
  | agentCall => simp [Provides]
  | delay => simpa [Provides] using provides
  | condition =>
      have sameBlock :
          Fields.valueOf "expression" (Fields.valueOf "condition" step.written).fields =
            Fields.valueOf "expression" (Fields.valueOf "condition" fields).fields := by
        rw [blockExpression_eq success, valueOf_condition_written]
        cases step.condition <;> rfl
      simpa [Provides, conditionExpression, sameBlock] using provides
  | loop =>
      obtain ⟨block, held⟩ := complete
      simp [Provides, valueOf_loop_written, held, writeLoop, Value.isObject]
  | retry =>
      obtain ⟨block, held⟩ := complete
      rw [held] at retry
      simp [Provides, valueOf_retry_written, held, writeRetry, Entries.get?,
        isAttempts_maxAttempts_iff provides retry]
  | fallback =>
      obtain ⟨block, held⟩ := complete
      simp [Provides, valueOf_fallback_written, held, writeFallback, Value.isObject]

/-- The own fields of a written step are in order unless it is a retry without a number of
attempts. -/
theorem validHead_written_iff (head : ValidHead fields type)
    (json : Value.fieldsConsistOf Value.isJsonScalar fields = true)
    (success : readFields path fields = .ok step) (notBlank : Text.trim path.toList ≠ []) :
    (∃ type, ValidHead step.written type) ↔
      ∀ block, step.type = StepType.retry.name → step.retry = some block →
        block.maxAttempts ≠ .null := by
  have typed : Entries.get? "type" step.written = some (.text step.type) := by
    simp [Step.written, slots, StepHeader.slots, Step.type]
  have sameType := head.type_eq success
  have provides := provides_written_iff head (head.supplies json success) success
  constructor
  · rintro ⟨other, headWritten⟩ block isRetry held
    rw [headWritten.typed, Option.some.injEq, Value.text.injEq, sameType,
      StepType.name_inj] at typed
    rw [sameType, StepType.name_inj] at isRetry
    exact provides.mp (typed ▸ headWritten.provides) block isRetry held
  · intro attempts
    refine ⟨type, ?_, ?_, ?_, ?_, ?_, provides.mpr fun block isRetry held =>
      attempts block (by rw [sameType, isRetry]) held⟩
    · rw [typed, sameType]
    · intro id found
      have written : Entries.get? "id" step.written = some (.text step.id) := by
        simp [Step.written, slots, StepHeader.slots, Step.id]
      rw [written] at found
      cases found
      exact ⟨_, rfl, trim_id_ne_nil head success notBlank⟩
    · intro value found
      have written : Entries.get? "stopOnError" step.written =
          if step.header.stopOnError then none else some (.bool false) := by
        simp [Step.written, slots, StepHeader.slots]
      rw [written] at found
      split at found <;> cases found
      exact ⟨false, rfl⟩
    · intro value found
      simp [Step.written, slots, StepHeader.slots] at found
    · intro value found
      have written : Entries.get? "config" step.written =
          Option.guard Value.truthy (.object step.header.config) := by
        simp [Step.written, slots, StepHeader.slots]
      rw [written, Option.guard_eq_some_iff] at found
      exact ⟨_, found.1.symm⟩

/-- What is inside a written step is what is in its lists, written, and the steps for the verdicts
as the configuration holds them. -/
theorem forall_mem_stepsInside_written (success : readFields path fields = .ok step)
    (verdicts : ∀ inner ∈ verdictSteps fields, ValidStep inner) :
    (∀ inner ∈ stepsInside step.written, ValidStep inner) ↔
      ∀ steps ∈ step.lists, ∀ child ∈ steps, ValidStep child.write := by
  simp only [stepsInside, List.forall_mem_append, verdictSteps_written success,
    listsInside_written, List.mem_flatten, List.mem_map]
  constructor
  · rintro ⟨inside, _⟩ steps listed child member
    exact inside child.write ⟨_, ⟨steps, listed, rfl⟩, List.mem_map_of_mem member⟩
  · intro inside
    refine ⟨?_, verdicts⟩
    rintro _ ⟨_, ⟨steps, listed, rfl⟩, member⟩
    obtain ⟨child, inSteps, rfl⟩ := List.mem_map.mp member
    exact inside steps listed child inSteps

end

/-- A step that was read from a valid one is written as a valid one exactly if it is storable. -/
theorem ValidStep.write_iff {value : Value} (valid : ValidStep value) (json : value.isJson = true)
    {path : String} {step : Step} (success : Step.read path value = .ok step)
    (notBlank : Text.trim path.toList ≠ []) : ValidStep step.write ↔ step.IsStorable := by
  induction valid generalizing path step with
  | @mk fields type head lists inside inherit =>
      replace json := Value.fieldsConsistOf_fields json
      rw [Step.read] at success
      have children : ∀ steps ∈ step.lists, ∀ child ∈ steps,
          (ValidStep child.write ↔ child.IsStorable) := by
        intro steps listed child member
        obtain ⟨names, known⟩ := exists_names_of_mem_lists listed
        obtain ⟨place, readInside⟩ := readFields_lists success _ known
        obtain ⟨inner, held, index, isRead⟩ := exists_read_of_mem_steps readInside member
        have innerInside := mem_stepsInside_of_listed (List.of_mem_zip known).1 held
        exact inherit inner innerInside (isJson_of_mem_stepsInside json innerInside) isRead
          (Text.trim_itemPath_ne_nil place index)
      have verdicts : ∀ inner ∈ verdictSteps fields, ValidStep inner := fun inner member =>
        inside inner (List.mem_append_right _ member)
      have written : step.write = .object step.written := Step.write_eq step
      rw [written, validStep_object_iff, validHead_written_iff head json success notBlank,
        validLists_written_iff, forall_mem_stepsInside_written success verdicts]
      constructor
      · rintro ⟨attempts, distinct, validInside⟩
        exact .mk attempts distinct fun steps listed child member =>
          (children steps listed child member).mp (validInside steps listed child member)
      · rintro ⟨attempts, distinct, storable⟩
        exact ⟨attempts, distinct, fun steps listed child member =>
          (children steps listed child member).mpr (storable steps listed child member)⟩

end Validation

namespace Blueprint

open Validation

theorem flaws_write_eq_ok_nil_iff (blueprint : Blueprint) :
    flaws blueprint.write = .ok [] ↔ ValidList (blueprint.steps.map Step.write) := by
  rw [write, flaws_eq_ok_nil_iff]
  simp [writeFields, Entries.get?, Step.writeAll_eq_map]

/-- The written form of a blueprint that was read from a valid one is valid exactly if at every
depth its retries say how often they try and no two steps of a list have the same id. -/
theorem validate_write_iff_isStorable {data : Value} {blueprint : Blueprint}
    (json : data.isJson = true) (valid : validate data = .ok [])
    (success : read data = .ok blueprint) :
    validate blueprint.write = .ok [] ↔
      (blueprint.steps.map Step.id).Nodup ∧ ∀ step ∈ blueprint.steps, step.IsStorable := by
  rw [validate_eq_ok_nil_iff] at valid
  obtain ⟨fields, rfl, ⟨items, listed, validItems⟩, _⟩ := flaws_eq_ok_nil_iff.mp valid
  have itemsJson : (Value.list items).isJson = true :=
    Value.consistsOf_of_get? (Value.fieldsConsistOf_fields json) listed
  have held : Fields.valueOf "steps" fields = .list items := by simp [Fields.valueOf, listed]
  simp only [read, held, bind_eq_ok_iff, Except.ok.injEq] at success
  obtain ⟨steps, readItems, rfl⟩ := success
  have storable : ∀ step ∈ steps, (ValidStep step.write ↔ step.IsStorable) := by
    intro step member
    obtain ⟨item, inItems, index, isRead⟩ := Step.exists_read_of_mem_steps readItems member
    exact (validItems.valid item inItems).write_iff
      (Value.consistsOf_of_mem_items itemsJson inItems) isRead
      (Text.trim_itemPath_ne_nil "steps" index)
  rw [validate_eq_ok_nil_iff, flaws_write_eq_ok_nil_iff]
  constructor
  · rintro ⟨distinct, validWritten⟩
    rw [filterMap_declaredId?_write] at distinct
    rw [List.forall_mem_map] at validWritten
    exact ⟨distinct, fun step member => (storable step member).mp (validWritten step member)⟩
  · rintro ⟨distinct, isStorable⟩
    refine ⟨by rwa [filterMap_declaredId?_write], ?_⟩
    rw [List.forall_mem_map]
    exact fun step member => (storable step member).mpr (isStorable step member)

section

attribute [local simp] flaws listFlaws itemFlaws stepFlaws headFlaws nameStep stepType
  StepType.ofName? StepType.all StepType.name switchFlaws configFlaws typeFlaws isAttempts
  duplicateFlaws blockFlaws_eq blockValue verdictFlaws Fields.valueOf Entries.get? Value.fields

/-- A stored blueprint with one retry, whose block has the given fields. -/
def retryWith (block : Fields) : Value :=
  .object [("steps", .list [.object [("type", .text "retry"), ("retry", .object block)]])]

/-- The blueprint of a retry without steps that tries as often as is given. -/
def retryBlueprint (maxAttempts : Value) (block : Fields) : Blueprint :=
  { steps := [.mk ⟨"steps[0]", "retry", "", [], true, .null, none, none, none, none⟩ none none
      (some ⟨maxAttempts, .float (Binary64.zero false), [], []⟩) none none none]
    version := "1.0"
    description := .text ""
    trigger := []
    «variables» := []
    source := (retryWith block).fields }

theorem validate_write_of_two_attempts :
    (retryWith [("max_attempts", .int 2)]).isJson = true ∧
      validate (retryWith [("max_attempts", .int 2)]) = .ok [] ∧
      read (retryWith [("max_attempts", .int 2)]) =
        .ok (retryBlueprint (.int 2) [("max_attempts", .int 2)]) ∧
      validate (retryBlueprint (.int 2) [("max_attempts", .int 2)]).write = .ok [] := by
  have json : (retryWith [("max_attempts", .int 2)]).isJson = true := by decide
  have valid : validate (retryWith [("max_attempts", .int 2)]) = .ok [] := by
    simp [validate, retryWith]
  have success : read (retryWith [("max_attempts", .int 2)]) =
      .ok (retryBlueprint (.int 2) [("max_attempts", .int 2)]) := by cbv
  refine ⟨json, valid, success, (validate_write_iff_isStorable json valid success).mpr ⟨?_, ?_⟩⟩
  · simp [retryBlueprint]
  · simp only [retryBlueprint, List.mem_singleton, forall_eq]
    refine .mk ?_ ?_ ?_
    · rintro _ _ ⟨⟩ absent
      cases absent
    · simp [Step.lists, Step.condition, Step.loop, Step.retry, Step.fallback]
    · simp [Step.lists, Step.condition, Step.loop, Step.retry, Step.fallback]

/-- A step that gives itself the position of the step after it as its id. -/
def borrowedId : Value :=
  .object [("steps", .list [.object [("id", .text "steps[1]"), ("type", .text "delay")],
    .object [("type", .text "delay")]])]

/-- The blueprint of these two steps. -/
def borrowedIdBlueprint : Blueprint :=
  let delay : Step :=
    .mk ⟨"steps[1]", "delay", "", [], true, .null, none, none, none, none⟩ none none none none none
      none
  { steps := [delay, delay]
    version := "1.0"
    description := .text ""
    trigger := []
    «variables» := []
    source := borrowedId.fields }

/-- Valid blueprints that are not written as valid ones: a retry that does not say how often it
tries, and a step that borrows the position of another step as its id. -/
theorem write_of_valid_has_flaws :
    (validate (retryWith []) = .ok [] ∧
      read (retryWith []) = .ok (retryBlueprint .null []) ∧
      validate (retryBlueprint .null []).write =
        .ok ["Step 'steps[0]': max_attempts must be a positive integer"]) ∧
    validate borrowedId = .ok [] ∧ read borrowedId = .ok borrowedIdBlueprint ∧
      validate borrowedIdBlueprint.write = .ok ["Duplicate step ID: steps[1]"] := by
  have notBlank (digit : Char) : Text.trim ['s', 't', 'e', 'p', 's', '[', digit, ']'] ≠ [] :=
    Text.trim_ne_nil_of_mem List.mem_cons_self (by decide)
  have writtenRetry : (retryBlueprint .null []).write = .object [("version", .text "1.0"),
    ("description", .text ""), ("trigger", .object []), ("variables", .object []),
    ("steps", .list [.object [("id", .text "steps[0]"), ("type", .text "retry"),
      ("retry", .object [("max_attempts", .null), ("backoff_seconds", .float (Binary64.zero false)),
        ("steps", .list []), ("on_retry_fail_steps", .list [])])]])] := by rfl
  have writtenIds : borrowedIdBlueprint.write = .object [("version", .text "1.0"),
    ("description", .text ""), ("trigger", .object []), ("variables", .object []),
    ("steps", .list [.object [("id", .text "steps[1]"), ("type", .text "delay")],
      .object [("id", .text "steps[1]"), ("type", .text "delay")]])] := by rfl
  refine ⟨⟨by simp [validate, retryWith], by cbv, ?_⟩, by simp [validate, borrowedId, notBlank],
    by cbv, ?_⟩
  · rw [writtenRetry]
    simp [validate, notBlank]
    rfl
  · rw [writtenIds]
    simp [validate, notBlank]
    rfl

end

end Blueprint

end Automation
