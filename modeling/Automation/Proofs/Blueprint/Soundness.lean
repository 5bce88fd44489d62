import Automation.Proofs.Blueprint.RoundTrip
import Automation.Proofs.Blueprint.Validity

/-!
Valid blueprints are read, and what is read is complete.

The reader and the validator walk the same positions: every step directly inside a step that was
read comes from a value that the validator looked at. So a valid blueprint is read, and every step
of it, at any depth, has what its type asks for.
-/

namespace Automation

theorem Value.exists_object_of_isObject {value : Value} (json : value.isJson = true)
    (isObject : value.isObject = true) : ∃ fields, value = .object fields := by
  cases value <;> simp_all [Value.isObject, Value.isJson, Value.consistsOf, Value.isJsonScalar]

theorem Value.consistsOf_of_mem_items {scalar : Value → Bool} {value item : Value}
    (data : value.consistsOf scalar = true) (listed : item ∈ value.items) :
    item.consistsOf scalar = true := by
  cases value with
  | list items => exact itemsConsistOf_iff.mp data item listed
  | _ => simp [items] at listed

namespace Step

/-- What a type of step asks for. -/
def Supplies (step : Step) : StepType → Prop
  | .apiCall | .webhook => (Fields.valueOf "url" step.config).truthy = true
  | .agentCall | .delay => True
  | .condition =>
      step.expression ≠ .null ∧
        ∃ checked, Condition.check Condition.forbiddenKeywords step.expression = .ok checked
  | .loop => ∃ block, step.loop = some block
  | .retry => ∃ block, step.retry = some block
  | .fallback => ∃ block, step.fallback = some block

/-- A step of a known type that has what its type asks for. -/
def IsComplete (step : Step) : Prop := ∃ type : StepType, step.type = type.name ∧ step.Supplies type

section

variable {path : String} {fields : Fields}

theorem exists_read_of_mem_zipIdx {position : Nat} {items : List Value} {steps : List Step}
    (success : readItems path position items = .ok steps) {entry : Step × Nat}
    (known : entry ∈ steps.zipIdx position) :
    ∃ item ∈ items, read s!"{path}[{entry.2}]" item = .ok entry.1 := by
  induction items generalizing position steps with
  | nil =>
      rw [readItems] at success
      cases success
      simp at known
  | cons item rest inductionHypothesis =>
      rw [readItems] at success
      simp only [bind_eq_ok_iff, Except.ok.injEq] at success
      obtain ⟨first, readFirst, others, readOthers, rfl⟩ := success
      rw [List.zipIdx_cons] at known
      rcases List.mem_cons.mp known with rfl | later
      · exact ⟨item, List.mem_cons_self, readFirst⟩
      · obtain ⟨other, listed, isRead⟩ := inductionHypothesis readOthers later
        exact ⟨other, List.mem_cons_of_mem _ listed, isRead⟩

theorem exists_read_of_mem_items {position : Nat} {items : List Value} {steps : List Step}
    (success : readItems path position items = .ok steps) {step : Step} (member : step ∈ steps) :
    ∃ item ∈ items, ∃ index : Nat, read s!"{path}[{index}]" item = .ok step := by
  rw [← List.zipIdx_map_fst position steps] at member
  obtain ⟨entry, known, rfl⟩ := List.mem_map.mp member
  obtain ⟨item, listed, isRead⟩ := exists_read_of_mem_zipIdx success known
  exact ⟨item, listed, entry.2, isRead⟩

theorem exists_read_of_mem_steps {value : Value} {steps : List Step}
    (success : readSteps path value = .ok steps) {step : Step} (member : step ∈ steps) :
    ∃ item ∈ value.items, ∃ index : Nat, read s!"{path}[{index}]" item = .ok step := by
  unfold readSteps at success
  split at success
  · cases success
    simp at member
  · exact exists_read_of_mem_items success member
  · cases success

theorem exists_readItems {position : Nat} {items : List Value}
    (readable : ∀ item ∈ items, ∀ place, ∃ step, read place item = .ok step) :
    ∃ steps, readItems path position items = .ok steps := by
  induction items generalizing position with
  | nil =>
      rw [readItems]
      exact ⟨[], rfl⟩
  | cons item rest inductionHypothesis =>
      rw [List.forall_mem_cons] at readable
      obtain ⟨step, readItem⟩ := readable.1 s!"{path}[{position}]"
      obtain ⟨steps, readRest⟩ := @inductionHypothesis (position + 1) readable.2
      rw [readItems, readItem, ok_bind, readRest]
      exact ⟨step :: steps, rfl⟩

theorem exists_readSteps {value : Value}
    (isList : value = .null ∨ ∃ items, value = .list items)
    (readable : ∀ item ∈ value.items, ∀ place, ∃ step, read place item = .ok step) :
    ∃ steps, readSteps path value = .ok steps := by
  rcases isList with rfl | ⟨items, rfl⟩
  · rw [readSteps]
    exact ⟨[], rfl⟩
  · rw [readSteps]
    exact exists_readItems readable

end

end Step

namespace Validation

open Step

section

variable {path : String} {fields : Fields}

theorem mem_stepsInside_of_listed {names : String × String} (known : names ∈ blockLists)
    {item : Value} (listed : item ∈ (blockValue fields names.1 names.2).items) :
    item ∈ stepsInside fields :=
  List.mem_append_left _ (List.mem_flatten_of_mem (List.mem_map_of_mem known) listed)

theorem mem_stepsInside_of_verdict {verdict : String} (known : verdict ∈ verdictNames)
    {step : Value}
    (found : Entries.get? verdict (Fields.valueOf "config" fields).fields = some step) :
    step ∈ stepsInside fields :=
  List.mem_append_right _ (List.mem_filterMap.mpr ⟨verdict, known, found⟩)

theorem blockValue_of_object {block : Fields} {blockName : String}
    (held : Fields.valueOf blockName fields = .object block) (listName : String) :
    blockValue fields blockName listName = Fields.valueOf listName block := by
  rw [blockValue, held, Value.fields]

theorem blockValue_of_not_object {blockName : String}
    (noBlock : ∀ block, Fields.valueOf blockName fields ≠ .object block) (listName : String) :
    blockValue fields blockName listName = .null := by
  rw [blockValue]
  cases held : Fields.valueOf blockName fields with
  | object block => exact absurd held (noBlock block)
  | _ => rfl

/-- Steps that were read from what a block holds under a name. -/
def ReadFrom (fields : Fields) (names : String × String) (steps : List Step) : Prop :=
  ∃ place, readSteps place (blockValue fields names.1 names.2) = .ok steps

/-- The path of a list in a block of the step with a path. -/
def listPath (path : String) (names : String × String) : String :=
  path ++ ("." ++ names.1 ++ "." ++ names.2)

/-- The path of the step that the configuration of a step holds for a verdict. -/
def verdictPath (path verdict : String) : String := path ++ ".config." ++ verdict

theorem readSteps_blockValue_of_not_object {names : String × String}
    (noBlock : ∀ block, Fields.valueOf names.1 fields ≠ .object block) :
    readSteps (listPath path names) (blockValue fields names.1 names.2) = .ok [] := by
  rw [blockValue_of_not_object noBlock, readSteps]

theorem readCondition_lists {condition : Option (ConditionBlock Step)}
    (success : readCondition path fields = .ok condition) :
    readSteps (listPath path ("condition", "if_true")) (blockValue fields "condition" "if_true") =
        .ok ((condition.map ConditionBlock.ifTrue).getD []) ∧
      readSteps (listPath path ("condition", "if_false"))
          (blockValue fields "condition" "if_false") =
        .ok ((condition.map ConditionBlock.ifFalse).getD []) := by
  rw [readCondition_eq] at success
  split at success
  · rename_i block held
    simp only [bind_eq_ok_iff, Except.ok.injEq, ← blockValue_of_object held] at success
    obtain ⟨ifTrue, readTrue, ifFalse, readFalse, rfl⟩ := success
    exact ⟨readTrue, readFalse⟩
  · rename_i noBlock
    cases success
    exact ⟨readSteps_blockValue_of_not_object noBlock, readSteps_blockValue_of_not_object noBlock⟩

theorem readLoop_lists {loop : Option (LoopBlock Step)}
    (success : readLoop path fields = .ok loop) :
    readSteps (listPath path ("loop", "steps")) (blockValue fields "loop" "steps") =
      .ok ((loop.map LoopBlock.steps).getD []) := by
  rw [readLoop_eq] at success
  split at success
  · rename_i block held
    simp only [bind_eq_ok_iff, Except.ok.injEq, ← blockValue_of_object held] at success
    obtain ⟨steps, readInside, rfl⟩ := success
    exact readInside
  · rename_i noBlock
    cases success
    exact readSteps_blockValue_of_not_object noBlock

theorem readRetry_lists {retry : Option (RetryBlock Step)}
    (success : readRetry path fields = .ok retry) :
    readSteps (listPath path ("retry", "steps")) (blockValue fields "retry" "steps") =
        .ok ((retry.map RetryBlock.steps).getD []) ∧
      readSteps (listPath path ("retry", "on_retry_fail_steps"))
          (blockValue fields "retry" "on_retry_fail_steps") =
        .ok ((retry.map RetryBlock.recovery).getD []) := by
  rw [readRetry_eq] at success
  split at success
  · rename_i block held
    simp only [bind_eq_ok_iff, Except.ok.injEq, ← blockValue_of_object held "steps",
      ← blockValue_of_object held "on_retry_fail_steps"] at success
    obtain ⟨steps, readInside, recovery, readRecovery, rfl⟩ := success
    exact ⟨readInside, readRecovery⟩
  · rename_i noBlock
    cases success
    exact ⟨readSteps_blockValue_of_not_object noBlock, readSteps_blockValue_of_not_object noBlock⟩

theorem readFallback_lists {fallback : Option (FallbackBlock Step)}
    (success : readFallback path fields = .ok fallback) :
    readSteps (listPath path ("fallback", "primary_steps"))
          (blockValue fields "fallback" "primary_steps") =
        .ok ((fallback.map FallbackBlock.primary).getD []) ∧
      readSteps (listPath path ("fallback", "fallback_steps"))
          (blockValue fields "fallback" "fallback_steps") =
        .ok ((fallback.map FallbackBlock.alternative).getD []) := by
  rw [readFallback_eq] at success
  split at success
  · rename_i block held
    simp only [bind_eq_ok_iff, Except.ok.injEq, ← blockValue_of_object held] at success
    obtain ⟨primary, readPrimary, alternative, readAlternative, rfl⟩ := success
    exact ⟨readPrimary, readAlternative⟩
  · rename_i noBlock
    cases success
    exact ⟨readSteps_blockValue_of_not_object noBlock, readSteps_blockValue_of_not_object noBlock⟩

theorem get?_of_valueOf_object {name : String} {entries object : Fields}
    (held : Fields.valueOf name entries = .object object) :
    Entries.get? name entries = some (.object object) := by
  unfold Fields.valueOf at held
  cases found : Entries.get? name entries <;> simp_all

theorem exists_of_readVerdictStep {verdict : String} {child : Step}
    (success : readVerdictStep path fields verdict = .ok (some child)) :
    ∃ inner, Entries.get? verdict (Fields.valueOf "config" fields).fields = some inner ∧
      read (verdictPath path verdict) inner = .ok child := by
  rw [readVerdictStep] at success
  split at success
  · rename_i inner held
    have found : Entries.get? verdict (Fields.valueOf "config" fields).fields =
        some (.object inner) := get?_of_valueOf_object held
    simp only [map_eq_ok_iff, Option.some.injEq, exists_eq_right] at success
    refine ⟨_, found, ?_⟩
    rw [Step.read, verdictPath, success]
  · simp at success

theorem exists_names_of_mem_lists {step : Step} {steps : List Step} (inside : steps ∈ step.lists) :
    ∃ names, (names, steps) ∈ blockLists.zip step.lists := by
  have all : (blockLists.zip step.lists).map Prod.snd = step.lists :=
    List.map_snd_zip (Nat.le_refl 7)
  rw [← all] at inside
  obtain ⟨⟨names, _⟩, known, rfl⟩ := List.mem_map.mp inside
  exact ⟨names, known⟩

/-- Every list in the blocks of a step that was read was read from what the block held, at the path
of the list. -/
theorem readFields_listsAt {step : Step} (success : readFields path fields = .ok step) :
    ∀ entry ∈ blockLists.zip step.lists,
      readSteps (listPath path entry.1) (blockValue fields entry.1.1 entry.1.2) = .ok entry.2 := by
  obtain ⟨_, _, _, condition, loop, retry, fallback, _, _⟩ := readFields_eq_ok_iff.mp success
  obtain ⟨ifTrue, ifFalse⟩ := readCondition_lists condition
  obtain ⟨steps, recovery⟩ := readRetry_lists retry
  obtain ⟨primary, alternative⟩ := readFallback_lists fallback
  simp [blockLists, Step.lists, ifTrue, ifFalse, readLoop_lists loop, steps, recovery, primary,
    alternative]

theorem readFields_lists {step : Step} (success : readFields path fields = .ok step) :
    ∀ entry ∈ blockLists.zip step.lists, ReadFrom fields entry.1 entry.2 := by
  intro entry known
  exact ⟨_, readFields_listsAt success entry known⟩

/-- Every step directly inside a step that was read was read from a value directly inside. -/
theorem exists_read_of_mem_children {step child : Step}
    (success : readFields path fields = .ok step) (member : child ∈ step.children) :
    ∃ inner ∈ stepsInside fields, ∃ place, read place inner = .ok child := by
  obtain ⟨_, _, _, _, _, _, _, trueStep, falseStep⟩ := readFields_eq_ok_iff.mp success
  rcases mem_children_iff.mp member with inLists | isTrue | isFalse
  · obtain ⟨steps, inside, listed⟩ := List.mem_flatten.mp inLists
    obtain ⟨names, known⟩ := exists_names_of_mem_lists inside
    obtain ⟨place, readInside⟩ := readFields_lists success _ known
    obtain ⟨inner, held, _, isRead⟩ := exists_read_of_mem_steps readInside listed
    exact ⟨inner, mem_stepsInside_of_listed (List.of_mem_zip known).1 held, _, isRead⟩
  · rw [isTrue] at trueStep
    obtain ⟨inner, found, isRead⟩ := exists_of_readVerdictStep trueStep
    exact ⟨inner, mem_stepsInside_of_verdict (by simp [verdictNames]) found, _, isRead⟩
  · rw [isFalse] at falseStep
    obtain ⟨inner, found, isRead⟩ := exists_of_readVerdictStep falseStep
    exact ⟨inner, mem_stepsInside_of_verdict (by simp [verdictNames]) found, _, isRead⟩

end

section

variable {fields : Fields}

theorem isJson_blockValue (json : Value.fieldsConsistOf Value.isJsonScalar fields = true)
    (blockName listName : String) : (blockValue fields blockName listName).isJson = true :=
  Value.consistsOf_valueOf rfl
    (Value.fieldsConsistOf_fields (Value.consistsOf_valueOf rfl json blockName)) listName

theorem isJson_of_mem_stepsInside (json : Value.fieldsConsistOf Value.isJsonScalar fields = true)
    {step : Value} (inside : step ∈ stepsInside fields) : step.isJson = true := by
  simp only [stepsInside, listsInside, verdictSteps, List.mem_append, List.mem_flatten,
    List.mem_map, List.mem_filterMap] at inside
  rcases inside with ⟨_, ⟨names, _, rfl⟩, listed⟩ | ⟨verdict, _, found⟩
  · exact Value.consistsOf_of_mem_items (isJson_blockValue json names.1 names.2) listed
  · exact Value.consistsOf_of_get?
      (Value.fieldsConsistOf_fields (Value.consistsOf_valueOf rfl json "config")) found

end

section

variable {fields : Fields}

section

variable (lists : ValidLists fields)
  (readable : ∀ inner ∈ stepsInside fields, ∀ place, ∃ step, Step.read place inner = .ok step)

include lists readable

/-- The reader finds steps where the validator found steps. -/
theorem exists_readBlock (blockName listName : String)
    (known : (blockName, listName) ∈ blockLists) {block : Fields}
    (held : Fields.valueOf blockName fields = .object block) (place : String) :
    ∃ steps, readSteps place (Fields.valueOf listName block) = .ok steps := by
  rw [← blockValue_of_object held]
  exact exists_readSteps (lists.areLists _ known) fun item listed =>
    readable item (mem_stepsInside_of_listed known listed)

theorem exists_readCondition (path : String) :
    ∃ condition, readCondition path fields = .ok condition := by
  have readBlock := exists_readBlock lists readable "condition"
  rw [readCondition_eq]
  split
  · rename_i held
    obtain ⟨_, ifTrue⟩ := readBlock "if_true" (by simp [blockLists]) held
      (path ++ ".condition.if_true")
    obtain ⟨_, ifFalse⟩ := readBlock "if_false" (by simp [blockLists]) held
      (path ++ ".condition.if_false")
    simp [ifTrue, ifFalse]
  · exact ⟨none, rfl⟩

theorem exists_readLoop (path : String) : ∃ loop, readLoop path fields = .ok loop := by
  rw [readLoop_eq]
  split
  · rename_i held
    obtain ⟨_, steps⟩ := exists_readBlock lists readable "loop" "steps" (by simp [blockLists]) held
      (path ++ ".loop.steps")
    simp [steps]
  · exact ⟨none, rfl⟩

theorem exists_readRetry (path : String) : ∃ retry, readRetry path fields = .ok retry := by
  have readBlock := exists_readBlock lists readable "retry"
  rw [readRetry_eq]
  split
  · rename_i held
    obtain ⟨_, steps⟩ := readBlock "steps" (by simp [blockLists]) held (path ++ ".retry.steps")
    obtain ⟨_, recovery⟩ := readBlock "on_retry_fail_steps" (by simp [blockLists]) held
      (path ++ ".retry.on_retry_fail_steps")
    simp [steps, recovery]
  · exact ⟨none, rfl⟩

theorem exists_readFallback (path : String) :
    ∃ fallback, readFallback path fields = .ok fallback := by
  have readBlock := exists_readBlock lists readable "fallback"
  rw [readFallback_eq]
  split
  · rename_i held
    obtain ⟨_, primary⟩ := readBlock "primary_steps" (by simp [blockLists]) held
      (path ++ ".fallback.primary_steps")
    obtain ⟨_, alternative⟩ := readBlock "fallback_steps" (by simp [blockLists]) held
      (path ++ ".fallback.fallback_steps")
    simp [primary, alternative]
  · exact ⟨none, rfl⟩

omit lists in
theorem exists_readVerdictStep (path verdict : String) (known : verdict ∈ verdictNames) :
    ∃ step, readVerdictStep path fields verdict = .ok step := by
  rw [readVerdictStep]
  split
  · rename_i inner held
    obtain ⟨step, isRead⟩ := readable _
      (mem_stepsInside_of_verdict known (get?_of_valueOf_object held))
      (path ++ ".config." ++ verdict)
    rw [Step.read] at isRead
    simp [isRead]
  · exact ⟨none, rfl⟩

/-- A step in order is read if the steps directly inside it are. -/
theorem exists_readFields {type : StepType} (head : ValidHead fields type) (path : String) :
    ∃ step, readFields path fields = .ok step := by
  obtain ⟨condition, isCondition⟩ := exists_readCondition lists readable path
  obtain ⟨loop, isLoop⟩ := exists_readLoop lists readable path
  obtain ⟨retry, isRetry⟩ := exists_readRetry lists readable path
  obtain ⟨fallback, isFallback⟩ := exists_readFallback lists readable path
  obtain ⟨trueStep, isTrue⟩ := exists_readVerdictStep readable path "trueStep"
    (by simp [verdictNames])
  obtain ⟨falseStep, isFalse⟩ := exists_readVerdictStep readable path "falseStep"
    (by simp [verdictNames])
  have typed : Fields.valueOf "type" fields = .text type.name := by
    simp [Fields.valueOf, head.typed]
  have named : type.name ≠ "" := by cases type <;> decide
  exact ⟨.mk (readHeader path type.name fields) condition loop retry fallback trueStep falseStep,
    readFields_eq_ok_iff.mpr ⟨typed, named, rfl, isCondition, isLoop, isRetry, isFallback,
      isTrue, isFalse⟩⟩

end

/-- A valid step is read, at whatever path. -/
theorem ValidStep.exists_read {value : Value} (valid : ValidStep value) (path : String) :
    ∃ step, Step.read path value = .ok step := by
  induction valid generalizing path with
  | mk head lists _ readable =>
      rw [Step.read]
      exact exists_readFields lists readable head path

theorem blockExpression_eq {path : String} {step : Step}
    (success : readFields path fields = .ok step) :
    Fields.valueOf "expression" (Fields.valueOf "condition" fields).fields =
      (step.condition.map ConditionBlock.expression).getD .null := by
  obtain ⟨_, _, _, condition, _⟩ := readFields_eq_ok_iff.mp success
  rw [readCondition_eq] at condition
  split at condition
  · rename_i block held
    simp only [bind_eq_ok_iff, Except.ok.injEq] at condition
    obtain ⟨_, _, _, _, isCondition⟩ := condition
    simp [held, Value.fields, ← isCondition]
  · rename_i noBlock
    rw [Except.ok.injEq] at condition
    rw [← condition]
    exact blockValue_of_not_object noBlock "expression"

theorem config_of_readFields {path : String} {step : Step}
    (success : readFields path fields = .ok step) :
    step.config = (Fields.valueOf "config" fields).fields := by
  obtain ⟨_, _, isHeader, _⟩ := readFields_eq_ok_iff.mp success
  rw [Step.config, isHeader]
  rfl

theorem conditionExpression_eq {path : String} {step : Step}
    (success : readFields path fields = .ok step) :
    conditionExpression fields (Fields.valueOf "config" fields).fields = step.expression := by
  simp only [conditionExpression, Step.expression, config_of_readFields success,
    blockExpression_eq success]

theorem ValidHead.type_eq {type : StepType} {path : String} {step : Step}
    (head : ValidHead fields type) (success : readFields path fields = .ok step) :
    step.type = type.name := by
  obtain ⟨typed, _⟩ := readFields_eq_ok_iff.mp success
  simp only [Fields.valueOf, head.typed, Option.getD_some, Value.text.injEq] at typed
  exact typed.symm

/-- A step that was read from fields in order has what its type asks for. -/
theorem ValidHead.supplies {type : StepType} {path : String} {step : Step}
    (head : ValidHead fields type)
    (json : Value.fieldsConsistOf Value.isJsonScalar fields = true)
    (success : readFields path fields = .ok step) : step.Supplies type := by
  obtain ⟨_, _, _, _, loop, retry, fallback, _⟩ := readFields_eq_ok_iff.mp success
  have provides := head.provides
  cases type with
  | apiCall | webhook => rwa [Step.Supplies, config_of_readFields success]
  | agentCall | delay => trivial
  | condition =>
      rw [Provides, conditionExpression_eq success] at provides
      obtain ⟨checked, safe⟩ := provides
      refine ⟨fun missing => ?_, checked, safe⟩
      rw [missing] at safe
      cases safe
  | loop =>
      obtain ⟨block, held⟩ :=
        Value.exists_object_of_isObject (Value.consistsOf_valueOf rfl json "loop") provides
      rw [readLoop_eq, held] at loop
      simp only [bind_eq_ok_iff, Except.ok.injEq] at loop
      obtain ⟨steps, _, isLoop⟩ := loop
      exact ⟨_, isLoop.symm⟩
  | retry =>
      obtain ⟨block, held, _⟩ := provides
      rw [readRetry_eq, held] at retry
      simp only [bind_eq_ok_iff, Except.ok.injEq] at retry
      obtain ⟨steps, _, recovery, _, isRetry⟩ := retry
      exact ⟨_, isRetry.symm⟩
  | fallback =>
      obtain ⟨block, held⟩ :=
        Value.exists_object_of_isObject (Value.consistsOf_valueOf rfl json "fallback") provides
      rw [readFallback_eq, held] at fallback
      simp only [bind_eq_ok_iff, Except.ok.injEq] at fallback
      obtain ⟨primary, _, alternative, _, isFallback⟩ := fallback
      exact ⟨_, isFallback.symm⟩

end

/-- Every step inside a valid step has what its type asks for, at every depth. -/
theorem ValidStep.throughout {value : Value} (valid : ValidStep value)
    (json : value.isJson = true) {path : String} {step : Step}
    (success : Step.read path value = .ok step) : step.Throughout Step.IsComplete := by
  induction valid generalizing path step with
  | mk head lists _ inherit =>
      replace json := Value.fieldsConsistOf_fields json
      rw [Step.read] at success
      refine .mk ⟨_, head.type_eq success, head.supplies json success⟩ fun child member => ?_
      obtain ⟨inner, inside, place, isRead⟩ := exists_read_of_mem_children success member
      exact inherit inner inside (isJson_of_mem_stepsInside json inside) isRead

/-- A value that stands in a step: the step, or one of the steps inside it. -/
inductive StandsIn (step : Value) : Value → Prop where
  | self : StandsIn step step
  | inside {fields : Fields} {inner : Value} (outer : StandsIn step (.object fields))
      (member : inner ∈ stepsInside fields) : StandsIn step inner

theorem StandsIn.within {fields : Fields} {child inner : Value}
    (member : child ∈ stepsInside fields) (stands : StandsIn child inner) :
    StandsIn (.object fields) inner := by
  induction stands with
  | self => exact .inside .self member
  | inside _ further outer => exact .inside outer further

theorem standsIn_object_iff {fields : Fields} {inner : Value} :
    StandsIn (.object fields) inner ↔
      inner = .object fields ∨ ∃ child ∈ stepsInside fields, StandsIn child inner := by
  constructor
  · intro stands
    generalize whole : Value.object fields = step at stands
    induction stands with
    | self => exact .inl rfl
    | inside _ member outer =>
        subst whole
        right
        obtain same | ⟨child, known, further⟩ := outer
        · cases same
          exact ⟨_, member, .self⟩
        · exact ⟨child, known, .inside further member⟩
  · rintro (rfl | ⟨child, known, stands⟩)
    · exact .self
    · exact stands.within known

/-- Whether the fields of every step that stands in a value have a property. -/
def EveryStep (p : Fields → Prop) (value : Value) : Prop :=
  ∀ inner, StandsIn value inner → p inner.fields

theorem everyStep_object_iff {p : Fields → Prop} {fields : Fields} :
    EveryStep p (.object fields) ↔ p fields ∧ ∀ child ∈ stepsInside fields, EveryStep p child := by
  simp only [EveryStep, standsIn_object_iff]
  constructor
  · intro every
    exact ⟨every _ (.inl rfl), fun child known inner stands =>
      every inner (.inr ⟨child, known, stands⟩)⟩
  · rintro ⟨here, inside⟩ inner (rfl | ⟨child, known, stands⟩)
    · exact here
    · exact inside child known inner stands

/-- The lists of steps of a stored blueprint: its own list, and the lists in the blocks of every
step at any depth. -/
inductive HoldsList (data : Fields) : List Value → Prop where
  | own {items : List Value} (listed : Entries.get? "steps" data = some (.list items)) :
      HoldsList data items
  | nested {outer items : List Value} {step : Value} {fields : Fields}
      (held : HoldsList data outer) (member : step ∈ outer)
      (inside : StandsIn step (.object fields)) (listed : items ∈ listsInside fields) :
      HoldsList data items

theorem ValidStep.standsIn {step inner : Value} (valid : ValidStep step)
    (stands : StandsIn step inner) : ValidStep inner := by
  induction stands with
  | self => exact valid
  | inside _ member outerValid => exact (validStep_object_iff.mp outerValid).2.2 _ member

/-- Every list of steps of a blueprint without flaws has valid steps and distinct ids. -/
theorem HoldsList.validList {data : Fields} {items : List Value} (held : HoldsList data items)
    (valid : flaws (.object data) = .ok []) : ValidList items := by
  induction held with
  | own listed =>
      obtain ⟨_, same, ⟨items, found, validItems⟩, _⟩ := flaws_eq_ok_nil_iff.mp valid
      cases same
      rw [listed] at found
      cases found
      exact validItems
  | nested _ member inside listed outerValid =>
      obtain ⟨_, lists, validInside⟩ :=
        validStep_object_iff.mp ((outerValid.valid _ member).standsIn inside)
      exact ⟨lists.distinct _ listed, fun item inItems =>
        validInside item (List.mem_append_left _ (List.mem_flatten_of_mem listed inItems))⟩

end Validation

namespace Blueprint

open Validation

theorem validate_eq_ok_nil_iff {data : Value} : validate data = .ok [] ↔ flaws data = .ok [] := by
  simp [validate, map_eq_ok_iff]

/-- A stored blueprint without flaws is read. Every step of it, at any depth, is of a known type and
has what that type asks for, and within every list of steps the ids that the steps give themselves
are distinct. -/
theorem read_complete_of_valid {data : Value} (json : data.isJson = true)
    (valid : validate data = .ok []) :
    ∃ blueprint, read data = .ok blueprint ∧
      (∀ step ∈ blueprint.allSteps, step.IsComplete) ∧
      ∀ items, HoldsList data.fields items → (items.filterMap declaredId?).Nodup := by
  rw [validate_eq_ok_nil_iff] at valid
  obtain ⟨fields, rfl, ⟨items, listed, validItems⟩, _⟩ := flaws_eq_ok_nil_iff.mp valid
  have itemsJson : (Value.list items).isJson = true :=
    Value.consistsOf_of_get? (Value.fieldsConsistOf_fields json) listed
  have held : Fields.valueOf "steps" fields = .list items := by simp [Fields.valueOf, listed]
  obtain ⟨steps, readItems⟩ : ∃ steps, Step.readSteps "steps" (.list items) = .ok steps :=
    Step.exists_readSteps (.inr ⟨items, rfl⟩) fun item member place =>
      (validItems.valid item member).exists_read place
  refine ⟨_, by rw [read, held, readItems, ok_bind], ?_, fun _ list =>
    (list.validList valid).distinct⟩
  refine Step.Throughout.of_mem_visit fun step member => ?_
  obtain ⟨item, inItems, _, isRead⟩ := Step.exists_read_of_mem_steps readItems member
  exact (validItems.valid item inItems).throughout
    (Value.consistsOf_of_mem_items itemsJson inItems) isRead

/-- A condition with a retry in a branch and a loop for a verdict; one id stands in two lists. -/
def nestedBlocks : Value :=
  .object [("steps", .list [
    .object [("id", .text "a"), ("type", .text "condition"),
      ("config", .object [("falseStep", .object
        [("type", .text "loop"), ("loop", .object
          [("steps", .list [.object [("id", .text "a"), ("type", .text "delay")]])])])]),
      ("condition", .object
        [("expression", .text "x > 1"), ("if_true", .list [.object
          [("type", .text "retry"), ("retry", .object
            [("max_attempts", .int 2), ("steps", .null)])]])])]])]

theorem read_complete_of_nestedBlocks :
    nestedBlocks.isJson = true ∧ validate nestedBlocks = .ok [] ∧
      ∃ blueprint, read nestedBlocks = .ok blueprint ∧
        (∀ step ∈ blueprint.allSteps, step.IsComplete) ∧
        ∀ items, HoldsList nestedBlocks.fields items → (items.filterMap declaredId?).Nodup := by
  have json : nestedBlocks.isJson = true := by decide
  have safe (place : String) : expressionFlaws place (.text "x > 1") = [] := by rfl
  have notBlank : Text.trim ['a'] ≠ [] := by decide
  have valid : validate nestedBlocks = .ok [] := by
    rw [validate_eq_ok_nil_iff]
    simp [nestedBlocks, flaws, listFlaws, itemFlaws, stepFlaws, headFlaws, nameStep, notBlank,
      stepType, StepType.ofName?, StepType.all, StepType.name, switchFlaws, configFlaws, typeFlaws,
      conditionExpression, safe, isAttempts, duplicateFlaws, blockFlaws_eq, blockValue,
      verdictFlaws, Fields.valueOf, Entries.get?, Value.fields, Value.isNull, Value.isObject]
  exact ⟨json, valid, read_complete_of_valid json valid⟩

end Blueprint

end Automation
