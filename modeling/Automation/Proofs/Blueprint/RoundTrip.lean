import Automation.Blueprint.Reader
import Automation.Blueprint.Writer
import Automation.Proofs.Blueprint.Tree
import Automation.Proofs.Fallible
import Automation.Proofs.Value.Data

/-!
Writing and reading blueprints.

A blueprint that was read is read again from what it is written as, and it is the same blueprint.
A step is written as slots, each of them filled or left out, so that a lookup in a written step is
a lookup in its slots. The header comes back because every default that the reader fills in is
either written or filled in again. The steps in blocks come back by induction over the tree, and
the steps for the two verdicts with the configuration that holds them.
-/

namespace Automation

namespace Fields

/-- The fields that slots are: a slot without a value is left out. -/
def ofSlots : List (String × Option Value) → Fields
  | [] => []
  | (name, some value) :: rest => (name, value) :: ofSlots rest
  | (_, none) :: rest => ofSlots rest

@[simp]
theorem get?_ofSlots_nil (name : String) : Entries.get? name (ofSlots []) = none := rfl

@[simp]
theorem get?_ofSlots_cons (name key : String) (value : Option Value)
    (rest : List (String × Option Value)) :
    Entries.get? name (ofSlots ((key, value) :: rest)) =
      if key = name then value.or (Entries.get? name (ofSlots rest))
      else Entries.get? name (ofSlots rest) := by
  cases value <;> by_cases same : key = name <;> simp [ofSlots, Entries.get?, same]

theorem ofSlots_append (first second : List (String × Option Value)) :
    ofSlots (first ++ second) = ofSlots first ++ ofSlots second := by
  induction first with
  | nil => rfl
  | cons slot rest inductionHypothesis =>
      obtain ⟨name, value⟩ := slot
      cases value <;> simp [ofSlots, inductionHypothesis]

end Fields

/-- An agent call as a value. -/
def AgentCall.write (call : AgentCall) : Value :=
  .object [("agent_id", call.agentId), ("input_prompt", call.inputPrompt),
    ("output_variable", call.outputVariable)]

namespace StepHeader

/-- The slots of a step's header. -/
def slots (header : StepHeader) : List (String × Option Value) :=
  [("id", some (.text header.id)), ("type", some (.text header.type)),
    ("name", Option.guard Value.truthy (.text header.name)),
    ("config", Option.guard Value.truthy (.object header.config)),
    ("stopOnError", if header.stopOnError then none else some (.bool false)),
    ("output_variable", Option.guard Value.truthy header.outputVariable),
    ("action", header.action.map .object), ("trigger", header.trigger.map .object),
    ("delay", header.delay.map .object),
    ("ai_agent_call", header.agentCall.map AgentCall.write)]

theorem fieldIfTruthy_eq (name : String) (value : Value) :
    fieldIfTruthy name value = Fields.ofSlots [(name, Option.guard Value.truthy value)] := by
  by_cases isTrue : value.truthy <;> simp [fieldIfTruthy, Fields.ofSlots, Option.guard, isTrue]

theorem fieldIfPresent_eq (name : String) (fields : Option Fields) :
    fieldIfPresent name fields = Fields.ofSlots [(name, fields.map .object)] := by
  cases fields <;> rfl

theorem agentCallField_eq (call : Option AgentCall) :
    agentCallField call = Fields.ofSlots [("ai_agent_call", call.map AgentCall.write)] := by
  cases call <;> rfl

theorem write_eq (header : StepHeader) : header.write = Fields.ofSlots header.slots := by
  have named : [("id", Value.text header.id), ("type", .text header.type)] =
      Fields.ofSlots [("id", some (.text header.id)), ("type", some (.text header.type))] := rfl
  have stop : (if header.stopOnError then [] else [("stopOnError", Value.bool false)]) =
      Fields.ofSlots
        [("stopOnError", if header.stopOnError then none else some (.bool false))] := by
    split <;> rfl
  simp only [write, named, stop, fieldIfTruthy_eq, fieldIfPresent_eq, agentCallField_eq,
    ← Fields.ofSlots_append]
  rfl

end StepHeader

namespace Step

/-- A condition block as a value. -/
def writeCondition (block : ConditionBlock Step) : Value :=
  .object [("expression", block.expression), ("if_true", .list (writeAll block.ifTrue)),
    ("if_false", .list (writeAll block.ifFalse))]

/-- A loop block as a value. -/
def writeLoop (block : LoopBlock Step) : Value :=
  .object [("array_source", block.source), ("steps", .list (writeAll block.steps))]

/-- A retry block as a value. -/
def writeRetry (block : RetryBlock Step) : Value :=
  .object [("max_attempts", block.maxAttempts), ("backoff_seconds", block.backoffSeconds),
    ("steps", .list (writeAll block.steps)),
    ("on_retry_fail_steps", .list (writeAll block.recovery))]

/-- A fallback block as a value. -/
def writeFallback (block : FallbackBlock Step) : Value :=
  .object [("primary_steps", .list (writeAll block.primary)),
    ("fallback_steps", .list (writeAll block.alternative))]

/-- The slots of a step. -/
def slots (step : Step) : List (String × Option Value) :=
  step.header.slots ++ [("condition", step.condition.map writeCondition),
    ("loop", step.loop.map writeLoop), ("retry", step.retry.map writeRetry),
    ("fallback", step.fallback.map writeFallback)]

theorem write_eq (step : Step) : step.write = .object (Fields.ofSlots step.slots) := by
  obtain ⟨header, condition, loop, retry, fallback, trueStep, falseStep⟩ := step
  have written : Step.write (.mk header condition loop retry fallback trueStep falseStep) =
      .object (header.write ++ Fields.ofSlots [("condition", condition.map writeCondition)] ++
        Fields.ofSlots [("loop", loop.map writeLoop)] ++
        Fields.ofSlots [("retry", retry.map writeRetry)] ++
        Fields.ofSlots [("fallback", fallback.map writeFallback)]) := by
    cases condition <;> cases loop <;> cases retry <;> cases fallback <;> rfl
  rw [written, StepHeader.write_eq]
  simp only [← Fields.ofSlots_append]
  simp [slots, Step.header, Step.condition, Step.loop, Step.retry, Step.fallback]

theorem readFields_eq_ok_iff {path : String} {fields : Fields} {step : Step} :
    readFields path fields = .ok step ↔
      Fields.valueOf "type" fields = .text step.header.type ∧ step.header.type ≠ "" ∧
        step.header = readHeader path step.header.type fields ∧
        readCondition path fields = .ok step.condition ∧ readLoop path fields = .ok step.loop ∧
        readRetry path fields = .ok step.retry ∧ readFallback path fields = .ok step.fallback ∧
        readVerdictStep path fields "trueStep" = .ok step.trueStep ∧
        readVerdictStep path fields "falseStep" = .ok step.falseStep := by
  obtain ⟨header, condition, loop, retry, fallback, trueStep, falseStep⟩ := step
  simp only [Step.header, Step.condition, Step.loop, Step.retry, Step.fallback, Step.trueStep,
    Step.falseStep]
  rw [readFields]
  constructor
  · intro success
    split at success
    · rename_i type typed
      split at success
      · cases success
      · rename_i named
        simp only [bind_eq_ok_iff, Except.ok.injEq, mk.injEq] at success
        obtain ⟨_, readCondition, _, readLoop, _, readRetry, _, readFallback, _, readTrue, _,
          readFalse, rfl, rfl, rfl, rfl, rfl, rfl, rfl⟩ := success
        exact ⟨typed, named, rfl, readCondition, readLoop, readRetry, readFallback, readTrue,
          readFalse⟩
    · cases success
  · rintro ⟨typed, named, isHeader, readCondition, readLoop, readRetry, readFallback, readTrue,
      readFalse⟩
    simp [typed, named, readCondition, readLoop, readRetry, readFallback, readTrue, readFalse,
      ← isHeader]

/-- A step is read from an object. -/
theorem exists_fields_of_read {path : String} {value : Value} {step : Step}
    (success : read path value = .ok step) :
    ∃ fields, value = .object fields ∧ readFields path fields = .ok step := by
  cases value with
  | object fields =>
      rw [read] at success
      exact ⟨fields, rfl, success⟩
  | _ =>
      rw [read] at success
      · cases success
      · simp

/-- Whether a step that was read comes back from what it is written as. -/
def ReadsBack (step : Step) : Prop :=
  ∀ path value, value.isJson = true → read path value = .ok step → read path step.write = .ok step

theorem readItems_writeAll {path : String} {steps : List Step}
    (readsBack : ∀ step ∈ steps, ReadsBack step) {position : Nat} {items : List Value}
    (json : ∀ item ∈ items, item.isJson = true)
    (success : readItems path position items = .ok steps) :
    readItems path position (writeAll steps) = .ok steps := by
  induction items generalizing position steps with
  | nil =>
      rw [readItems] at success
      cases success
      rw [writeAll, readItems]
  | cons item rest inductionHypothesis =>
      rw [readItems] at success
      simp only [bind_eq_ok_iff, Except.ok.injEq] at success
      obtain ⟨step, readStep, others, readOthers, rfl⟩ := success
      have first := readsBack step List.mem_cons_self _ item (json item List.mem_cons_self) readStep
      have remaining := inductionHypothesis
        (fun other member => readsBack other (List.mem_cons_of_mem _ member))
        (fun other member => json other (List.mem_cons_of_mem _ member)) readOthers
      rw [writeAll, readItems, first, ok_bind, remaining, ok_bind]

theorem readSteps_writeAll {path : String} {steps : List Step}
    (readsBack : ∀ step ∈ steps, ReadsBack step) {value : Value} (json : value.isJson = true)
    (success : readSteps path value = .ok steps) :
    readSteps path (.list (writeAll steps)) = .ok steps := by
  unfold readSteps at success
  split at success
  · cases success
    rw [writeAll, readSteps, readItems]
  · rename_i items
    rw [readSteps]
    exact readItems_writeAll readsBack (Value.itemsConsistOf_iff.mp json) success
  · cases success

section

variable {path : String} {fields written : Fields}

theorem readCondition_eq (path : String) (fields : Fields) : readCondition path fields =
    match Fields.valueOf "condition" fields with
    | .object block => do
        let ifTrue ← readSteps (path ++ ".condition.if_true") (Fields.valueOf "if_true" block)
        let ifFalse ← readSteps (path ++ ".condition.if_false") (Fields.valueOf "if_false" block)
        .ok (some ⟨Fields.valueOf "expression" block, ifTrue, ifFalse⟩)
    | _ => .ok none := by
  rw [readCondition]
  split <;> simp_all only

theorem readLoop_eq (path : String) (fields : Fields) : readLoop path fields =
    match Fields.valueOf "loop" fields with
    | .object block => do
        let steps ← readSteps (path ++ ".loop.steps") (Fields.valueOf "steps" block)
        .ok (some ⟨Fields.valueOf "array_source" block, steps⟩)
    | _ => .ok none := by
  rw [readLoop]
  split <;> simp_all only

theorem readRetry_eq (path : String) (fields : Fields) : readRetry path fields =
    match Fields.valueOf "retry" fields with
    | .object block => do
        let steps ← readSteps (path ++ ".retry.steps") (Fields.valueOf "steps" block)
        let recovery ← readSteps (path ++ ".retry.on_retry_fail_steps")
          (Fields.valueOf "on_retry_fail_steps" block)
        let backoff := (Entries.get? "backoff_seconds" block).getD (.float (Binary64.zero false))
        .ok (some ⟨Fields.valueOf "max_attempts" block, backoff, steps, recovery⟩)
    | _ => .ok none := by
  rw [readRetry]
  split <;> simp_all only

theorem readFallback_eq (path : String) (fields : Fields) : readFallback path fields =
    match Fields.valueOf "fallback" fields with
    | .object block => do
        let primary ←
          readSteps (path ++ ".fallback.primary_steps") (Fields.valueOf "primary_steps" block)
        let alternative ←
          readSteps (path ++ ".fallback.fallback_steps") (Fields.valueOf "fallback_steps" block)
        .ok (some ⟨primary, alternative⟩)
    | _ => .ok none := by
  rw [readFallback]
  split <;> simp_all only

theorem readCondition_writeCondition {condition : Option (ConditionBlock Step)}
    (readsBack : ∀ child ∈ conditionSteps condition, ReadsBack child)
    (json : Value.fieldsConsistOf Value.isJsonScalar fields = true)
    (success : readCondition path fields = .ok condition)
    (again : Fields.valueOf "condition" written = (condition.map writeCondition).getD .null) :
    readCondition path written = .ok condition := by
  have blockJson := Value.consistsOf_valueOf rfl json "condition"
  rw [readCondition_eq] at success ⊢
  split at success
  · rename_i block isBlock
    rw [isBlock] at blockJson
    have insideJson := Value.consistsOf_valueOf rfl (Value.fieldsConsistOf_fields blockJson)
    simp only [bind_eq_ok_iff, Except.ok.injEq] at success
    obtain ⟨ifTrue, readTrue, ifFalse, readFalse, rfl⟩ := success
    have trueAgain := readSteps_writeAll
      (fun child member => readsBack child (List.mem_append_left _ member))
      (insideJson "if_true") readTrue
    have falseAgain := readSteps_writeAll
      (fun child member => readsBack child (List.mem_append_right _ member))
      (insideJson "if_false") readFalse
    rw [again]
    simp [writeCondition, Fields.valueOf, Entries.get?, trueAgain, falseAgain]
  · cases success
    simp [again]

theorem readLoop_writeLoop {loop : Option (LoopBlock Step)}
    (readsBack : ∀ child ∈ loopSteps loop, ReadsBack child)
    (json : Value.fieldsConsistOf Value.isJsonScalar fields = true)
    (success : readLoop path fields = .ok loop)
    (again : Fields.valueOf "loop" written = (loop.map writeLoop).getD .null) :
    readLoop path written = .ok loop := by
  have blockJson := Value.consistsOf_valueOf rfl json "loop"
  rw [readLoop_eq] at success ⊢
  split at success
  · rename_i block isBlock
    rw [isBlock] at blockJson
    have insideJson := Value.consistsOf_valueOf rfl (Value.fieldsConsistOf_fields blockJson)
    simp only [bind_eq_ok_iff, Except.ok.injEq] at success
    obtain ⟨steps, readInside, rfl⟩ := success
    have insideAgain : readSteps (path ++ ".loop.steps") (.list (writeAll steps)) = .ok steps :=
      readSteps_writeAll readsBack (insideJson "steps") readInside
    rw [again]
    simp [writeLoop, Fields.valueOf, Entries.get?, insideAgain]
  · cases success
    simp [again]

theorem readRetry_writeRetry {retry : Option (RetryBlock Step)}
    (readsBack : ∀ child ∈ retrySteps retry, ReadsBack child)
    (json : Value.fieldsConsistOf Value.isJsonScalar fields = true)
    (success : readRetry path fields = .ok retry)
    (again : Fields.valueOf "retry" written = (retry.map writeRetry).getD .null) :
    readRetry path written = .ok retry := by
  have blockJson := Value.consistsOf_valueOf rfl json "retry"
  rw [readRetry_eq] at success ⊢
  split at success
  · rename_i block isBlock
    rw [isBlock] at blockJson
    have insideJson := Value.consistsOf_valueOf rfl (Value.fieldsConsistOf_fields blockJson)
    simp only [bind_eq_ok_iff, Except.ok.injEq] at success
    obtain ⟨steps, readInside, recovery, readRecovery, rfl⟩ := success
    have insideAgain := readSteps_writeAll
      (fun child member => readsBack child (List.mem_append_left _ member))
      (insideJson "steps") readInside
    have recoveryAgain := readSteps_writeAll
      (fun child member => readsBack child (List.mem_append_right _ member))
      (insideJson "on_retry_fail_steps") readRecovery
    rw [again]
    simp [writeRetry, Fields.valueOf, Entries.get?, insideAgain, recoveryAgain]
  · cases success
    simp [again]

theorem readFallback_writeFallback {fallback : Option (FallbackBlock Step)}
    (readsBack : ∀ child ∈ fallbackSteps fallback, ReadsBack child)
    (json : Value.fieldsConsistOf Value.isJsonScalar fields = true)
    (success : readFallback path fields = .ok fallback)
    (again : Fields.valueOf "fallback" written = (fallback.map writeFallback).getD .null) :
    readFallback path written = .ok fallback := by
  have blockJson := Value.consistsOf_valueOf rfl json "fallback"
  rw [readFallback_eq] at success ⊢
  split at success
  · rename_i block isBlock
    rw [isBlock] at blockJson
    have insideJson := Value.consistsOf_valueOf rfl (Value.fieldsConsistOf_fields blockJson)
    simp only [bind_eq_ok_iff, Except.ok.injEq] at success
    obtain ⟨primary, readPrimary, alternative, readAlternative, rfl⟩ := success
    have primaryAgain := readSteps_writeAll
      (fun child member => readsBack child (List.mem_append_left _ member))
      (insideJson "primary_steps") readPrimary
    have alternativeAgain := readSteps_writeAll
      (fun child member => readsBack child (List.mem_append_right _ member))
      (insideJson "fallback_steps") readAlternative
    rw [again]
    simp [writeFallback, Fields.valueOf, Entries.get?, primaryAgain, alternativeAgain]
  · cases success
    simp [again]

theorem readVerdictStep_congr (name : String)
    (same : (Fields.valueOf "config" written).fields = (Fields.valueOf "config" fields).fields) :
    readVerdictStep path written name = readVerdictStep path fields name := by
  rw [readVerdictStep, readVerdictStep]
  split <;> split <;> simp_all

end

section

variable (step : Step)

theorem config_ofSlots :
    (Fields.valueOf "config" (Fields.ofSlots step.slots)).fields = step.header.config := by
  cases empty : step.header.config <;>
    simp [slots, StepHeader.slots, Fields.valueOf, Option.guard, Value.truthy, Value.fields, empty]

theorem name_ofSlots :
    ((Entries.get? "name" (Fields.ofSlots step.slots)).getD (.text "")).display =
      step.header.name := by
  by_cases empty : step.header.name = "" <;>
    simp [slots, StepHeader.slots, Option.guard, Value.truthy, Value.display, Value.displayed,
      empty]

theorem readStopOnError_ofSlots :
    readStopOnError (Fields.ofSlots step.slots) = step.header.stopOnError := by
  cases stops : step.header.stopOnError <;>
    simp [readStopOnError, slots, StepHeader.slots, Fields.valueOf, Value.isNull, Value.isText,
      Value.truthy, stops]

theorem readAgentCall_ofSlots :
    readAgentCall (Fields.valueOf "ai_agent_call" (Fields.ofSlots step.slots)) =
      step.header.agentCall := by
  cases called : step.header.agentCall <;>
    simp [readAgentCall, AgentCall.write, slots, StepHeader.slots, Fields.valueOf, Value.fields?,
      Entries.get?, called]

/-- An object comes back from the slot that is filled with it if it is present. -/
theorem fields?_ofSlots {name : String} {fields : Option Fields}
    (held : Entries.get? name (Fields.ofSlots step.slots) = fields.map .object) :
    (Fields.valueOf name (Fields.ofSlots step.slots)).fields? = fields := by
  rw [Fields.valueOf, held]
  cases fields <;> rfl

theorem id_ofSlots {path : String} (named : step.header.id = "" → path = "") :
    ((Fields.valueOf "id" (Fields.ofSlots step.slots)).orElse (.text path)).display =
      step.header.id := by
  by_cases empty : step.header.id = ""
  · simp [slots, StepHeader.slots, Fields.valueOf, Value.orElse, Value.truthy, Value.display,
      Value.displayed, empty, named empty]
  · simp [slots, StepHeader.slots, Fields.valueOf, Value.orElse, Value.truthy, Value.display,
      Value.displayed, empty]

theorem orElse_of_falsy {first second : Value} (isFalse : (first.orElse second).truthy = false) :
    first.truthy = false ∧ first.orElse second = second := by
  unfold Value.orElse at isFalse ⊢
  split at isFalse <;> simp_all

/-- A variable that counts as true is written, and any other one comes from where it came from. -/
theorem readOutputVariable_ofSlots {fields : Fields}
    (isRead : step.header.outputVariable =
      readOutputVariable fields step.header.config step.header.agentCall) :
    readOutputVariable (Fields.ofSlots step.slots) step.header.config step.header.agentCall =
      step.header.outputVariable := by
  have lookup : Fields.valueOf "output_variable" (Fields.ofSlots step.slots) =
      (Option.guard Value.truthy step.header.outputVariable).getD .null := by
    simp [slots, StepHeader.slots, Fields.valueOf]
  cases isTrue : step.header.outputVariable.truthy with
  | true =>
      simp only [readOutputVariable, lookup, Option.guard, isTrue, if_true, Option.getD_some,
        Value.orElse]
      cases step.header.agentCall <;> simp
  | false =>
      have lookup : Fields.valueOf "output_variable" (Fields.ofSlots step.slots) = .null := by
        simp [lookup, Option.guard, isTrue]
      have nullFirst : ∀ value : Value, Value.null.orElse value = value := fun _ => rfl
      simp only [readOutputVariable, lookup, nullFirst] at isRead ⊢
      cases called : step.header.agentCall with
      | none =>
          simp only [called] at isRead ⊢
          rw [isRead] at isTrue ⊢
          exact (orElse_of_falsy isTrue).2.symm
      | some call =>
          simp only [called] at isRead ⊢
          rw [isRead] at isTrue ⊢
          obtain ⟨noneDeclared, fromCall⟩ := orElse_of_falsy isTrue
          rw [(orElse_of_falsy noneDeclared).2]

end

/-- A path is empty where the id that it stands in for is. -/
theorem path_eq_of_id_eq {path type : String} {fields : Fields}
    (json : Value.fieldsConsistOf Value.isJsonScalar fields = true)
    (empty : (readHeader path type fields).id = "") : path = "" := by
  simp only [readHeader, Value.orElse] at empty
  split at empty
  · rename_i isTrue
    exact absurd empty (Value.display_ne_empty (Value.consistsOf_valueOf rfl json "id") isTrue)
  · simpa [Value.display, Value.displayed] using empty

theorem readHeader_ofSlots {step : Step} {path : String} {fields : Fields}
    (json : Value.fieldsConsistOf Value.isJsonScalar fields = true)
    (isHeader : step.header = readHeader path step.header.type fields) :
    readHeader path step.header.type (Fields.ofSlots step.slots) = step.header := by
  have named : step.header.id = "" → path = "" := by
    intro empty
    rw [isHeader] at empty
    exact path_eq_of_id_eq json empty
  have output : step.header.outputVariable =
      readOutputVariable fields step.header.config step.header.agentCall := by
    rw [isHeader]
    rfl
  have action : (Fields.valueOf "action" (Fields.ofSlots step.slots)).fields? =
      step.header.action := fields?_ofSlots step (by simp [slots, StepHeader.slots])
  have trigger : (Fields.valueOf "trigger" (Fields.ofSlots step.slots)).fields? =
      step.header.trigger := fields?_ofSlots step (by simp [slots, StepHeader.slots])
  have delay : (Fields.valueOf "delay" (Fields.ofSlots step.slots)).fields? =
      step.header.delay := fields?_ofSlots step (by simp [slots, StepHeader.slots])
  simp only [readHeader, config_ofSlots, readAgentCall_ofSlots, id_ofSlots step named, name_ofSlots,
    readStopOnError_ofSlots, readOutputVariable_ofSlots step output, action, trigger, delay]

/-- A step comes back from what it is written as if the steps directly inside it do. -/
theorem ReadsBack.ofChildren (step : Step) (inside : ∀ child ∈ step.children, ReadsBack child) :
    ReadsBack step := by
  intro path value json success
  obtain ⟨fields, rfl, isRead⟩ := exists_fields_of_read success
  replace json := Value.fieldsConsistOf_fields json
  obtain ⟨typed, named, isHeader, condition, loop, retry, fallback, trueStep, falseStep⟩ :=
    readFields_eq_ok_iff.mp isRead
  have sameConfig : (Fields.valueOf "config" (Fields.ofSlots step.slots)).fields =
      (Fields.valueOf "config" fields).fields := by
    rw [config_ofSlots, isHeader]
    rfl
  rw [write_eq, read, readFields_eq_ok_iff]
  refine ⟨?_, named, (readHeader_ofSlots json isHeader).symm, ?_, ?_, ?_, ?_, ?_, ?_⟩
  · simp [slots, StepHeader.slots, Fields.valueOf]
  · refine readCondition_writeCondition (fun child member => inside child ?_) json condition ?_
    · simp [children_eq, member]
    · simp [slots, StepHeader.slots, Fields.valueOf]
  · refine readLoop_writeLoop (fun child member => inside child ?_) json loop ?_
    · simp [children_eq, member]
    · simp [slots, StepHeader.slots, Fields.valueOf]
  · refine readRetry_writeRetry (fun child member => inside child ?_) json retry ?_
    · simp [children_eq, member]
    · simp [slots, StepHeader.slots, Fields.valueOf]
  · refine readFallback_writeFallback (fun child member => inside child ?_) json fallback ?_
    · simp [children_eq, member]
    · simp [slots, StepHeader.slots, Fields.valueOf]
  · rw [readVerdictStep_congr "trueStep" sameConfig, trueStep]
  · rw [readVerdictStep_congr "falseStep" sameConfig, falseStep]

theorem readsBack (step : Step) : ReadsBack step :=
  inductionOnChildren ReadsBack.ofChildren step

end Step

namespace Blueprint

theorem orElse_empty_orElse_empty (value : Value) :
    (value.orElse (.text "")).orElse (.text "") = value.orElse (.text "") := by
  cases isTrue : value.truthy <;> simp [Value.orElse, isTrue]

/-- A blueprint that was read is read again from what it is written as. It differs in its source
only, at every depth of its steps, and it is written in the same way. -/
theorem read_write_of_read {data : Value} {blueprint : Blueprint} (json : data.isJson = true)
    (success : read data = .ok blueprint) :
    ∃ again, read blueprint.write = .ok again ∧
      again = { blueprint with source := blueprint.writeFields } ∧
      again.write = blueprint.write := by
  refine ⟨{ blueprint with source := blueprint.writeFields }, ?_, rfl, rfl⟩
  cases data with
  | object fields =>
      replace json := Value.fieldsConsistOf_fields json
      simp only [read, bind_eq_ok_iff, Except.ok.injEq] at success
      obtain ⟨steps, readSteps, rfl⟩ := success
      have stepsAgain := Step.readSteps_writeAll (fun step _ => step.readsBack)
        (Value.consistsOf_valueOf rfl json "steps") readSteps
      simp only [read, write, writeFields, Value.display, Value.displayed, Fields.valueOf,
        Value.fields, Entries.get?, String.reduceEq, ↓reduceIte, Option.getD_some, stepsAgain,
        String.toList_ofList, ok_bind, Except.ok.injEq, mk.injEq, and_self, and_true, true_and]
      exact orElse_empty_orElse_empty _
  | _ => cases success

/-- A condition with a branch, a step for its verdict and settings in more than one spelling. -/
def nestedCondition : Value :=
  .object [("steps", .list [.object
    [("type", .text "condition"), ("stop_on_error", .bool false),
      ("config", .object
        [("output_variable", .text "seen"), ("trueStep", .object [("type", .text "delay")])]),
      ("condition", .object
        [("expression", .text "a"), ("if_true", .list [.object [("type", .text "delay")]])])]])]

/-- The blueprint of a condition with a branch and a step for its verdict. -/
def nestedConditionBlueprint : Blueprint :=
  let bareDelay (path : String) : Step :=
    .mk ⟨path, "delay", "", [], true, .null, none, none, none, none⟩ none none none none none none
  { steps := [.mk
      ⟨"steps[0]", "condition", "",
        [("output_variable", .text "seen"), ("trueStep", .object [("type", .text "delay")])],
        false, .text "seen", none, none, none, none⟩
      (some ⟨.text "a", [bareDelay "steps[0].condition.if_true[0]"], []⟩) none none none
      (some (bareDelay "steps[0].config.trueStep")) none]
    version := "1.0"
    description := .text ""
    trigger := []
    «variables» := []
    source := nestedCondition.fields }

theorem read_write_of_nestedCondition :
    nestedCondition.isJson = true ∧ read nestedCondition = .ok nestedConditionBlueprint ∧
      ∃ again, read nestedConditionBlueprint.write = .ok again ∧
        again = { nestedConditionBlueprint with source := nestedConditionBlueprint.writeFields } ∧
        again.write = nestedConditionBlueprint.write := by
  have json : nestedCondition.isJson = true := by decide
  have success : read nestedCondition = .ok nestedConditionBlueprint := by cbv
  exact ⟨json, success, read_write_of_read json success⟩

end Blueprint

end Automation
