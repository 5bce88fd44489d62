import Automation.Blueprint.Analysis
import Automation.Proofs.Blueprint.Storage
import Automation.Proofs.Value.Printing

/-!
The statistics of a blueprint in each of its forms.

The analysis walks stored values, and a step is written with other fields than it was read from: a
field of the wrong shape is gone, a list that was null is empty, a default stands where there was
nothing. None of it is counted. What the walk looks at is the type, the objects that may name a
platform or an agent, the lists in the blocks and the configuration, and these come back. So a
written step counts as the value that it was read from, by induction over the tree.
-/

namespace Automation

theorem Value.fields_eq (value : Value) : value.fields = value.fields?.getD [] := by
  cases value <;> rfl

namespace Tally

/-- Whether every id that a walk has met is printed. -/
def IsPrinted (tally : Tally) : Prop := ∀ id ∈ tally.agents, id.isPrintable = true

theorem IsPrinted.empty : IsPrinted .empty := nofun

theorem IsPrinted.append {first second : Tally} (printed : first.IsPrinted)
    (others : second.IsPrinted) : (first ++ second).IsPrinted :=
  List.forall_mem_append.mpr ⟨printed, others⟩

end Tally

namespace Step

open Validation

variable {keys : List String} {path : String} {fields : Fields} {step : Step}

/-- Whether a step counts, as it is written, as much as every value that it can be read from. -/
def TalliesAlike (keys : List String) (step : Step) : Prop :=
  ∀ path value, read path value = .ok step → tallyStep keys step.write = tallyStep keys value

theorem tallyItems_nil (keys : List String) : tallyItems keys [] = .empty := by rw [tallyItems]

theorem tallyBlock_eq (keys : List String) (fields : Fields) (blockName listName : String) :
    tallyBlock keys fields blockName listName =
      tallyItems keys (blockValue fields blockName listName).items := by
  rw [tallyBlock]
  split
  · rename_i block held
    rw [blockValue_of_object held]
    split
    · rename_i items listed
      rw [listed, Value.items]
    · rename_i noList
      cases other : Fields.valueOf listName block with
      | list items => exact absurd other (noList items)
      | _ => exact (tallyItems_nil keys).symm
  · rename_i noBlock
    rw [blockValue_of_not_object noBlock]
    exact (tallyItems_nil keys).symm

theorem tallyVerdict_congr {written : Fields} (name : String)
    (same : (Fields.valueOf "config" written).fields = (Fields.valueOf "config" fields).fields) :
    tallyVerdict keys written name = tallyVerdict keys fields name := by
  rw [tallyVerdict, tallyVerdict]
  split <;> split <;> simp_all

theorem tallyItems_map_write {steps : List Step} (alike : ∀ step ∈ steps, TalliesAlike keys step)
    {position : Nat} {items : List Value} (success : readItems path position items = .ok steps) :
    tallyItems keys (steps.map write) = tallyItems keys items := by
  induction items generalizing position steps with
  | nil =>
      rw [readItems] at success
      cases success
      rfl
  | cons item rest inductionHypothesis =>
      rw [readItems] at success
      simp only [bind_eq_ok_iff, Except.ok.injEq] at success
      obtain ⟨step, readStep, others, readOthers, rfl⟩ := success
      have first := alike step List.mem_cons_self _ item readStep
      have remaining := inductionHypothesis
        (fun other member => alike other (List.mem_cons_of_mem step member)) readOthers
      rw [List.map_cons, tallyItems, tallyItems, first, remaining]

/-- Null stands for no steps, and so does an empty list. -/
theorem tallyItems_of_readSteps {steps : List Step}
    (alike : ∀ step ∈ steps, TalliesAlike keys step) {value : Value}
    (success : readSteps path value = .ok steps) :
    tallyItems keys (steps.map write) = tallyItems keys value.items := by
  unfold readSteps at success
  split at success
  · cases success
    rfl
  · exact tallyItems_map_write alike success
  · cases success

/-- No step is read exactly where there is none. -/
theorem eq_nil_iff_of_readSteps {steps : List Step} {value : Value}
    (success : readSteps path value = .ok steps) : steps = [] ↔ value.items = [] := by
  unfold readSteps at success
  split at success
  · cases success
    simp [Value.items]
  · rename_i items
    cases items with
    | nil =>
        rw [readItems] at success
        cases success
        simp [Value.items]
    | cons item rest =>
        rw [readItems] at success
        simp only [bind_eq_ok_iff, Except.ok.injEq] at success
        obtain ⟨step, _, others, _, rfl⟩ := success
        simp [Value.items]
  · cases success

theorem tallyBlock_written (success : readFields path fields = .ok step)
    (inside : ∀ child ∈ step.children, TalliesAlike keys child) {names : String × String}
    (known : names ∈ blockLists) :
    tallyBlock keys step.written names.1 names.2 = tallyBlock keys fields names.1 names.2 := by
  rw [← map_fst_zip_lists step] at known
  obtain ⟨entry, held, rfl⟩ := List.mem_map.mp known
  obtain ⟨place, readInside⟩ := readFields_lists success entry held
  have inLists : entry.2 ∈ step.lists := (List.of_mem_zip held).2
  have alike : ∀ child ∈ entry.2, TalliesAlike keys child := fun child member =>
    inside child (mem_children_iff.mpr (.inl (List.mem_flatten_of_mem inLists member)))
  rw [tallyBlock_eq, tallyBlock_eq, items_blockValue_written step entry held,
    tallyItems_of_readSteps alike readInside]

theorem valueOf_type_written (success : readFields path fields = .ok step) :
    Fields.valueOf "type" step.written = Fields.valueOf "type" fields := by
  rw [(readFields_eq_ok_iff.mp success).1]
  simp [written, slots, StepHeader.slots, Fields.valueOf]

/-- The agent that a step calls is named in the agent call that is read from it. -/
theorem valueOf_agentId_eq (value : Value) : Fields.valueOf "agent_id" value.fields =
    ((readAgentCall value).map AgentCall.agentId).getD .null := by
  cases value <;> rfl

theorem tallyHead_written (success : readFields path fields = .ok step) :
    tallyHead keys step.written = tallyHead keys fields := by
  obtain ⟨_, _, isHeader, _⟩ := readFields_eq_ok_iff.mp success
  have action : (Fields.valueOf "action" step.written).fields? =
      (Fields.valueOf "action" fields).fields? := by
    have filled : Entries.get? "action" (Fields.ofSlots step.slots) =
        step.header.action.map .object := by simp [slots, StepHeader.slots]
    rw [written, fields?_ofSlots step filled, isHeader, readHeader]
  have trigger : (Fields.valueOf "trigger" step.written).fields? =
      (Fields.valueOf "trigger" fields).fields? := by
    have filled : Entries.get? "trigger" (Fields.ofSlots step.slots) =
        step.header.trigger.map .object := by simp [slots, StepHeader.slots]
    rw [written, fields?_ofSlots step filled, isHeader, readHeader]
  have call : readAgentCall (Fields.valueOf "ai_agent_call" step.written) =
      readAgentCall (Fields.valueOf "ai_agent_call" fields) := by
    rw [written, readAgentCall_ofSlots, isHeader, readHeader]
  simp only [tallyHead, agentId?, valueOf_agentId_eq, call, valueOf_type_written success]
  simp only [probePlatform?, Value.fields_eq, action, trigger]

/-- A step counts as the value that it was read from if the steps directly inside it do. -/
theorem TalliesAlike.ofChildren (step : Step)
    (inside : ∀ child ∈ step.children, TalliesAlike keys child) : TalliesAlike keys step := by
  intro path value success
  obtain ⟨fields, rfl, isRead⟩ := exists_fields_of_read success
  have block (blockName listName : String) (known : (blockName, listName) ∈ blockLists) :
      tallyBlock keys step.written blockName listName =
        tallyBlock keys fields blockName listName :=
    tallyBlock_written isRead inside known
  have verdict (name : String) : tallyVerdict keys step.written name =
      tallyVerdict keys fields name := tallyVerdict_congr name (config_written isRead)
  rw [write_eq]
  change tallyStep keys (.object step.written) = _
  simp only [tallyStep, valueOf_type_written isRead, tallyHead_written isRead, verdict,
    block "condition" "if_true" (by simp [blockLists]),
    block "condition" "if_false" (by simp [blockLists]),
    block "loop" "steps" (by simp [blockLists]),
    block "retry" "steps" (by simp [blockLists]),
    block "retry" "on_retry_fail_steps" (by simp [blockLists]),
    block "fallback" "primary_steps" (by simp [blockLists]),
    block "fallback" "fallback_steps" (by simp [blockLists])]

theorem talliesAlike (keys : List String) (step : Step) : TalliesAlike keys step :=
  inductionOnChildren TalliesAlike.ofChildren step

end Step

section

open Value Validation

variable {keys : List String} {fields : Fields}

theorem isPrintable_of_mem_stepsInside (printable : arePrintableFields fields = true) {step : Value}
    (inside : step ∈ stepsInside fields) : step.isPrintable = true := by
  simp only [stepsInside, listsInside, verdictSteps, List.mem_append, List.mem_flatten,
    List.mem_map, List.mem_filterMap] at inside
  rcases inside with ⟨_, ⟨names, _, rfl⟩, listed⟩ | ⟨verdict, _, found⟩
  · have inBlock := arePrintableFields_fields (isPrintable_valueOf printable names.1)
    have inList := isPrintable_valueOf inBlock names.2
    rw [← blockValue] at inList
    cases held : blockValue fields names.1 names.2 with
    | list items =>
        rw [held] at listed inList
        exact arePrintable_iff.mp inList step listed
    | _ => simp [held, Value.items] at listed
  · have inConfig := arePrintableFields_fields (isPrintable_valueOf printable "config")
    have printedStep := isPrintable_valueOf inConfig verdict
    rwa [Fields.valueOf, found] at printedStep

theorem isPrinted_tallyHead (keys : List String) (printable : arePrintableFields fields = true) :
    (tallyHead keys fields).IsPrinted := by
  have inCall := arePrintableFields_fields (isPrintable_valueOf printable "ai_agent_call")
  have printedId := isPrintable_valueOf inCall "agent_id"
  intro id member
  simp only [tallyHead, agentId?, Option.mem_toList] at member
  split at member
  · next name _ =>
      obtain ⟨_, same⟩ := Option.ite_none_left_eq_some.mp member
      cases same
      rfl
  · next number held =>
      cases member
      rwa [held] at printedId
  · cases member

theorem isPrinted_tallyItems {items : List Value}
    (each : ∀ item ∈ items, (tallyStep keys item).IsPrinted) :
    (tallyItems keys items).IsPrinted := by
  induction items with
  | nil =>
      rw [tallyItems]
      exact .empty
  | cons item rest inductionHypothesis =>
      rw [List.forall_mem_cons] at each
      rw [tallyItems]
      exact .append each.1 (inductionHypothesis each.2)

/-- The walk over a value meets no integer that the value does not hold. -/
theorem isPrinted_tallyStep : (value : Value) → value.isPrintable = true →
    (tallyStep keys value).IsPrinted
  | .object fields, printable => by
      have inside : ∀ inner ∈ stepsInside fields, (tallyStep keys inner).IsPrinted :=
        fun inner inside =>
          isPrinted_tallyStep inner (isPrintable_of_mem_stepsInside printable inside)
      have block {blockName listName : String} (known : (blockName, listName) ∈ blockLists) :
          (tallyBlock keys fields blockName listName).IsPrinted := by
        rw [Step.tallyBlock_eq]
        exact isPrinted_tallyItems fun item listed =>
          inside item (mem_stepsInside_of_listed known listed)
      have verdict {name : String} (known : name ∈ verdictNames) :
          (tallyVerdict keys fields name).IsPrinted := by
        rw [tallyVerdict]
        split
        · next inner found => exact inside inner (mem_stepsInside_of_verdict known found)
        · exact .empty
      rw [tallyStep]
      refine .append (.append (.append (.append (.append (.append
        (isPrinted_tallyHead keys printable) ?_) ?_) (block ?_)) (block ?_)) (block ?_))
        (block ?_)
      · split
        · exact .append (.append (.append (block (by simp [blockLists]))
            (block (by simp [blockLists]))) (verdict (by simp [verdictNames])))
            (verdict (by simp [verdictNames]))
        · exact .empty
      · split
        · exact block (by simp [blockLists])
        · exact .empty
      all_goals simp [blockLists]
  | .null, _ | .bool _, _ | .int _, _ | .float _, _ | .text _, _ | .list _, _ | .mapping _, _
  | .foreign _ _, _ => by
      rw [tallyStep]
      · exact .empty
      · nofun
  termination_by value => sizeOf value
  decreasing_by exact sizeOf_lt_of_mem_stepsInside ‹_›

end

namespace Statistics

variable {keys : List String} {data : Value} {blueprint : Blueprint}

theorem ofValue?_object (keys : List String) (fields : Fields) :
    ofValue? keys (.object fields) =
      if (Fields.valueOf "steps" fields).items = [] then .ok none
      else some <$> ofTally (tallyItems keys (Fields.valueOf "steps" fields).items) := by
  rw [ofValue?, Value.fields]
  cases Fields.valueOf "steps" fields with
  | list items => cases items <;> simp [Value.items]
  | _ => simp [Value.items]

theorem items_steps_writeFields (blueprint : Blueprint) :
    (Fields.valueOf "steps" blueprint.writeFields).items = blueprint.steps.map Step.write := by
  simp [Blueprint.writeFields, Fields.valueOf, Entries.get?, Value.items, Step.writeAll_eq_map]

/-- The steps of a blueprint that was read count, as they are written, as the values that they were
read from. -/
theorem ofValue?_write (success : Blueprint.read data = .ok blueprint) :
    ofValue? keys blueprint.write = ofValue? keys data := by
  cases data with
  | object fields =>
      simp only [Blueprint.read, bind_eq_ok_iff, Except.ok.injEq] at success
      obtain ⟨steps, readSteps, rfl⟩ := success
      have same := Step.tallyItems_of_readSteps
        (fun step _ => Step.talliesAlike keys step) readSteps
      rw [Blueprint.write, ofValue?_object, ofValue?_object, items_steps_writeFields, same]
      simp only [List.map_eq_nil_iff, Step.eq_nil_iff_of_readSteps readSteps]
  | _ => cases success

theorem source_of_read (success : Blueprint.read data = .ok blueprint) :
    data = .object blueprint.source := by
  cases data with
  | object fields =>
      simp only [Blueprint.read, bind_eq_ok_iff, Except.ok.injEq] at success
      obtain ⟨steps, _, rfl⟩ := success
      rfl
  | _ => cases success

/-- A blueprint that was read has the statistics of the value that it was read from, and it keeps
them without its source, where the analysis sees only what it is written as. -/
theorem statistics_of_read (success : Blueprint.read data = .ok blueprint) :
    ofBlueprint? keys blueprint = ofValue? keys data ∧
      ofBlueprint? keys { blueprint with source := [] } = ofValue? keys data := by
  have withoutSource : ofBlueprint? keys { blueprint with source := [] } =
      ofValue? keys blueprint.write := rfl
  refine ⟨?_, withoutSource.trans (ofValue?_write success)⟩
  rw [ofBlueprint?, Blueprint.stored]
  split
  · exact ofValue?_write success
  · rw [source_of_read success]

/-- A value without integers that are not printed is analysed. -/
theorem exists_ofValue?_eq_ok (keys : List String) (printable : data.isPrintable = true) :
    ∃ found, ofValue? keys data = .ok found := by
  have fields := Value.arePrintableFields_fields printable
  have listed := Value.isPrintable_valueOf fields "steps"
  unfold ofValue?
  split
  · exact ⟨_, rfl⟩
  · next steps _ held =>
      rw [held] at listed
      have printed : (tallyItems keys steps).IsPrinted := isPrinted_tallyItems fun item member =>
        isPrinted_tallyStep item (Value.arePrintable_iff.mp listed item member)
      rw [ofTally, Value.mapM_print_eq_ok printed]
      exact ⟨_, rfl⟩
  · exact ⟨_, rfl⟩

/-- Steps of every block, with a null list, a step that is there for a verdict, and fields that are
not written again. -/
def everyBlock : Value :=
  .object [("steps", .list
    [.object [("type", .text "condition"), ("id", .null), ("action", .text "slack"),
        ("condition", .object [("if_true", .null), ("if_false", .list
          [.object [("type", .text "loop"), ("loop", .object [("steps", .list
            [.object [("type", .text "delay"), ("trigger", .object
              [("integration", .int 1), ("platform", .text "mail")])]])])]])]),
        ("config", .object [("trueStep", .object [("type", .text "ai_agent_call"),
          ("ai_agent_call", .object [("agent_id", .int 7)])]), ("falseStep", .list [])])],
      .object [("type", .text "retry"), ("name", .text ""), ("action", .object
          [("service", .text "slack")]), ("retry", .object [("on_retry_fail_steps", .list
          [.object [("type", .text "condition")]])]),
        ("fallback", .object [("primary_steps", .list [.object [("type", .text "delay")]])])]])]

theorem ofValue?_everyBlock :
    ofValue? defaultPlatformKeys everyBlock =
      .ok (some ⟨7, ["mail", "slack"], ["7"], 2, 1, 11⟩) := by
  have platforms : distinctNames ["mail", "slack"] = ["mail", "slack"] := by decide +kernel
  have printed : (Value.int 7).print = .ok (Value.int 7).display := Value.print_eq_ok (by decide)
  have agents : distinctNames [(Value.int 7).display] = ["7"] := by decide +kernel
  have append (first second : Tally) : first ++ second = first.append second := rfl
  simp [everyBlock, ofValue?_object, tallyItems, tallyStep, Step.tallyBlock_eq, tallyVerdict,
    tallyHead, probePlatform?, agentId?, Validation.blockValue, defaultPlatformKeys,
    Fields.valueOf, Entries.get?, Value.items, Value.fields, Value.isText, ofTally, append,
    Tally.append, Tally.empty, platforms, printed, agents]

theorem statistics_of_everyBlock : ∃ blueprint, Blueprint.read everyBlock = .ok blueprint ∧
    ofValue? defaultPlatformKeys everyBlock = .ok (some ⟨7, ["mail", "slack"], ["7"], 2, 1, 11⟩) ∧
    ofBlueprint? defaultPlatformKeys blueprint = ofValue? defaultPlatformKeys everyBlock ∧
    ofBlueprint? defaultPlatformKeys { blueprint with source := [] } =
      ofValue? defaultPlatformKeys everyBlock := by
  have isRead : (Blueprint.read everyBlock).isOk = true := by
    simp [everyBlock, Blueprint.read, Step.readSteps, Step.readItems, Step.read, Step.readFields,
      Step.readCondition_eq, Step.readLoop_eq, Step.readRetry_eq, Step.readFallback_eq,
      Step.readVerdictStep, Fields.valueOf, Entries.get?, Value.fields, Except.isOk, Except.toBool]
  obtain ⟨blueprint, success⟩ : ∃ blueprint, Blueprint.read everyBlock = .ok blueprint := by
    cases found : Blueprint.read everyBlock with
    | ok blueprint => exact ⟨blueprint, rfl⟩
    | error malformed => simp [found, Except.isOk, Except.toBool] at isRead
  exact ⟨blueprint, success, ofValue?_everyBlock, statistics_of_read success⟩

end Statistics

end Automation
