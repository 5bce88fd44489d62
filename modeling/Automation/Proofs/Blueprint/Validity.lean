import Automation.Blueprint.Validation
import Automation.Proofs.Fallible

/-!
Valid steps.

`ValidStep` says what a step without flaws is, at every depth and without places and messages: its
own fields are in order, and so are the steps directly inside it. The walk over a stored blueprint
finds no flaw in exactly the valid ones, whatever place it starts from.
-/

namespace Automation

/-- The items of a list; any other value has none. -/
def Value.items : Value → List Value
  | .list items => items
  | _ => []

theorem Value.eq_null_of_isNull {value : Value} (isNull : value.isNull = true) : value = .null := by
  cases value <;> simp_all [Value.isNull]

theorem StepType.ofName?_eq_some_iff {name : String} {type : StepType} :
    StepType.ofName? name = some type ↔ name = type.name := by
  constructor
  · intro found
    have same := List.find?_some found
    exact (beq_iff_eq.mp same).symm
  · rintro rfl
    cases type <;> decide

theorem StepType.name_inj {first second : StepType} :
    first.name = second.name ↔ first = second := by
  rw [← StepType.ofName?_eq_some_iff, StepType.ofName?_eq_some_iff.mpr rfl, Option.some.injEq]

namespace Validation

/-- The lists of steps that blocks hold: the name of the block and the name of the list in it. -/
def blockLists : List (String × String) :=
  [("condition", "if_true"), ("condition", "if_false"), ("loop", "steps"), ("retry", "steps"),
    ("retry", "on_retry_fail_steps"), ("fallback", "primary_steps"),
    ("fallback", "fallback_steps")]

/-- What a block of a step holds under a name; null without such a block. -/
def blockValue (fields : Fields) (blockName listName : String) : Value :=
  Fields.valueOf listName (Fields.valueOf blockName fields).fields

/-- The lists of steps in the blocks of a step. -/
def listsInside (fields : Fields) : List (List Value) :=
  blockLists.map fun names => (blockValue fields names.1 names.2).items

/-- The names under which a configuration holds a step for a verdict. -/
def verdictNames : List String := ["trueStep", "falseStep"]

/-- The steps that the configuration of a step holds for the verdicts of a condition. -/
def verdictSteps (fields : Fields) : List Value :=
  verdictNames.filterMap fun name => Entries.get? name (Fields.valueOf "config" fields).fields

/-- The steps directly inside a step. -/
def stepsInside (fields : Fields) : List Value :=
  (listsInside fields).flatten ++ verdictSteps fields

/-- The id that a step gives itself. -/
def declaredId? (step : Value) : Option String :=
  match Fields.valueOf "id" step.fields with
  | .text id => some id
  | _ => none

/-- A switch that is missing or a truth value. -/
def IsSwitch (fields : Fields) (name : String) : Prop :=
  ∀ value, Entries.get? name fields = some value → ∃ truth, value = .bool truth

/-- What a type of step asks of the configuration and of the blocks of a step. -/
def Provides (fields config : Fields) : StepType → Prop
  | .apiCall | .webhook => (Fields.valueOf "url" config).truthy = true
  | .agentCall => True
  | .delay =>
      ∀ duration, Entries.get? "duration" config = some duration → isDuration duration = true
  | .condition =>
      ∃ checked, Condition.check Condition.forbiddenKeywords (conditionExpression fields config) =
        .ok checked
  | .loop => (Fields.valueOf "loop" fields).isObject = true
  | .retry =>
      ∃ retry, Fields.valueOf "retry" fields = .object retry ∧
        ∀ attempts, Entries.get? "max_attempts" retry = some attempts → isAttempts attempts = true
  | .fallback => (Fields.valueOf "fallback" fields).isObject = true

/-- The fields of a step are in order, apart from the steps and the lists inside it. -/
structure ValidHead (fields : Fields) (type : StepType) : Prop where
  typed : Entries.get? "type" fields = some (.text type.name)
  named : ∀ id, Entries.get? "id" fields = some id →
    ∃ text, id = .text text ∧ Text.trim text.toList ≠ []
  stopOnError : IsSwitch fields "stopOnError"
  stopOnErrorAlias : IsSwitch fields "stop_on_error"
  configured : ∀ value, Entries.get? "config" fields = some value → ∃ config, value = .object config
  provides : Provides fields (Fields.valueOf "config" fields).fields type

/-- The blocks of a step hold lists where they hold anything, and the ids that the steps of one list
give themselves are distinct. -/
structure ValidLists (fields : Fields) : Prop where
  areLists : ∀ names ∈ blockLists, blockValue fields names.1 names.2 = .null ∨
    ∃ items, blockValue fields names.1 names.2 = .list items
  distinct : ∀ items ∈ listsInside fields, (items.filterMap declaredId?).Nodup

/-- A step without flaws, at every depth. -/
inductive ValidStep : Value → Prop where
  | mk {fields : Fields} {type : StepType} (head : ValidHead fields type)
      (lists : ValidLists fields) (inside : ∀ step ∈ stepsInside fields, ValidStep step) :
      ValidStep (.object fields)

/-- A list of valid steps whose ids are distinct as far as the steps give them. -/
structure ValidList (items : List Value) : Prop where
  distinct : (items.filterMap declaredId?).Nodup
  valid : ∀ item ∈ items, ValidStep item

theorem sizeOf_blockValue_le (fields : Fields) (blockName listName : String) :
    sizeOf (blockValue fields blockName listName) ≤ sizeOf fields :=
  calc sizeOf (blockValue fields blockName listName)
    _ ≤ sizeOf (Fields.valueOf blockName fields).fields := Fields.sizeOf_valueOf_le _ _
    _ ≤ sizeOf (Fields.valueOf blockName fields) := Value.sizeOf_fields_le _
    _ ≤ sizeOf fields := Fields.sizeOf_valueOf_le _ _

theorem sizeOf_lt_of_mem_stepsInside {fields : Fields} {step : Value}
    (inside : step ∈ stepsInside fields) : sizeOf step < sizeOf (Value.object fields) := by
  simp only [stepsInside, listsInside, verdictSteps, List.mem_append, List.mem_flatten,
    List.mem_map, List.mem_filterMap] at inside
  simp only [Value.object.sizeOf_spec]
  rcases inside with ⟨_, ⟨names, _, rfl⟩, listed⟩ | ⟨name, _, found⟩
  · have bound := sizeOf_blockValue_le fields names.1 names.2
    cases held : blockValue fields names.1 names.2 with
    | list items =>
        rw [held] at listed bound
        have smaller := List.sizeOf_lt_of_mem listed
        simp only [Value.items, Value.list.sizeOf_spec] at smaller bound
        omega
    | _ => simp [held, Value.items] at listed
  · have smaller := Fields.sizeOf_lt_of_get? found
    have inner := Value.sizeOf_fields_le (Fields.valueOf "config" fields)
    have outer := Fields.sizeOf_valueOf_le "config" fields
    omega

section

variable {place : String} {fields config : Fields}

theorem expressionFlaws_eq_nil_iff {expression : Value} (present : expression.isNull = false) :
    expressionFlaws place expression = [] ↔
      ∃ checked, Condition.check Condition.forbiddenKeywords expression = .ok checked := by
  simp only [expressionFlaws, present, Bool.false_eq_true, if_false]
  cases Condition.check Condition.forbiddenKeywords expression <;> simp

theorem typeFlaws_eq_nil_iff {type : StepType} :
    typeFlaws place fields config type = [] ↔ Provides fields config type := by
  cases type with
  | apiCall | webhook | loop | fallback => simp [typeFlaws, Provides]
  | agentCall => simp [typeFlaws, Provides]
  | delay =>
      cases found : Entries.get? "duration" config <;> simp [typeFlaws, Provides, found]
  | condition =>
      cases isNull : (conditionExpression fields config).isNull with
      | true =>
          have missing := Value.eq_null_of_isNull isNull
          simp [typeFlaws, Provides, missing, Value.isNull, Condition.check]
      | false => simp [typeFlaws, Provides, isNull, expressionFlaws_eq_nil_iff isNull]
  | retry =>
      cases held : Fields.valueOf "retry" fields with
      | object retry =>
          cases found : Entries.get? "max_attempts" retry <;>
            simp [typeFlaws, Provides, held, found]
      | _ => simp [typeFlaws, Provides, held]

theorem switchFlaws_eq_nil_iff {name : String} :
    switchFlaws place fields name = [] ↔ IsSwitch fields name := by
  unfold switchFlaws IsSwitch
  cases Entries.get? name fields with
  | none => simp
  | some value => cases value <;> simp

theorem nameStep_eq_nil_iff :
    (nameStep place fields).1 = [] ↔
      ∀ id, Entries.get? "id" fields = some id →
        ∃ text, id = .text text ∧ Text.trim text.toList ≠ [] := by
  unfold nameStep
  cases Entries.get? "id" fields with
  | none => simp
  | some id =>
      cases id with
      | text id => by_cases blank : Text.trim id.toList = [] <;> simp [blank]
      | _ => simp

theorem configFlaws_eq_nil_iff {type : StepType} :
    configFlaws place fields (some type) = [] ↔
      (∀ value, Entries.get? "config" fields = some value → ∃ config, value = .object config) ∧
        Provides fields (Fields.valueOf "config" fields).fields type := by
  unfold configFlaws
  cases found : Entries.get? "config" fields with
  | none => simp [Fields.valueOf, found, Value.fields, typeFlaws_eq_nil_iff]
  | some value =>
      cases value with
      | object config => simp [Fields.valueOf, found, Value.fields, typeFlaws_eq_nil_iff]
      | _ => simp

theorem stepType_eq_ok_nil_iff {written : Value} {type : Option StepType} :
    stepType place written = .ok ([], type) ↔
      ∃ known : StepType, type = some known ∧ written = .text known.name := by
  cases written with
  | text name =>
      cases found : StepType.ofName? name with
      | none =>
          have unknown : ∀ known : StepType, name ≠ known.name := fun known same => by
            simp [StepType.ofName?_eq_some_iff.mpr same] at found
          simp [stepType, found, unknown]
      | some known =>
          rw [StepType.ofName?_eq_some_iff] at found
          simp [stepType, found, StepType.ofName?_eq_some_iff.mpr rfl, StepType.name_inj, eq_comm]
  | _ => simp [stepType]

/-- The own fields of a step have no flaw exactly where they are in order; then the steps inside it
are looked at. -/
theorem headFlaws_eq_ok_nil_iff {name : String} {complete : Bool} :
    headFlaws place fields = .ok ([], name, complete) ↔
      (∃ type, ValidHead fields type) ∧ name = (nameStep place fields).2 ∧ complete = true := by
  unfold headFlaws
  constructor
  · intro success
    cases typed : Entries.get? "type" fields with
    | none => simp [typed] at success
    | some written =>
        simp only [typed, bind_eq_ok_iff, Except.ok.injEq, Prod.mk.injEq, List.append_eq_nil_iff]
          at success
        obtain ⟨⟨nameFlaws, type⟩, isType, ⟨⟨⟨⟨named, rfl⟩, stops⟩, stopsAlias⟩, configured⟩,
          rfl, rfl⟩ := success
        obtain ⟨known, rfl, rfl⟩ := stepType_eq_ok_nil_iff.mp isType
        obtain ⟨isObject, provides⟩ := configFlaws_eq_nil_iff.mp configured
        exact ⟨⟨known, typed, nameStep_eq_nil_iff.mp named, switchFlaws_eq_nil_iff.mp stops,
          switchFlaws_eq_nil_iff.mp stopsAlias, isObject, provides⟩, rfl, rfl⟩
  · rintro ⟨⟨type, head⟩, rfl, rfl⟩
    have isType : stepType (nameStep place fields).2 (.text type.name) = .ok ([], some type) :=
      stepType_eq_ok_nil_iff.mpr ⟨type, rfl, rfl⟩
    simp [head.typed, isType, nameStep_eq_nil_iff.mpr head.named,
      switchFlaws_eq_nil_iff.mpr head.stopOnError, switchFlaws_eq_nil_iff.mpr head.stopOnErrorAlias,
      configFlaws_eq_nil_iff.mpr ⟨head.configured, head.provides⟩]

theorem blockFlaws_eq (blockName listName : String) :
    blockFlaws place fields blockName listName =
      match blockValue fields blockName listName with
      | .null => .ok []
      | steps => listFlaws s!"{place}.{blockName}.{listName}" steps := by
  rw [blockFlaws]
  split
  · rename_i block isBlock
    simp only [blockValue, isBlock, Value.fields]
    split <;> simp_all only
  · rename_i noBlock
    have noFields : (Fields.valueOf blockName fields).fields = [] := by
      cases held : Fields.valueOf blockName fields with
      | object block => exact absurd held (noBlock block)
      | _ => rfl
    have missing : blockValue fields blockName listName = .null := by
      rw [blockValue, noFields]
      rfl
    simp only [missing]

/-- The flaws of a step are those of its own fields, then those of the steps inside it. -/
theorem stepFlaws_eq_ok_nil_iff :
    stepFlaws place (.object fields) = .ok [] ↔
      ∃ name, headFlaws place fields = .ok ([], name, true) ∧
        (∀ names ∈ blockLists, blockFlaws name fields names.1 names.2 = .ok []) ∧
        ∀ verdict ∈ verdictNames, verdictFlaws name fields verdict = .ok [] := by
  rw [stepFlaws]
  simp only [bind_eq_ok_iff]
  constructor
  · rintro ⟨⟨own, name, complete⟩, head, success⟩
    cases complete with
    | true =>
        simp only [if_true, bind_eq_ok_iff, Except.ok.injEq, List.append_eq_nil_iff] at success
        obtain ⟨_, ifTrue, _, ifFalse, _, loop, _, retry, _, recovery, _, primary, _, alternative,
          _, trueStep, _, falseStep,
          ⟨⟨⟨⟨⟨⟨⟨⟨rfl, rfl⟩, rfl⟩, rfl⟩, rfl⟩, rfl⟩, rfl⟩, rfl⟩, rfl⟩, rfl⟩ := success
        refine ⟨name, head, ?_, ?_⟩
        · simp [blockLists, ifTrue, ifFalse, loop, retry, recovery, primary, alternative]
        · simp [verdictNames, trueStep, falseStep]
    | false =>
        simp only [Bool.false_eq_true, if_false, Except.ok.injEq] at success
        rw [success, headFlaws_eq_ok_nil_iff] at head
        simp at head
  · rintro ⟨name, head, blocks, verdicts⟩
    refine ⟨([], name, true), head, ?_⟩
    simp only [blockLists, List.forall_mem_cons] at blocks
    simp only [verdictNames, List.forall_mem_cons] at verdicts
    obtain ⟨ifTrue, ifFalse, loop, retry, recovery, primary, alternative, _⟩ := blocks
    obtain ⟨trueStep, falseStep, _⟩ := verdicts
    simp [ifTrue, ifFalse, loop, retry, recovery, primary, alternative, trueStep, falseStep]

theorem duplicateFlaws_eq {seen : List String} {step : Value}
    (named : declaredId? step ≠ some "") :
    duplicateFlaws seen step =
      match declaredId? step with
      | none => ([], seen)
      | some id => if seen.contains id then ([.duplicateId id], seen) else ([], id :: seen) := by
  unfold duplicateFlaws
  unfold declaredId? at named ⊢
  cases held : Fields.valueOf "id" step.fields with
  | text id =>
      have notEmpty : id ≠ "" := fun empty => named (by simp [held, empty])
      simp [notEmpty]
  | _ => simp

/-- A valid step does not give itself the empty id. -/
theorem ValidStep.declaredId?_ne {step : Value} (valid : ValidStep step) :
    declaredId? step ≠ some "" := by
  obtain @⟨fields, type, head, _, _⟩ := valid
  simp only [declaredId?, Value.fields, Fields.valueOf]
  cases found : Entries.get? "id" fields with
  | none => simp
  | some id =>
      obtain ⟨text, rfl, notBlank⟩ := head.named id found
      rintro same
      simp only [Option.getD_some, Option.some.injEq] at same
      exact notBlank (by simp [same, Text.trim, Text.trimLeft, Text.trimRight])

theorem validList_cons_iff {item : Value} {rest : List Value} :
    ValidList (item :: rest) ↔
      ValidStep item ∧ (∀ id ∈ declaredId? item, id ∉ rest.filterMap declaredId?) ∧
        ValidList rest := by
  constructor
  · rintro ⟨distinct, valid⟩
    rw [List.forall_mem_cons] at valid
    cases declared : declaredId? item with
    | none =>
        rw [List.filterMap_cons_none declared] at distinct
        exact ⟨valid.1, nofun, distinct, valid.2⟩
    | some id =>
        rw [List.filterMap_cons_some declared, List.nodup_cons] at distinct
        exact ⟨valid.1, by simpa using distinct.1, distinct.2, valid.2⟩
  · rintro ⟨validItem, fresh, distinct, valid⟩
    refine ⟨?_, List.forall_mem_cons.mpr ⟨validItem, valid⟩⟩
    cases declared : declaredId? item with
    | none => rwa [List.filterMap_cons_none declared]
    | some id =>
        rw [List.filterMap_cons_some declared, List.nodup_cons]
        exact ⟨fresh id declared, distinct⟩

theorem itemFlaws_cons_eq_ok_nil_iff {path : String} {position : Nat} {seen : List String}
    {item : Value} {rest : List Value} (named : declaredId? item ≠ some "") :
    itemFlaws path position seen (item :: rest) = .ok [] ↔
      stepFlaws s!"{path}[{position}]" item = .ok [] ∧ (∀ id ∈ declaredId? item, id ∉ seen) ∧
        itemFlaws path (position + 1) ((declaredId? item).toList ++ seen) rest = .ok [] := by
  rw [itemFlaws]
  simp only [bind_eq_ok_iff, Except.ok.injEq, List.append_eq_nil_iff, duplicateFlaws_eq named]
  cases declaredId? item with
  | none => simp
  | some id => by_cases old : id ∈ seen <;> simp [old]

/-- A list of steps has no flaws where its steps have none and the ids that they give themselves are
distinct, also from the ids seen before. -/
theorem itemFlaws_eq_ok_nil_iff {path : String} {position : Nat} {seen : List String}
    {items : List Value}
    (decides : ∀ item ∈ items, ∀ place, stepFlaws place item = .ok [] ↔ ValidStep item) :
    itemFlaws path position seen items = .ok [] ↔
      ValidList items ∧ ∀ id ∈ items.filterMap declaredId?, id ∉ seen := by
  induction items generalizing position seen with
  | nil =>
      have valid : ValidList [] := ⟨by simp, nofun⟩
      rw [itemFlaws]
      simp [valid]
  | cons item rest inductionHypothesis =>
      have decidesItem := decides item List.mem_cons_self
      have decidesRest := fun position seen => @inductionHypothesis position seen
        fun other member => decides other (List.mem_cons_of_mem _ member)
      by_cases valid : ValidStep item
      · rw [itemFlaws_cons_eq_ok_nil_iff valid.declaredId?_ne, decidesItem, decidesRest,
          validList_cons_iff]
        cases declared : declaredId? item with
        | none => simp [List.filterMap_cons_none declared, valid]
        | some id =>
            simp only [List.filterMap_cons_some declared, List.mem_cons, Option.toList_some,
              List.singleton_append, valid, true_and]
            grind
      · have notValid : ¬ValidList (item :: rest) := fun list =>
          valid (list.valid item List.mem_cons_self)
        have flawed : itemFlaws path position seen (item :: rest) ≠ .ok [] := by
          intro success
          rw [itemFlaws] at success
          simp only [bind_eq_ok_iff, Except.ok.injEq, List.append_eq_nil_iff] at success
          obtain ⟨_, own, _, _, ⟨rfl, _⟩, _⟩ := success
          exact valid ((decidesItem _).mp own)
        simp [notValid, flawed]

section

variable (decides : ∀ step ∈ stepsInside fields, ∀ place,
  stepFlaws place step = .ok [] ↔ ValidStep step)

include decides

theorem blockFlaws_eq_ok_nil_iff {names : String × String} (known : names ∈ blockLists) :
    blockFlaws place fields names.1 names.2 = .ok [] ↔
      (blockValue fields names.1 names.2 = .null ∨
        ∃ items, blockValue fields names.1 names.2 = .list items) ∧
      ValidList (blockValue fields names.1 names.2).items := by
  have decidesListed : ∀ item ∈ (blockValue fields names.1 names.2).items, ∀ place,
      stepFlaws place item = .ok [] ↔ ValidStep item := fun item listed =>
    decides item (List.mem_append_left _
      (List.mem_flatten_of_mem (List.mem_map_of_mem known) listed))
  have validEmpty : ValidList [] := ⟨by simp, nofun⟩
  rw [blockFlaws_eq]
  cases held : blockValue fields names.1 names.2 with
  | null => simp [Value.items, validEmpty]
  | list items =>
      rw [held, Value.items] at decidesListed
      simp only [listFlaws]
      rw [itemFlaws_eq_ok_nil_iff decidesListed]
      simp [Value.items]
  | _ => simp [listFlaws]

theorem verdictFlaws_eq_ok_nil_iff {verdict : String} (known : verdict ∈ verdictNames) :
    verdictFlaws place fields verdict = .ok [] ↔
      ∀ step, Entries.get? verdict (Fields.valueOf "config" fields).fields = some step →
        ValidStep step := by
  rw [verdictFlaws]
  split
  · rename_i step found
    rw [decides step (List.mem_append_right _ (List.mem_filterMap.mpr ⟨verdict, known, found⟩))]
    simp [found]
  · rename_i missing
    simp [missing]

end

/-- Valid lists of valid steps inside a step, list by list and verdict by verdict. -/
theorem validLists_and_inside_iff :
    (ValidLists fields ∧ ∀ step ∈ stepsInside fields, ValidStep step) ↔
      (∀ names ∈ blockLists,
        (blockValue fields names.1 names.2 = .null ∨
          ∃ items, blockValue fields names.1 names.2 = .list items) ∧
        ValidList (blockValue fields names.1 names.2).items) ∧
      ∀ verdict ∈ verdictNames, ∀ step,
        Entries.get? verdict (Fields.valueOf "config" fields).fields = some step →
          ValidStep step := by
  simp only [stepsInside, List.mem_append, List.mem_flatten, listsInside, List.mem_map,
    verdictSteps, List.mem_filterMap]
  constructor
  · rintro ⟨⟨areLists, distinct⟩, inside⟩
    refine ⟨fun names known => ⟨areLists names known, ?_, fun item listed => ?_⟩,
      fun verdict known step found => inside step (.inr ⟨verdict, known, found⟩)⟩
    · exact distinct _ (List.mem_map_of_mem known)
    · exact inside item (.inl ⟨_, ⟨names, known, rfl⟩, listed⟩)
  · rintro ⟨blocks, verdicts⟩
    refine ⟨⟨fun names known => (blocks names known).1, ?_⟩, ?_⟩
    · simp only [listsInside, List.forall_mem_map]
      exact fun names known => (blocks names known).2.distinct
    · rintro step (⟨_, ⟨names, known, rfl⟩, listed⟩ | ⟨verdict, known, found⟩)
      · exact (blocks names known).2.valid step listed
      · exact verdicts verdict known step found

theorem validStep_object_iff :
    ValidStep (.object fields) ↔
      (∃ type, ValidHead fields type) ∧ ValidLists fields ∧
        ∀ step ∈ stepsInside fields, ValidStep step := by
  constructor
  · rintro ⟨head, lists, inside⟩
    exact ⟨⟨_, head⟩, lists, inside⟩
  · rintro ⟨⟨type, head⟩, lists, inside⟩
    exact .mk head lists inside

/-- The walk finds no flaw in exactly the valid steps, whatever place it starts from. -/
theorem stepFlaws_eq_ok_nil_iff_valid (value : Value) (place : String) :
    stepFlaws place value = .ok [] ↔ ValidStep value := by
  cases value with
  | object fields =>
      have decides : ∀ step ∈ stepsInside fields, ∀ place,
          stepFlaws place step = .ok [] ↔ ValidStep step := fun step _ place =>
        stepFlaws_eq_ok_nil_iff_valid step place
      rw [stepFlaws_eq_ok_nil_iff, validStep_object_iff, validLists_and_inside_iff]
      simp only [headFlaws_eq_ok_nil_iff, and_true, and_assoc, exists_and_left, exists_eq_left]
      refine and_congr_right fun _ => and_congr ?_ ?_
      · exact forall₂_congr fun names known => blockFlaws_eq_ok_nil_iff decides known
      · exact forall₂_congr fun verdict known => verdictFlaws_eq_ok_nil_iff decides known
  | null | bool | int | float | text | list | mapping | foreign =>
      rw [stepFlaws]
      · refine iff_of_false (by simp) fun valid => ?_
        cases valid
      · simp
  termination_by sizeOf value
  decreasing_by exact sizeOf_lt_of_mem_stepsInside ‹_›

theorem listFlaws_eq_ok_nil_iff {path : String} {value : Value} :
    listFlaws path value = .ok [] ↔ ∃ items, value = .list items ∧ ValidList items := by
  cases value with
  | list items =>
      rw [listFlaws, itemFlaws_eq_ok_nil_iff fun item _ => stepFlaws_eq_ok_nil_iff_valid item]
      simp
  | null | bool | int | float | text | object | mapping | foreign =>
      rw [listFlaws] <;> simp

/-- A stored blueprint has no flaws exactly where it is an object with a list of valid steps, and
with an object of variables if it has variables. -/
theorem flaws_eq_ok_nil_iff {data : Value} :
    flaws data = .ok [] ↔
      ∃ fields, data = .object fields ∧
        (∃ items, Entries.get? "steps" fields = some (.list items) ∧ ValidList items) ∧
        ∀ value, Entries.get? "variables" fields = some value → ∃ scope, value = .object scope := by
  cases data with
  | object fields =>
      cases listed : Entries.get? "steps" fields with
      | none => simp [flaws, listed]
      | some steps =>
          have found : listFlaws "steps" steps = .ok [] ↔
              ∃ items, steps = .list items ∧ ValidList items := listFlaws_eq_ok_nil_iff
          simp only [flaws, listed, bind_eq_ok_iff, Value.object.injEq, exists_eq_left',
            Option.some.injEq, ← found]
          cases bound : Entries.get? "variables" fields with
          | none => simp
          | some value => cases value <;> simp
  | _ => simp [flaws]

end

end Validation
end Automation
