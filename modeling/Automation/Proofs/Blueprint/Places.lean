import Automation.Proofs.Blueprint.Preorder
import Automation.Proofs.Blueprint.Soundness
import Automation.Proofs.Number.Digits
import Mathlib.Data.List.Nodup

/-!
The ids that the reader gives.

A step that gives itself no id is named by its path, and the ids of the steps inside it begin with
that path. The paths of two lists of a step, and of two items of a list, diverge: neither of them
begins with the other, so nothing begins with both. Hence no two positions of the tree have the same
id, by induction over the tree.
-/

namespace Automation

namespace Text

variable {front first second : List Char}

/-- Two texts neither of which begins with the other. -/
def Diverge (first second : List Char) : Prop := ¬first <+: second ∧ ¬second <+: first

instance (first second : List Char) : Decidable (Diverge first second) :=
  inferInstanceAs (Decidable (_ ∧ _))

theorem diverge_append_left_iff :
    Diverge (front ++ first) (front ++ second) ↔ Diverge first second := by
  simp only [Diverge, List.prefix_append_right_inj]

/-- Nothing begins with both of two texts that diverge. -/
theorem Diverge.not_both {text : List Char} (diverge : Diverge first second)
    (begins : first <+: text) : ¬second <+: text := by
  intro alsoBegins
  cases List.prefix_or_prefix_of_prefix begins alsoBegins with
  | inl within => exact diverge.1 within
  | inr within => exact diverge.2 within

end Text

theorem Decimal.digits_injective : Function.Injective digits := by
  intro first second same
  rw [← ofDigits_digitValues first, digitValues, same, ← digitValues, ofDigits_digitValues]

/-- Names that begin with a place, each of them once. -/
structure AreUnder (place : String) (names : List String) : Prop where
  begins : ∀ name ∈ names, place.toList <+: name.toList
  distinct : names.Nodup

namespace AreUnder

theorem nil {place : String} : AreUnder place [] := ⟨List.forall_mem_nil _, List.nodup_nil⟩

/-- Names under places that diverge are different. -/
theorem flatMap {α : Type} {place : String} {groups : List α} {placeOf : α → String}
    {namesOf : α → List String} (each : ∀ group ∈ groups, AreUnder (placeOf group) (namesOf group))
    (inside : ∀ group ∈ groups, place.toList <+: (placeOf group).toList)
    (apart : groups.Pairwise fun first second =>
      Text.Diverge (placeOf first).toList (placeOf second).toList) :
    AreUnder place (groups.flatMap namesOf) where
  begins name member := by
    obtain ⟨group, known, inGroup⟩ := List.mem_flatMap.mp member
    exact (inside group known).trans ((each group known).begins name inGroup)
  distinct := by
    refine List.nodup_flatMap.mpr ⟨fun group known => (each group known).distinct, ?_⟩
    refine apart.imp_of_mem fun {first second} inFirst inSecond diverge => ?_
    intro name underFirst underSecond
    exact diverge.not_both ((each first inFirst).begins name underFirst)
      ((each second inSecond).begins name underSecond)

/-- A place is no name under a place inside it. -/
theorem cons {place suffix : String} {names : List String} (nonempty : suffix.toList ≠ [])
    (inside : AreUnder (place ++ suffix) names) : AreUnder place (place :: names) where
  begins := by
    refine List.forall_mem_cons.mpr ⟨List.prefix_rfl, fun name member => ?_⟩
    have further : (place ++ suffix).toList <+: name.toList := inside.begins name member
    rw [String.toList_append] at further
    exact (List.prefix_append _ _).trans further
  distinct := by
    refine List.nodup_cons.mpr ⟨fun member => ?_, inside.distinct⟩
    have shorter := (inside.begins place member).length_le
    rw [String.toList_append, List.length_append] at shorter
    have longer := List.length_pos_iff.mpr nonempty
    omega

end AreUnder

namespace Validation

/-- A value none of whose steps, at any depth, gives itself an id. -/
def IsUnnamed (value : Value) : Prop :=
  EveryStep (fun fields => (Fields.valueOf "id" fields).truthy = false) value

end Validation

namespace Step

open Validation

variable {path : String} {step : Step} {steps : List Step}

/-- The path of an item of the list with a path. -/
def itemPath (path : String) (index : Nat) : String := s!"{path}[{index}]"

theorem toList_itemPath (path : String) (index : Nat) :
    (itemPath path index).toList = path.toList ++ '[' :: (Decimal.digits index ++ [']']) := by
  have shown : (toString index).toList = Decimal.digits index := String.toList_ofList
  simp only [itemPath, String.toList_append, shown, List.append_assoc]
  rfl

/-- The bracket behind an index tells where its digits end. -/
theorem diverge_itemPath {first second : Nat} (different : first ≠ second) :
    Text.Diverge (itemPath path first).toList (itemPath path second).toList := by
  have alone {first second : Nat} (begins : Decimal.digits first ++ [']'] <+:
      Decimal.digits second ++ [']']) : first = second := by
    obtain ⟨rest, same⟩ := begins
    have cut := congrArg (List.takeWhile Char.isDigit) same
    rw [List.append_assoc, Text.takeWhile_run isDigit_of_mem_digits (by simp),
      Text.takeWhile_run isDigit_of_mem_digits (by simp)] at cut
    exact Decimal.digits_injective cut
  rw [toList_itemPath, toList_itemPath, Text.diverge_append_left_iff]
  simp only [Text.Diverge, List.cons_prefix_cons, true_and]
  exact ⟨fun begins => different (alone begins), fun begins => different (alone begins).symm⟩

theorem subtrees_eq_flatMap (steps : List Step) : subtrees steps = steps.flatMap subtree := by
  induction steps with
  | nil => rfl
  | cons step rest inductionHypothesis =>
      rw [subtrees, inductionHypothesis, List.flatMap_cons]

/-- The lists of steps directly inside a step, with their paths, in the order of a visit. -/
def placedChildren (path : String) (step : Step) : List (String × List Step) :=
  [(listPath path ("condition", "if_true"), (step.condition.map ConditionBlock.ifTrue).getD []),
    (listPath path ("condition", "if_false"), (step.condition.map ConditionBlock.ifFalse).getD []),
    (verdictPath path "trueStep", step.trueStep.toList),
    (verdictPath path "falseStep", step.falseStep.toList),
    (listPath path ("loop", "steps"), (step.loop.map LoopBlock.steps).getD []),
    (listPath path ("retry", "steps"), (step.retry.map RetryBlock.steps).getD []),
    (listPath path ("retry", "on_retry_fail_steps"),
      (step.retry.map RetryBlock.recovery).getD []),
    (listPath path ("fallback", "primary_steps"),
      (step.fallback.map FallbackBlock.primary).getD []),
    (listPath path ("fallback", "fallback_steps"),
      (step.fallback.map FallbackBlock.alternative).getD [])]

theorem flatMap_placedChildren (path : String) (step : Step) :
    (placedChildren path step).flatMap Prod.snd = step.children := by
  obtain ⟨header, condition, loop, retry, fallback, trueStep, falseStep⟩ := step
  cases condition <;> cases loop <;> cases retry <;> cases fallback <;>
    simp [placedChildren, children, Step.condition, Step.loop, Step.retry, Step.fallback,
      Step.trueStep, Step.falseStep, conditionSteps, loopSteps, retrySteps, fallbackSteps]

/-- The ids of a step and of all steps inside it. -/
def ids (step : Step) : List String := (subtree step).map Step.id

theorem ids_eq (path : String) (step : Step) :
    ids step = step.id :: (placedChildren path step).flatMap fun group => group.2.flatMap ids := by
  calc ids step
    _ = step.id :: (step.children.flatMap subtree).map Step.id := by
      rw [ids, subtree_eq, List.map_cons, subtrees_eq_flatMap]
    _ = step.id :: step.children.flatMap ids := by
      rw [List.map_flatMap]
      rfl
    _ = _ := by rw [← flatMap_placedChildren path step, List.flatMap_assoc]

theorem id_of_readFields {fields : Fields} (success : readFields path fields = .ok step)
    (unnamed : (Fields.valueOf "id" fields).truthy = false) : step.id = path := by
  obtain ⟨_, _, isHeader, _⟩ := readFields_eq_ok_iff.mp success
  rw [Step.id, isHeader]
  simp [readHeader, Value.orElse, unnamed, Value.display, Value.displayed]

/-- Whether the ids of a step and of all steps inside it are its path and longer ones, if the step
is read from an unnamed value. -/
def IsPlaced (step : Step) : Prop :=
  ∀ path value, IsUnnamed value → read path value = .ok step → AreUnder path (ids step)

theorem areUnder_of_readItems (placed : ∀ step ∈ steps, IsPlaced step) {items : List Value}
    (unnamed : ∀ item ∈ items, IsUnnamed item) {position : Nat}
    (success : readItems path position items = .ok steps) : AreUnder path (steps.flatMap ids) := by
  have each : ∀ entry ∈ steps.zipIdx position,
      AreUnder (itemPath path entry.2) (ids entry.1) := by
    intro entry known
    obtain ⟨item, listed, isRead⟩ := exists_read_of_mem_zipIdx success known
    exact placed entry.1 (List.fst_mem_of_mem_zipIdx known) _ item (unnamed item listed) isRead
  have apart : (steps.zipIdx position).Pairwise fun first second =>
      Text.Diverge (itemPath path first.2).toList (itemPath path second.2).toList := by
    have indices : ((steps.zipIdx position).map Prod.snd).Nodup := by
      rw [List.zipIdx_map_snd]
      exact List.nodup_range' 1
    exact (List.pairwise_map.mp indices).imp diverge_itemPath
  have gathered : AreUnder path ((steps.zipIdx position).flatMap fun entry => ids entry.1) := by
    refine AreUnder.flatMap each (fun entry _ => ?_) apart
    rw [toList_itemPath]
    exact List.prefix_append _ _
  rwa [← List.flatMap_map, List.zipIdx_map_fst] at gathered

theorem areUnder_of_readSteps (placed : ∀ step ∈ steps, IsPlaced step) {value : Value}
    (unnamed : ∀ item ∈ value.items, IsUnnamed item)
    (success : readSteps path value = .ok steps) : AreUnder path (steps.flatMap ids) := by
  unfold readSteps at success
  split at success
  · cases success
    exact .nil
  · exact areUnder_of_readItems placed unnamed success
  · cases success

/-- What follows the path of a step in the paths of the lists directly inside it. -/
def placeSuffixes : List String :=
  [".condition.if_true", ".condition.if_false", ".config.trueStep", ".config.falseStep",
    ".loop.steps", ".retry.steps", ".retry.on_retry_fail_steps", ".fallback.primary_steps",
    ".fallback.fallback_steps"]

theorem map_fst_placedChildren (path : String) (step : Step) :
    (placedChildren path step).map (fun group => group.1.toList) =
      placeSuffixes.map fun suffix => path.toList ++ suffix.toList := by
  simp [placedChildren, placeSuffixes, listPath, verdictPath]

theorem pairwise_placedChildren (path : String) (step : Step) :
    (placedChildren path step).Pairwise fun first second =>
      Text.Diverge first.1.toList second.1.toList := by
  have suffixes : placeSuffixes.Pairwise fun first second =>
      Text.Diverge first.toList second.toList := by decide +kernel
  have places : ((placedChildren path step).map fun group => group.1.toList).Pairwise
      Text.Diverge := by
    rw [map_fst_placedChildren]
    exact List.pairwise_map.mpr (suffixes.imp Text.diverge_append_left_iff.mpr)
  exact List.pairwise_map.mp places

theorem prefix_of_mem_placedChildren {group : String × List Step}
    (known : group ∈ placedChildren path step) : (path ++ ".").toList <+: group.1.toList := by
  have dotted : ∀ suffix ∈ placeSuffixes, ['.'] <+: suffix.toList := by decide +kernel
  have place := List.mem_map_of_mem (f := fun group => group.1.toList) known
  rw [map_fst_placedChildren] at place
  obtain ⟨suffix, member, same⟩ := List.mem_map.mp place
  rw [← same, String.toList_append, List.prefix_append_right_inj]
  exact dotted suffix member

/-- The steps of every list directly inside a step are under the path of the list. -/
theorem areUnder_placedChildren {fields : Fields} (success : readFields path fields = .ok step)
    (unnamed : ∀ inner ∈ stepsInside fields, IsUnnamed inner)
    (placed : ∀ child ∈ step.children, IsPlaced child) :
    ∀ group ∈ placedChildren path step, AreUnder group.1 (group.2.flatMap ids) := by
  have inLists : ∀ entry ∈ blockLists.zip step.lists,
      AreUnder (listPath path entry.1) (entry.2.flatMap ids) := by
    intro entry known
    obtain ⟨names, inside⟩ := List.of_mem_zip known
    refine areUnder_of_readSteps (fun child member => ?_) (fun item listed => ?_)
      (readFields_listsAt success entry known)
    · exact placed child (mem_children_iff.mpr (.inl (List.mem_flatten_of_mem inside member)))
    · exact unnamed item (mem_stepsInside_of_listed names listed)
  have verdict {name : String} {branch : Option Step} (known : name ∈ verdictNames)
      (isRead : readVerdictStep path fields name = .ok branch)
      (inside : ∀ child, branch = some child → child ∈ step.children) :
      AreUnder (verdictPath path name) (branch.toList.flatMap ids) := by
    cases branch with
    | none => exact .nil
    | some child =>
        obtain ⟨inner, found, readInner⟩ := exists_of_readVerdictStep isRead
        rw [Option.toList_some, List.flatMap_singleton]
        exact placed child (inside child rfl) _ inner
          (unnamed inner (mem_stepsInside_of_verdict known found)) readInner
  obtain ⟨_, _, _, _, _, _, _, trueStep, falseStep⟩ := readFields_eq_ok_iff.mp success
  have isTrue := verdict (by simp [verdictNames]) trueStep fun child held =>
    mem_children_iff.mpr (.inr (.inl held))
  have isFalse := verdict (by simp [verdictNames]) falseStep fun child held =>
    mem_children_iff.mpr (.inr (.inr held))
  simp only [blockLists, lists, List.zip_cons_cons, List.zip_nil_right, List.forall_mem_cons]
    at inLists
  obtain ⟨ifTrue, ifFalse, loop, retry, recovery, primary, alternative, _⟩ := inLists
  simp only [placedChildren, List.forall_mem_cons]
  exact ⟨ifTrue, ifFalse, isTrue, isFalse, loop, retry, recovery, primary, alternative,
    List.forall_mem_nil _⟩

theorem isPlaced (step : Step) : IsPlaced step := by
  induction step using inductionOnChildren with
  | inherit step placed =>
      intro path value unnamed success
      obtain ⟨fields, rfl, isRead⟩ := exists_fields_of_read success
      obtain ⟨here, inside⟩ := everyStep_object_iff.mp unnamed
      have children : AreUnder (path ++ ".")
          ((placedChildren path step).flatMap fun group => group.2.flatMap ids) :=
        .flatMap (areUnder_placedChildren isRead inside placed)
          (fun group => prefix_of_mem_placedChildren) (pairwise_placedChildren path step)
      rw [ids_eq path, id_of_readFields isRead here]
      exact children.cons (by decide)

end Step

namespace Blueprint

open Step Validation

variable {blueprint : Blueprint}

theorem position_eq_of_nodup (distinct : (blueprint.allSteps.map Step.id).Nodup)
    {first second : List Nat} {step other : Step}
    (leads : at? blueprint.steps first = some step)
    (alsoLeads : at? blueprint.steps second = some other) (same : step.id = other.id) :
    first = second := by
  obtain ⟨positions, enumerates⟩ := exists_enumerates_preorder blueprint.steps
  have found : (blueprint.allSteps.map (some ∘ Step.id)).Nodup := by
    rw [← List.map_map]
    exact distinct.map fun _ _ => Option.some.inj
  have ids : (positions.map (Option.map Step.id ∘ at? blueprint.steps)).Nodup := by
    rw [← List.map_map, enumerates.map_eq, List.map_map]
    exact found
  have isSome := enumerates.mem_iff
  refine List.inj_on_of_nodup_map ids ((isSome first).mpr ?_) ((isSome second).mpr ?_) ?_
  · rw [leads, Option.isSome_some]
  · rw [alsoLeads, Option.isSome_some]
  · rw [Function.comp_apply, Function.comp_apply, leads, alsoLeads, Option.map_some,
      Option.map_some, same]

/-- Where no step at any depth gives itself an id, the ids that the reader gives tell the positions
of the tree apart, and every step is found by its id. -/
theorem distinct_ids_of_unnamed {data : Value} (success : read data = .ok blueprint)
    (unnamed : ∀ item ∈ (Fields.valueOf "steps" data.fields).items, IsUnnamed item) :
    (blueprint.allSteps.map Step.id).Nodup ∧
      (∀ step ∈ blueprint.allSteps, blueprint.find? step.id = some step) ∧
      ∀ first second step other, at? blueprint.steps first = some step →
        at? blueprint.steps second = some other → step.id = other.id → first = second := by
  have distinct : (blueprint.allSteps.map Step.id).Nodup := by
    cases data with
    | object fields =>
        simp only [read, bind_eq_ok_iff, Except.ok.injEq] at success
        obtain ⟨steps, readSteps, rfl⟩ := success
        have under := areUnder_of_readSteps (fun step _ => isPlaced step) unnamed readSteps
        rw [allSteps, preorder_eq_subtrees, subtrees_eq_flatMap, List.map_flatMap]
        exact under.distinct
    | _ => cases success
  exact ⟨distinct, fun step => find?_key_of_nodup distinct,
    fun first second step other => position_eq_of_nodup distinct⟩

/-- Steps of several blocks, with a step that is there for a verdict; an empty id and a zero are no
ids. -/
def unnamedBlocks : Value :=
  .object [("steps", .list [
    .object [("id", .text ""), ("type", .text "condition"),
      ("config", .object [("trueStep", .object [("type", .text "delay")])]),
      ("condition", .object [("if_true", .list [.object
        [("id", .int 0), ("type", .text "loop"), ("loop", .object
          [("steps", .list [.object [("type", .text "delay")]])])]])])],
    .object [("type", .text "retry"), ("retry", .object
      [("steps", .list [.object [("type", .text "delay")]])])]])]

theorem distinct_ids_of_unnamedBlocks :
    (∀ item ∈ (Fields.valueOf "steps" unnamedBlocks.fields).items, IsUnnamed item) ∧
      ∃ blueprint, read unnamedBlocks = .ok blueprint ∧
        blueprint.allSteps.map Step.id = ["steps[0]", "steps[0].condition.if_true[0]",
          "steps[0].condition.if_true[0].loop.steps[0]", "steps[0].config.trueStep", "steps[1]",
          "steps[1].retry.steps[0]"] ∧
        (blueprint.allSteps.map Step.id).Nodup ∧
        (∀ step ∈ blueprint.allSteps, blueprint.find? step.id = some step) ∧
        ∀ first second step other, at? blueprint.steps first = some step →
          at? blueprint.steps second = some other → step.id = other.id → first = second := by
  have unnamed : ∀ item ∈ (Fields.valueOf "steps" unnamedBlocks.fields).items,
      IsUnnamed item := by
    simp [unnamedBlocks, IsUnnamed, everyStep_object_iff, stepsInside, listsInside, blockLists,
      verdictSteps, verdictNames, blockValue, Fields.valueOf, Entries.get?, Value.fields,
      Value.items, Value.truthy]
  have evaluated : (fun blueprint => blueprint.allSteps.map Step.id) <$> read unnamedBlocks =
      .ok ["steps[0]", "steps[0].condition.if_true[0]",
        "steps[0].condition.if_true[0].loop.steps[0]", "steps[0].config.trueStep", "steps[1]",
        "steps[1].retry.steps[0]"] := by
    simp only [unnamedBlocks, read, readSteps, readItems, Step.read, readFields, readCondition_eq,
      readLoop_eq, readRetry_eq, readFallback_eq, readVerdictStep, Fields.valueOf, Entries.get?,
      Value.fields, Option.getD_some, Option.getD_none, String.reduceEq, ↓reduceIte, ↓dreduceIte,
      Nat.zero_add, Nat.reduceAdd, ok_bind, map_ok, Except.ok.injEq]
    decide +kernel
  obtain ⟨blueprint, success, named⟩ := map_eq_ok_iff.mp evaluated
  exact ⟨unnamed, blueprint, success, named, distinct_ids_of_unnamed success unnamed⟩

end Blueprint

end Automation
