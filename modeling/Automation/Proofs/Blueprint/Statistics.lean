import Automation.Proofs.Blueprint.Analysis
import Automation.Proofs.Blueprint.Places
import Mathlib.Tactic.MkIffOfInductiveProp

/-!
The statistics of a blueprint as counts over its steps.

The analysis walks stored values and decides by the type of a step which of the lists inside it
count. The reader follows every list and every step for a verdict, whatever the type. Where no step
carries a list that its type does not use, the two meet the same steps in the same order, so the
analysis of a stored blueprint is a count over the visit of the blueprint that was read.
-/

namespace Automation

namespace Tally

@[simp]
theorem empty_append (tally : Tally) : empty ++ tally = tally := by
  change append empty tally = tally
  simp [append, empty]

@[simp]
theorem append_empty (tally : Tally) : tally ++ empty = tally := by
  change append tally empty = tally
  simp [append, empty]

theorem append_assoc (first second third : Tally) :
    first ++ second ++ third = first ++ (second ++ third) := by
  change append (append first second) third = append first (append second third)
  simp only [append, List.append_assoc, Nat.add_assoc]

end Tally

theorem probePlatform?_eq_bind (keys : List String) (probed : Value) :
    probePlatform? keys probed =
      probed.fields?.bind fun object => probePlatform? keys (.object object) := by
  cases probed with
  | object => rfl
  | _ => simp [probePlatform?, Value.fields, Value.fields?, Fields.valueOf, Entries.get?]

/-- An id that gives its agent a name, if it is printed. -/
def naming? (id : Value) : Option Value :=
  match id with
  | .text name => if name = "" then none else some (.text name)
  | .int number => some (.int number)
  | _ => none

theorem agentId?_eq (fields : Fields) : agentId? fields =
    naming? (Fields.valueOf "agent_id" (Fields.valueOf "ai_agent_call" fields).fields) := rfl

section

variable {name first : String} {names : List String}

end

namespace Step

/-- The platforms that the action and the trigger of a step name. -/
def platformNames (keys : List String) (step : Step) : List String :=
  [step.header.action, step.header.trigger].flatMap fun object =>
    (object.bind fun fields => probePlatform? keys (.object fields)).toList

/-- The id of the agent that a step calls, if it gives it a name. -/
def agentIds (step : Step) : List Value :=
  (step.header.agentCall.bind fun call => naming? call.agentId).toList

/-- Whether a step is of a type. -/
def isOf (type : StepType) (step : Step) : Bool := step.type == type.name

/-- What a list of steps contributes, the steps inside them apart. -/
def tally (keys : List String) (steps : List Step) : Tally where
  steps := steps.length
  platforms := steps.flatMap (platformNames keys)
  agents := steps.flatMap agentIds
  conditions := steps.countP (isOf .condition)
  loops := steps.countP (isOf .loop)

theorem tally_append (keys : List String) (first second : List Step) :
    tally keys (first ++ second) = tally keys first ++ tally keys second := by
  change _ = Tally.append (tally keys first) (tally keys second)
  simp [tally, Tally.append]

end Step

namespace Validation

/-- A step without lists that its type does not use: branches and steps for a verdict are in
conditions only, and the steps of a loop are in loops only. -/
@[mk_iff]
structure UsesItsLists (fields : Fields) : Prop where
  branches : Fields.valueOf "type" fields ≠ .text StepType.condition.name →
    (blockValue fields "condition" "if_true").items = [] ∧
      (blockValue fields "condition" "if_false").items = []
  verdicts : Fields.valueOf "type" fields ≠ .text StepType.condition.name →
    ∀ verdict ∈ verdictNames, ∀ step : Fields,
      Fields.valueOf verdict (Fields.valueOf "config" fields).fields ≠ .object step
  loop : Fields.valueOf "type" fields ≠ .text StepType.loop.name →
    (blockValue fields "loop" "steps").items = []

end Validation

namespace Step

open Validation

variable {keys : List String} {path : String} {fields : Fields} {step : Step} {steps : List Step}

/-- Whether a stored step counts as much as the step that is read from it and the steps inside
that. -/
def Counts (keys : List String) (step : Step) : Prop :=
  ∀ path value, EveryStep UsesItsLists value → read path value = .ok step →
    tallyStep keys value = tally keys (subtree step)

theorem tallyHead_of_readFields (success : readFields path fields = .ok step) :
    tallyHead keys fields = tally keys [step] := by
  obtain ⟨typed, _, isHeader, _⟩ := readFields_eq_ok_iff.mp success
  have action : step.header.action = (Fields.valueOf "action" fields).fields? := by
    rw [isHeader, readHeader]
  have trigger : step.header.trigger = (Fields.valueOf "trigger" fields).fields? := by
    rw [isHeader, readHeader]
  have call : step.header.agentCall = readAgentCall (Fields.valueOf "ai_agent_call" fields) := by
    rw [isHeader, readHeader]
  have agents : (agentId? fields).toList = agentIds step := by
    rw [agentId?_eq, valueOf_agentId_eq, agentIds, call]
    cases readAgentCall (Fields.valueOf "ai_agent_call" fields) <;> rfl
  have conditions : (Fields.valueOf "type" fields).isText "condition" = isOf .condition step := by
    rw [typed]
    rfl
  have loops : (Fields.valueOf "type" fields).isText "loop" = isOf .loop step := by
    rw [typed]
    rfl
  have platforms : (probePlatform? keys (Fields.valueOf "action" fields)).toList ++
      (probePlatform? keys (Fields.valueOf "trigger" fields)).toList = platformNames keys step := by
    rw [probePlatform?_eq_bind keys (Fields.valueOf "action" fields),
      probePlatform?_eq_bind keys (Fields.valueOf "trigger" fields), ← action, ← trigger]
    simp only [platformNames, List.flatMap_cons, List.flatMap_nil, List.append_nil]
  simp [tallyHead, tally, platforms, agents, conditions, loops, List.countP_cons]

theorem tallyItems_of_readItems (counts : ∀ step ∈ steps, Counts keys step) {items : List Value}
    (every : ∀ item ∈ items, EveryStep UsesItsLists item) {position : Nat}
    (success : readItems path position items = .ok steps) :
    tallyItems keys items = tally keys (subtrees steps) := by
  induction items generalizing position steps with
  | nil =>
      rw [readItems] at success
      cases success
      exact tallyItems_nil keys
  | cons item rest inductionHypothesis =>
      rw [readItems] at success
      simp only [bind_eq_ok_iff, Except.ok.injEq] at success
      obtain ⟨step, readStep, others, readOthers, rfl⟩ := success
      rw [List.forall_mem_cons] at counts every
      rw [tallyItems, subtrees, tally_append, counts.1 _ item every.1 readStep,
        inductionHypothesis counts.2 every.2 readOthers]

theorem tallyItems_items_of_readSteps (counts : ∀ step ∈ steps, Counts keys step) {value : Value}
    (every : ∀ item ∈ value.items, EveryStep UsesItsLists item)
    (success : readSteps path value = .ok steps) :
    tallyItems keys value.items = tally keys (subtrees steps) := by
  unfold readSteps at success
  split at success
  · cases success
    exact tallyItems_nil keys
  · exact tallyItems_of_readItems counts every success
  · cases success

theorem tallyBlock_of_readFields (success : readFields path fields = .ok step)
    (counts : ∀ child ∈ step.children, Counts keys child)
    (every : ∀ inner ∈ stepsInside fields, EveryStep UsesItsLists inner) :
    ∀ entry ∈ blockLists.zip step.lists,
      tallyBlock keys fields entry.1.1 entry.1.2 = tally keys (subtrees entry.2) := by
  intro entry known
  obtain ⟨names, inside⟩ := List.of_mem_zip known
  rw [tallyBlock_eq]
  refine tallyItems_items_of_readSteps (fun child member => ?_) (fun item listed => ?_)
    (readFields_listsAt success entry known)
  · exact counts child (mem_children_iff.mpr (.inl (List.mem_flatten_of_mem inside member)))
  · exact every item (mem_stepsInside_of_listed names listed)

/-- No step is read for a verdict exactly where there is no object for it. -/
theorem eq_none_iff_of_readVerdictStep {verdict : String} {branch : Option Step}
    (success : readVerdictStep path fields verdict = .ok branch) :
    branch = none ↔ ∀ inner : Fields,
      Fields.valueOf verdict (Fields.valueOf "config" fields).fields ≠ .object inner := by
  rw [readVerdictStep] at success
  split at success
  · rename_i inner held
    obtain ⟨child, -, rfl⟩ := map_eq_ok_iff.mp success
    simp [held]
  · rename_i noObject
    cases success
    exact iff_of_true rfl noObject

theorem tallyVerdict_of_readVerdictStep {verdict : String} {branch : Option Step}
    (known : verdict ∈ verdictNames)
    (success : readVerdictStep path fields verdict = .ok branch)
    (counts : ∀ child, branch = some child → Counts keys child)
    (every : ∀ inner ∈ stepsInside fields, EveryStep UsesItsLists inner) :
    tallyVerdict keys fields verdict = tally keys (subtrees branch.toList) := by
  rw [tallyVerdict]
  cases branch with
  | some child =>
      obtain ⟨inner, found, readInner⟩ := exists_of_readVerdictStep success
      have counted := counts child rfl _ inner
        (every inner (mem_stepsInside_of_verdict known found)) readInner
      split
      · rename_i other alsoFound
        rw [found, Option.some.injEq] at alsoFound
        rw [← alsoFound, counted, Option.toList_some, subtrees, subtrees, List.append_nil]
      · rename_i missing
        rw [found] at missing
        cases missing
  | none =>
      have noObject := (eq_none_iff_of_readVerdictStep success).mp rfl
      split
      · rename_i inner found
        cases inner with
        | object inner =>
            exact absurd (by rw [Fields.valueOf, found, Option.getD_some]) (noObject inner)
        | _ => rw [tallyStep]; rfl; simp
      · rfl

/-- A stored step counts as much as the step that is read from it if the steps directly inside it
do. -/
theorem Counts.ofChildren (step : Step) (counts : ∀ child ∈ step.children, Counts keys child) :
    Counts keys step := by
  intro path value every success
  obtain ⟨fields, rfl, isRead⟩ := exists_fields_of_read success
  obtain ⟨uses, inside⟩ := everyStep_object_iff.mp every
  obtain ⟨typed, _, _, _, _, _, _, isTrue, isFalse⟩ := readFields_eq_ok_iff.mp isRead
  have listed := readFields_listsAt isRead
  have blocks := tallyBlock_of_readFields isRead counts inside
  have trueStep := tallyVerdict_of_readVerdictStep (by simp [verdictNames]) isTrue
    (fun child held => counts child (mem_children_iff.mpr (.inr (.inl held)))) inside
  have falseStep := tallyVerdict_of_readVerdictStep (by simp [verdictNames]) isFalse
    (fun child held => counts child (mem_children_iff.mpr (.inr (.inr held)))) inside
  simp only [blockLists, lists, List.zip_cons_cons, List.zip_nil_right, List.forall_mem_cons]
    at blocks listed
  obtain ⟨ifTrue, ifFalse, loop, retry, recovery, primary, alternative, _⟩ := blocks
  have unbranched (other : Fields.valueOf "type" fields ≠ .text StepType.condition.name) :
      (step.condition.map ConditionBlock.ifTrue).getD [] = [] ∧
        (step.condition.map ConditionBlock.ifFalse).getD [] = [] ∧ step.trueStep = none ∧
        step.falseStep = none := by
    obtain ⟨noTrue, noFalse⟩ := uses.branches other
    have noVerdict := uses.verdicts other
    exact ⟨(eq_nil_iff_of_readSteps listed.1).mpr noTrue,
      (eq_nil_iff_of_readSteps listed.2.1).mpr noFalse,
      (eq_none_iff_of_readVerdictStep isTrue).mpr (noVerdict _ (by simp [verdictNames])),
      (eq_none_iff_of_readVerdictStep isFalse).mpr (noVerdict _ (by simp [verdictNames]))⟩
  have unrepeated (other : Fields.valueOf "type" fields ≠ .text StepType.loop.name) :
      (step.loop.map LoopBlock.steps).getD [] = [] :=
    (eq_nil_iff_of_readSteps listed.2.2.1).mpr (uses.loop other)
  have branches : (if (Fields.valueOf "type" fields).isText "condition" then
      tallyBlock keys fields "condition" "if_true" ++ tallyBlock keys fields "condition" "if_false"
        ++ tallyVerdict keys fields "trueStep" ++ tallyVerdict keys fields "falseStep"
      else .empty) = tally keys (subtrees ((step.condition.map ConditionBlock.ifTrue).getD []))
        ++ tally keys (subtrees ((step.condition.map ConditionBlock.ifFalse).getD []))
        ++ tally keys (subtrees step.trueStep.toList)
        ++ tally keys (subtrees step.falseStep.toList) := by
    split
    · rw [ifTrue, ifFalse, trueStep, falseStep]
    · rename_i isOther
      obtain ⟨noTrue, noFalse, noTrueStep, noFalseStep⟩ :=
        unbranched fun typed => isOther (by rw [typed]; rfl)
      rw [noTrue, noFalse, noTrueStep, noFalseStep]
      rfl
  have rounds : (if (Fields.valueOf "type" fields).isText "loop" then
      tallyBlock keys fields "loop" "steps" else .empty) =
        tally keys (subtrees ((step.loop.map LoopBlock.steps).getD [])) := by
    split
    · exact loop
    · rename_i isOther
      rw [unrepeated fun typed => isOther (by rw [typed]; rfl)]
      rfl
  calc tallyStep keys (.object fields)
    _ = tally keys [step] ++ tally keys (subtrees step.children) := by
      rw [tallyStep, tallyHead_of_readFields isRead, branches, rounds, retry, recovery, primary,
        alternative, ← flatMap_placedChildren path step]
      simp only [placedChildren, List.flatMap_cons, List.flatMap_nil, List.append_nil,
        subtrees_append, tally_append, Tally.append_assoc]
    _ = tally keys (subtree step) := by rw [← tally_append, subtree_eq, List.singleton_append]

theorem counts (keys : List String) (step : Step) : Counts keys step :=
  inductionOnChildren Counts.ofChildren step

end Step

namespace Statistics

open Validation

variable {keys : List String} {data : Value} {blueprint : Blueprint}

end Statistics

end Automation
