import Automation.Blueprint.Basic
import Automation.Proofs.Blueprint.Tree

/-!
The order in which the steps of a blueprint are visited.

`Visits` is the loop of a visit without a bound on its turns: the top of the stack is yielded, and
its children go on top of the rest. From every stack the loop comes to an end, within the turns that
`preorder` has, and what it yields is the recursive preorder.

A step is told from an equal one by its position, which counts the way down to it; `at?` follows a
position. The visit comes to every position of the tree once, in lexicographic order.
-/

namespace Automation

namespace Step

variable {step : Step} {steps stack visited : List Step}

theorem subtrees_append (first second : List Step) :
    subtrees (first ++ second) = subtrees first ++ subtrees second := by
  induction first with
  | nil => rfl
  | cons step rest inductionHypothesis =>
      calc subtree step ++ subtrees (rest ++ second)
        _ = subtree step ++ (subtrees rest ++ subtrees second) := by rw [inductionHypothesis]
        _ = subtree step ++ subtrees rest ++ subtrees second := (List.append_assoc ..).symm

theorem subtrees_toList (branch : Option Step) :
    subtrees branch.toList = branch.elim [] subtree := by
  cases branch with
  | none => rfl
  | some step => exact List.append_nil (subtree step)

theorem subtrees_conditionSteps (condition : Option (ConditionBlock Step)) :
    subtrees (conditionSteps condition) =
      condition.elim [] fun block => subtrees block.ifTrue ++ subtrees block.ifFalse := by
  rcases condition with _ | ⟨_, ifTrue, ifFalse⟩
  · rfl
  · exact subtrees_append ifTrue ifFalse

theorem subtrees_retrySteps (retry : Option (RetryBlock Step)) :
    subtrees (retrySteps retry) =
      retry.elim [] fun block => subtrees block.steps ++ subtrees block.recovery := by
  rcases retry with _ | ⟨_, _, steps, recovery⟩
  · rfl
  · exact subtrees_append steps recovery

theorem subtrees_fallbackSteps (fallback : Option (FallbackBlock Step)) :
    subtrees (fallbackSteps fallback) =
      fallback.elim [] fun block => subtrees block.primary ++ subtrees block.alternative := by
  rcases fallback with _ | ⟨primary, alternative⟩
  · rfl
  · exact subtrees_append primary alternative

/-- The preorder of a step is the step, then the preorder of its children. -/
theorem subtree_eq (step : Step) : subtree step = step :: subtrees step.children := by
  obtain ⟨header, condition, loop, retry, fallback, trueStep, falseStep⟩ := step
  rw [children]
  simp only [subtrees_append, subtrees_toList, subtrees_conditionSteps, subtrees_retrySteps,
    subtrees_fallbackSteps]
  -- The recursion over the blocks only reduces where it is known which of them are there.
  cases condition <;> cases loop <;> cases retry <;> cases fallback <;> cases trueStep <;>
    cases falseStep <;> rfl

theorem subtrees_cons (step : Step) (rest : List Step) :
    subtrees (step :: rest) = step :: subtrees (step.children ++ rest) := by
  calc subtree step ++ subtrees rest
    _ = step :: (subtrees step.children ++ subtrees rest) := by rw [subtree_eq, List.cons_append]
    _ = step :: subtrees (step.children ++ rest) := by rw [subtrees_append]

theorem count_cons (step : Step) (rest : List Step) :
    count (step :: rest) = count (step.children ++ rest) + 1 := by
  rw [count, subtrees_cons, List.length_cons, count]

/-- What is yielded from a stack until the stack is empty. -/
inductive Visits : (stack visited : List Step) → Prop where
  | done : Visits [] []
  | turn {step : Step} {stack visited : List Step}
      (rest : Visits (step.children ++ stack) visited) : Visits (step :: stack) (step :: visited)

theorem Visits.eq_subtrees (visits : Visits stack visited) : visited = subtrees stack := by
  induction visits with
  | done => rfl
  | turn _ inductionHypothesis => rw [subtrees_cons, inductionHypothesis]

/-- As many turns as there are steps in the trees on the stack empty it. -/
theorem visits_visit {fuel : Nat} (enough : count stack ≤ fuel) :
    Visits stack (visit fuel stack) := by
  induction fuel generalizing stack with
  | zero =>
      cases stack with
      | nil => exact .done
      | cons step rest => rw [count_cons] at enough; omega
  | succ fuel inductionHypothesis =>
      cases stack with
      | nil => exact .done
      | cons step rest =>
          rw [count_cons] at enough
          exact .turn (inductionHypothesis (by omega))

theorem visits_iff : Visits stack visited ↔ visited = preorder stack := by
  have ended : Visits stack (preorder stack) := visits_visit (Nat.le_refl _)
  constructor
  · intro visits
    rw [visits.eq_subtrees, ended.eq_subtrees]
  · rintro rfl
    exact ended

theorem preorder_eq_subtrees (steps : List Step) : preorder steps = subtrees steps :=
  (visits_iff.mpr rfl).eq_subtrees

theorem preorder_eq_flatMap (steps : List Step) :
    preorder steps = steps.flatMap fun step => step :: preorder step.children := by
  induction steps with
  | nil => rfl
  | cons step rest inductionHypothesis =>
      calc preorder (step :: rest)
        _ = subtree step ++ subtrees rest := preorder_eq_subtrees _
        _ = (step :: preorder step.children) ++ preorder rest := by
          rw [subtree_eq, preorder_eq_subtrees, preorder_eq_subtrees]
        _ = _ := by rw [inductionHypothesis, List.flatMap_cons]

/-- The step that a position inside a step leads to: to the step itself, or on from a child. -/
def descend? (step : Step) : (position : List Nat) → Option Step
  | [] => some step
  | index :: position => step.children[index]?.bind fun child => child.descend? position

/-- The step that a position in the trees of a list leads to. -/
def at? (steps : List Step) : (position : List Nat) → Option Step
  | [] => none
  | index :: position => steps[index]?.bind fun step => step.descend? position

/-- All positions that lead to a step, in order, with the steps that they lead to. -/
structure Enumerates (leadsTo : List Nat → Option Step) (positions : List (List Nat))
    (found : List Step) : Prop where
  ordered : positions.Pairwise (· < ·)
  mem_iff : ∀ position, position ∈ positions ↔ (leadsTo position).isSome = true
  map_eq : positions.map leadsTo = found.map some

namespace Enumerates

variable {leadsTo : List Nat → Option Step} {positions further : List (List Nat)}
  {found others : List Step}

theorem nodup (enumerates : Enumerates leadsTo positions found) : positions.Nodup :=
  enumerates.ordered.imp fun {first second} before => by
    rintro rfl
    exact List.lt_irrefl first before

theorem nil : Enumerates (at? []) [] [] where
  ordered := .nil
  mem_iff position := by cases position <;> simp [at?]
  map_eq := rfl

theorem ofChildren (inside : Enumerates (at? step.children) positions found) :
    Enumerates step.descend? ([] :: positions) (step :: found) where
  ordered := by
    refine List.pairwise_cons.mpr ⟨fun position member => ?_, inside.ordered⟩
    cases position with
    | nil => simp [inside.mem_iff, at?] at member
    | cons index position => exact List.nil_lt_cons index position
  mem_iff position := by
    cases position with
    | nil => simp [descend?]
    | cons index position =>
        rw [List.mem_cons, or_iff_right (List.cons_ne_nil index position)]
        exact inside.mem_iff (index :: position)
  map_eq := by
    have same : positions.map step.descend? = positions.map (at? step.children) := by
      refine List.map_congr_left fun position member => ?_
      cases position with
      | nil => simp [inside.mem_iff, at?] at member
      | cons index position => rfl
    rw [List.map_cons, List.map_cons, same, inside.map_eq, descend?]

/-- A step in front moves the position of every other one by one. -/
def moved (position : List Nat) : List Nat := position.modifyHead (· + 1)

theorem moved_lt_moved {first second : List Nat} (before : first < second) :
    moved first < moved second := by
  cases first with
  | nil =>
      cases second with
      | nil => exact absurd before (List.lt_irrefl [])
      | cons index position => exact List.nil_lt_cons _ _
  | cons index position =>
      cases second with
      | nil => exact absurd before (List.not_lt_nil _)
      | cons other rest =>
          simp only [moved, List.modifyHead_cons, List.cons_lt_cons_iff] at before ⊢
          exact before.imp Nat.succ_lt_succ (And.imp_left (congrArg Nat.succ))

theorem mem_map_moved_iff {index : Nat} {position : List Nat} {positions : List (List Nat)} :
    (index + 1) :: position ∈ positions.map moved ↔ index :: position ∈ positions := by
  rw [List.mem_map]
  constructor
  · rintro ⟨before, member, same⟩
    cases before with
    | nil => simp [moved] at same
    | cons other rest =>
        simp only [moved, List.modifyHead_cons, List.cons.injEq, Nat.add_right_cancel_iff] at same
        obtain ⟨rfl, rfl⟩ := same
        exact member
  · exact fun member => ⟨_, member, rfl⟩

theorem not_mem_map_moved {position : List Nat} {positions : List (List Nat)} :
    0 :: position ∉ positions.map moved := by
  rintro member
  obtain ⟨before, -, same⟩ := List.mem_map.mp member
  cases before <;> simp [moved] at same

theorem at?_moved (position : List Nat) :
    at? (step :: steps) (moved position) = at? steps position := by
  cases position <;> simp [moved, at?]

theorem cons (first : Enumerates step.descend? positions found)
    (rest : Enumerates (at? steps) further others) :
    Enumerates (at? (step :: steps)) (positions.map (0 :: ·) ++ further.map moved)
      (found ++ others) where
  ordered := by
    refine List.pairwise_append.mpr ⟨?_, ?_, ?_⟩
    · refine List.pairwise_map.mpr (first.ordered.imp fun before => ?_)
      exact List.cons_lt_cons_iff.mpr (.inr ⟨rfl, before⟩)
    · exact List.pairwise_map.mpr (rest.ordered.imp moved_lt_moved)
    · intro early inFirst late inRest
      obtain ⟨position, -, rfl⟩ := List.mem_map.mp inFirst
      obtain ⟨other, member, rfl⟩ := List.mem_map.mp inRest
      cases other with
      | nil => simp [rest.mem_iff, at?] at member
      | cons index other => exact List.cons_lt_cons_iff.mpr (.inl (Nat.succ_pos index))
  mem_iff position := by
    rcases position with _ | ⟨_ | index, position⟩
    · have outside : [] ∉ further := by simp [rest.mem_iff, at?]
      have elsewhere : [] ∉ further.map moved := by
        rintro member
        obtain ⟨before, member, same⟩ := List.mem_map.mp member
        cases before with
        | nil => exact outside member
        | cons index position => simp [moved] at same
      simp [elsewhere, at?]
    · have here : 0 :: position ∈ positions.map (0 :: ·) ↔ position ∈ positions := by simp
      rw [List.mem_append, or_iff_left not_mem_map_moved, here]
      exact first.mem_iff position
    · have elsewhere : (index + 1) :: position ∉ positions.map (0 :: ·) := by simp
      rw [List.mem_append, or_iff_right elsewhere, mem_map_moved_iff]
      exact rest.mem_iff (index :: position)
  map_eq := by
    have early (position : List Nat) :
        at? (step :: steps) (0 :: position) = step.descend? position := rfl
    rw [List.map_append, List.map_map, List.map_map, List.map_append, ← first.map_eq,
      ← rest.map_eq]
    simp only [Function.comp_def, at?_moved, early]

end Enumerates

theorem exists_enumerates_of_each (each : ∀ step ∈ steps, ∃ positions,
    Enumerates step.descend? positions (subtree step)) :
    ∃ positions, Enumerates (at? steps) positions (subtrees steps) := by
  induction steps with
  | nil => exact ⟨[], .nil⟩
  | cons step rest inductionHypothesis =>
      obtain ⟨⟨_, first⟩, each⟩ := List.forall_mem_cons.mp each
      obtain ⟨_, others⟩ := inductionHypothesis each
      exact ⟨_, first.cons others⟩

theorem exists_enumerates_subtree (step : Step) :
    ∃ positions, Enumerates step.descend? positions (subtree step) := by
  induction step using inductionOnChildren with
  | inherit step each =>
      obtain ⟨_, inside⟩ := exists_enumerates_of_each each
      rw [subtree_eq]
      exact ⟨_, inside.ofChildren⟩

theorem exists_enumerates_preorder (steps : List Step) :
    ∃ positions, Enumerates (at? steps) positions (preorder steps) := by
  rw [preorder_eq_subtrees]
  exact exists_enumerates_of_each fun step _ => exists_enumerates_subtree step

theorem mem_preorder_iff :
    step ∈ preorder steps ↔ ∃ position, at? steps position = some step := by
  obtain ⟨positions, enumerates⟩ := exists_enumerates_preorder steps
  have found : some step ∈ positions.map (at? steps) ↔ step ∈ preorder steps := by
    simp [enumerates.map_eq]
  rw [← found, List.mem_map]
  constructor
  · exact fun ⟨position, _, leads⟩ => ⟨position, leads⟩
  · intro ⟨position, leads⟩
    have member : position ∈ positions :=
      (enumerates.mem_iff position).mpr (by rw [leads, Option.isSome_some])
    exact ⟨position, member, leads⟩

theorem find?_eq_some_iff {id : String} :
    find? id steps = some step ↔ step.id = id ∧ ∃ earlier later,
      preorder steps = earlier ++ step :: later ∧ ∀ other ∈ earlier, other.id ≠ id := by
  simp [find?, List.find?_eq_some_iff_append]

theorem find?_eq_none_iff {id : String} :
    find? id steps = none ↔ ∀ position step, at? steps position = some step → step.id ≠ id := by
  simp only [find?, List.find?_eq_none, mem_preorder_iff, beq_iff_eq, forall_exists_index]
  exact forall_comm

end Step

/-- A blueprint's steps are visited in the recursive preorder of its trees, by a loop that ends, and
each position of the trees is come to once. The step found by its id is the first one with that id
in this order; none is found only where no position has one. -/
theorem Blueprint.allSteps_in_preorder (blueprint : Blueprint) (id : String) :
    (∀ visited, Step.Visits blueprint.steps visited ↔ visited = blueprint.allSteps)
      ∧ blueprint.allSteps = Step.preorder blueprint.steps
      ∧ (∀ steps : List Step, Step.preorder steps =
          steps.flatMap fun step => step :: Step.preorder step.children)
      ∧ (∃ positions, positions.Nodup ∧
          Step.Enumerates (Step.at? blueprint.steps) positions blueprint.allSteps)
      ∧ (∀ step, blueprint.find? id = some step ↔ step.id = id ∧ ∃ earlier later,
          blueprint.allSteps = earlier ++ step :: later ∧ ∀ other ∈ earlier, other.id ≠ id)
      ∧ (blueprint.find? id = none ↔
          ∀ position step, Step.at? blueprint.steps position = some step → step.id ≠ id) := by
  obtain ⟨positions, enumerates⟩ := Step.exists_enumerates_preorder blueprint.steps
  exact ⟨fun _ => Step.visits_iff, rfl, Step.preorder_eq_flatMap,
    ⟨positions, enumerates.nodup, enumerates⟩, fun _ => Step.find?_eq_some_iff,
    Step.find?_eq_none_iff⟩

end Automation
