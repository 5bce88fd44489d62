import Automation.Dispatch
import Mathlib.Data.List.Forall2

/-!
What waiting for tasks gives.

A gathering gives nothing while one of its tasks goes on and none of them ended without a result.
Once each of them has its result, it gives these.
-/

namespace Automation

namespace TaskEnds

variable {ends : TaskEnds} {tasks : List Nat} {task : Nat} {result : ExecutionResult}

/-- Tasks of which none ended without a result. -/
def AllGood (ends : TaskEnds) (tasks : List Nat) : Prop :=
  ∀ entry ∈ ends, entry.1 ∈ tasks → ∃ result, entry.2 = .done result

theorem stop?_eq_none_iff {entry : Nat × Outcome ExecutionResult} :
    stop? tasks entry = none ↔ (entry.1 ∈ tasks → ∃ result, entry.2 = .done result) := by
  obtain ⟨task, ended⟩ := entry
  cases ended <;> simp [stop?]

theorem findSome?_stop?_eq_none_iff : ends.findSome? (stop? tasks) = none ↔ ends.AllGood tasks := by
  rw [List.findSome?_eq_none_iff]
  exact forall₂_congr fun _ _ => stop?_eq_none_iff

theorem stop?_ne_done {entry : Nat × Outcome ExecutionResult} {results : List ExecutionResult} :
    stop? tasks entry ≠ some (.done results) := by
  obtain ⟨task, ended⟩ := entry
  cases ended <;> simp [stop?]

theorem gather_of_allGood (good : ends.AllGood tasks) :
    ends.gather tasks = Outcome.done <$> tasks.mapM ends.result? := by
  rw [gather, findSome?_stop?_eq_none_iff.mpr good]

theorem isSome_gather_of_not_allGood (bad : ¬ends.AllGood tasks) :
    (ends.gather tasks).isSome = true := by
  rw [gather]
  cases stopped : ends.findSome? (stop? tasks) with
  | none => exact absurd (findSome?_stop?_eq_none_iff.mp stopped) bad
  | some ended => rfl

theorem mem_of_result?_eq_some (found : ends.result? task = some result) :
    (task, .done result) ∈ ends := by
  obtain ⟨⟨other, ended⟩, member, gives⟩ := List.exists_of_findSome?_eq_some found
  cases ended with
  | done given =>
      obtain ⟨rfl, rfl⟩ : other = task ∧ given = result := by simpa using gives
      exact member
  | failed | cancelled => cases gives

theorem isSome_result?_iff :
    (ends.result? task).isSome ↔ ∃ result, (task, .done result) ∈ ends := by
  constructor
  · intro found
    obtain ⟨result, found⟩ := Option.isSome_iff_exists.mp found
    exact ⟨result, mem_of_result?_eq_some found⟩
  · rintro ⟨result, member⟩
    refine List.findSome?_isSome_iff.mpr ⟨_, member, ?_⟩
    simp

theorem mapM_result?_eq_some_iff {results : List ExecutionResult} :
    tasks.mapM ends.result? = some results ↔
      List.Forall₂ (fun task result => ends.result? task = some result) tasks results := by
  induction tasks generalizing results with
  | nil => simp [eq_comm]
  | cons task rest inductionHypothesis =>
      simp only [List.mapM_cons, Option.bind_eq_bind, Option.bind_eq_some_iff, Option.pure_def,
        Option.some.injEq, inductionHypothesis, List.forall₂_cons_left_iff]
      constructor
      · rintro ⟨result, found, others, further, rfl⟩
        exact ⟨result, others, found, further, rfl⟩
      · rintro ⟨result, others, found, further, rfl⟩
        exact ⟨result, found, others, further, rfl⟩

theorem mapM_result?_eq_none_iff :
    tasks.mapM ends.result? = none ↔ ∃ task ∈ tasks, ends.result? task = none := by
  induction tasks with
  | nil => simp
  | cons task rest inductionHypothesis =>
      rw [List.mapM_cons, List.exists_mem_cons_iff, ← inductionHypothesis]
      cases ends.result? task <;> cases rest.mapM ends.result? <;> simp

theorem result?_eq_none_iff_of_allGood (good : ends.AllGood tasks) (member : task ∈ tasks) :
    ends.result? task = none ↔ task ∉ ends.map Prod.fst := by
  rw [← Option.isNone_iff_eq_none, ← Option.not_isSome, Bool.not_eq_true', ← Bool.not_eq_true,
    isSome_result?_iff, not_iff_not]
  constructor
  · rintro ⟨result, ended⟩
    exact List.mem_map.mpr ⟨_, ended, rfl⟩
  · intro listed
    obtain ⟨⟨other, ended⟩, isEnd, rfl⟩ := List.mem_map.mp listed
    obtain ⟨result, rfl⟩ := good _ isEnd member
    exact ⟨result, isEnd⟩

/-- A gathering gives results exactly if each of its tasks has ended with one and none of them
without. -/
theorem gather_eq_done_iff {results : List ExecutionResult} :
    ends.gather tasks = some (.done results) ↔ ends.AllGood tasks ∧
      List.Forall₂ (fun task result => ends.result? task = some result) tasks results := by
  by_cases good : ends.AllGood tasks
  · rw [gather_of_allGood good, ← mapM_result?_eq_some_iff]
    simp [good]
  · constructor
    · intro gives
      rw [gather] at gives
      cases stopped : ends.findSome? (stop? tasks) with
      | none => exact absurd (findSome?_stop?_eq_none_iff.mp stopped) good
      | some ended =>
          rw [stopped] at gives
          obtain ⟨entry, -, stops⟩ := List.exists_of_findSome?_eq_some stopped
          cases gives
          exact absurd stops stop?_ne_done
    · exact fun both => absurd both.1 good

/-- A gathering of tasks of which none ended without a result gives nothing else than results. -/
theorem exists_results_of_gather {outcome : Outcome (List ExecutionResult)}
    (good : ends.AllGood tasks) (gives : ends.gather tasks = some outcome) :
    ∃ results, outcome = .done results := by
  rw [gather_of_allGood good, Option.map_eq_map, Option.map_eq_some_iff] at gives
  obtain ⟨results, -, rfl⟩ := gives
  exact ⟨results, rfl⟩

/-- A gathering goes on exactly while one of its tasks has not ended and none of them ended without
a result. -/
theorem gather_eq_none_iff :
    ends.gather tasks = none ↔
      ends.AllGood tasks ∧ ∃ task ∈ tasks, task ∉ ends.map Prod.fst := by
  by_cases good : ends.AllGood tasks
  · rw [gather_of_allGood good, Option.map_eq_map, Option.map_eq_none_iff,
      mapM_result?_eq_none_iff, and_iff_right good]
    exact exists_congr fun task => and_congr_right (result?_eq_none_iff_of_allGood good)
  · have gives := isSome_gather_of_not_allGood good
    rw [Option.isSome_iff_ne_none] at gives
    exact ⟨fun none => absurd none gives, fun both => absurd both.1 good⟩

/-- Tasks that have all ended, none of them without a result, are gathered. -/
theorem exists_gather_eq_done (good : ends.AllGood tasks)
    (all : ∀ task ∈ tasks, task ∈ ends.map Prod.fst) :
    ∃ results, ends.gather tasks = some (.done results) := by
  cases gives : ends.gather tasks with
  | none =>
      obtain ⟨-, task, member, absent⟩ := gather_eq_none_iff.mp gives
      exact absurd (all task member) absent
  | some outcome =>
      obtain ⟨results, rfl⟩ := exists_results_of_gather good gives
      exact ⟨results, rfl⟩

theorem mem_of_gather {results : List ExecutionResult}
    (gives : ends.gather tasks = some (.done results)) (member : task ∈ tasks) :
    task ∈ ends.map Prod.fst := by
  by_contra absent
  have goesOn := gather_eq_none_iff.mpr ⟨(gather_eq_done_iff.mp gives).1, task, member, absent⟩
  cases gives.symm.trans goesOn

end TaskEnds

/-- A wait for all runs gives nothing before each outstanding task has ended, unless one of them
ended without a result. Then it gives the results of the tasks, in their order. -/
theorem Dispatcher.waitAll_eq_done_iff {dispatcher : Dispatcher} {ends : TaskEnds}
    {results : List ExecutionResult} :
    dispatcher.waitAll ends = some (.done results) ↔ ends.AllGood dispatcher.tasks ∧
      List.Forall₂ (fun task result => ends.result? task = some result) dispatcher.tasks results :=
  TaskEnds.gather_eq_done_iff

end Automation
