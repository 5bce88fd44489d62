import Automation.Failure

/-!
Computations that may fail.

A chain of fallible computations succeeds exactly where every link does. The lemmas take a
success apart into the results of its links.
-/

namespace Automation

variable {ε α β : Type}

theorem bind_eq_ok_iff {first : Except ε α} {next : α → Except ε β} {result : β} :
    first >>= next = .ok result ↔ ∃ value, first = .ok value ∧ next value = .ok result := by
  cases first <;> simp [bind, Except.bind]

theorem bind_eq_error_iff {first : Except ε α} {next : α → Except ε β} {failure : ε} :
    first >>= next = .error failure ↔
      first = .error failure ∨ ∃ value, first = .ok value ∧ next value = .error failure := by
  cases first <;> simp [bind, Except.bind]

theorem map_eq_ok_iff {first : Except ε α} {f : α → β} {result : β} :
    f <$> first = .ok result ↔ ∃ value, first = .ok value ∧ f value = result := by
  cases first <;> simp [Functor.map, Except.map]

@[simp]
theorem ok_bind (value : α) (next : α → Except ε β) : Except.ok value >>= next = next value := rfl

@[simp]
theorem error_bind (failure : ε) (next : α → Except ε β) :
    Except.error failure >>= next = .error failure := rfl

@[simp]
theorem map_ok (f : α → β) (value : α) : f <$> (Except.ok value : Except ε α) = .ok (f value) := rfl

@[simp]
theorem map_error (f : α → β) (failure : ε) :
    f <$> (Except.error failure : Except ε α) = .error failure := rfl

@[simp]
theorem toOption_ok (value : α) : (Except.ok value : Except ε α).toOption = some value := rfl

@[simp]
theorem toOption_error (failure : ε) : (Except.error failure : Except ε α).toOption = none := rfl

theorem toOption_bind (first : Except ε α) (next : α → Except ε β) :
    (first >>= next).toOption = first.toOption.bind fun value => (next value).toOption := by
  cases first <;> rfl

theorem toOption_eq_some_iff {first : Except ε α} {value : α} :
    first.toOption = some value ↔ first = .ok value := by
  cases first <;> simp

theorem toOption_eq_none_iff {first : Except ε α} :
    first.toOption = none ↔ ∃ failure, first = .error failure := by
  cases first <;> simp

/-- A list is mapped without a failure exactly where each of its items is. -/
theorem exists_mapM_eq_ok_iff {next : α → Except ε β} {items : List α} :
    (∃ results, items.mapM next = .ok results) ↔
      ∀ item ∈ items, ∃ result, next item = .ok result := by
  induction items with
  | nil => simp [pure, Except.pure]
  | cons item rest inductionHypothesis =>
      rw [List.forall_mem_cons, ← inductionHypothesis, List.mapM_cons]
      cases next item <;> cases rest.mapM next <;> simp [pure, Except.pure]

/-- A list that is not mapped fails as the first item that fails. -/
theorem mapM_eq_error_iff {next : α → Except ε β} {items : List α} {failure : ε} :
    items.mapM next = .error failure ↔ ∃ earlier item later, items = earlier ++ item :: later
      ∧ (∀ other ∈ earlier, ∃ result, next other = .ok result) ∧ next item = .error failure := by
  induction items with
  | nil => simp [pure, Except.pure]
  | cons item rest inductionHypothesis =>
      rw [List.mapM_cons, bind_eq_error_iff]
      constructor
      · rintro (failed | ⟨result, first, failed⟩)
        · exact ⟨[], item, rest, rfl, nofun, failed⟩
        · have failed : rest.mapM next = .error failure := by
            cases others : rest.mapM next with
            | error failure' => simpa [others] using failed
            | ok results => simp [others, pure, Except.pure] at failed
          obtain ⟨earlier, other, later, rfl, each, failed⟩ := inductionHypothesis.mp failed
          have each := List.forall_mem_cons.mpr ⟨⟨result, first⟩, each⟩
          exact ⟨item :: earlier, other, later, rfl, each, failed⟩
      · rintro ⟨earlier, other, later, split, each, failed⟩
        cases earlier with
        | nil =>
            obtain ⟨rfl, -⟩ := List.cons.inj split
            exact .inl failed
        | cons head earlier =>
            obtain ⟨rfl, rfl⟩ := List.cons.inj split
            obtain ⟨⟨result, first⟩, each⟩ := List.forall_mem_cons.mp each
            have failed := inductionHypothesis.mpr ⟨earlier, other, later, rfl, each, failed⟩
            exact .inr ⟨result, first, by rw [failed, error_bind]⟩

/-- A computation whose failures are all of one sort. -/
def FailsOnly (sort : ε → Prop) (result : Except ε α) : Prop :=
  ∀ failure, result = .error failure → sort failure

namespace FailsOnly

variable {sort : ε → Prop} {first : Except ε α}

theorem ok (value : α) : FailsOnly sort (Except.ok value) := nofun

theorem error {failure : ε} (sorted : sort failure) :
    FailsOnly sort (Except.error failure : Except ε α) := by
  rintro _ ⟨⟩
  exact sorted

theorem bind {next : α → Except ε β} (fails : FailsOnly sort first)
    (further : ∀ value, FailsOnly sort (next value)) : FailsOnly sort (first >>= next) := by
  intro failure failed
  rcases bind_eq_error_iff.mp failed with failedFirst | ⟨value, _, failedLater⟩
  · exact fails failure failedFirst
  · exact further value failure failedLater

theorem map (f : α → β) (fails : FailsOnly sort first) : FailsOnly sort (f <$> first) := by
  cases first with
  | ok value => exact ok (f value)
  | error failure => exact error (fails failure rfl)

end FailsOnly

/-- A list is not mapped where an item fails, if there is only one failure. -/
theorem mapM_eq_error_iff_of_failsOnly {next : α → Except ε β} {items : List α} {only failure : ε}
    (same : ∀ item, FailsOnly (· = only) (next item)) :
    items.mapM next = .error failure ↔
      (∃ item ∈ items, next item = .error only) ∧ failure = only := by
  have fails {other : ε} (failed : items.mapM next = .error other) :
      (∃ item ∈ items, next item = .error only) ∧ other = only := by
    obtain ⟨earlier, item, later, rfl, _, failed⟩ := mapM_eq_error_iff.mp failed
    obtain rfl : other = only := same item other failed
    exact ⟨⟨item, by simp, failed⟩, rfl⟩
  refine ⟨fails, ?_⟩
  rintro ⟨⟨item, member, failed⟩, rfl⟩
  cases mapped : items.mapM next with
  | error other => rw [(fails mapped).2]
  | ok results =>
      obtain ⟨_, isOk⟩ := exists_mapM_eq_ok_iff.mp ⟨results, mapped⟩ item member
      simp [failed] at isOk

end Automation
