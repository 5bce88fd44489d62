import Automation.Proofs.Fallible
import Automation.Run.Backend

/-!
Transactions are all or nothing.

A table holds values that a column holds and no others, whatever transactions are tried on it, and
a transaction that fails leaves it as it was. So after any number of them it has the values of those
that went through, in order.
-/

namespace Automation.Backend

/-- A value as a column holds it is held as it is. -/
theorem column_of_column {value held : Value} (holds : column value = .ok held) :
    column held = .ok held := by
  cases value with
  | int number =>
      simp only [column] at holds
      split at holds
      · cases holds
        rw [column]
        exact if_pos ‹_›
      · cases holds
  | bool truth =>
      cases holds
      cases truth <;> rfl
  | float number => cases number <;> cases holds <;> rfl
  | null | text _ =>
      cases holds
      rfl
  | list _ | object _ | mapping _ | «foreign» _ _ => cases holds

/-- Whether every row of a table is a value that a column holds. -/
def IsSound (backend : Backend) : Prop := ∀ row ∈ backend.rows, column row = .ok row

theorem isSound_empty (persistent : Bool) : IsSound ⟨[], persistent⟩ := nofun

variable {backend : Backend} {steps : List (Except Failure Value)}

theorem transact_of_failed {failure : Failure}
    (failed : (transact steps backend).1 = .error failure) :
    (transact steps backend).2 = backend := by
  unfold transact at failed ⊢
  split
  · next inserted found =>
      rw [found] at failed
      cases failed
  · rfl

/-- A transaction goes through where each of its steps gives a value that a column holds. -/
theorem transact_eq_ok_iff :
    (transact steps backend).1 = .ok () ↔ ∃ values, inserted steps = .ok values := by
  unfold transact
  split
  · next values found => exact ⟨fun _ => ⟨values, found⟩, fun _ => rfl⟩
  · next failure found =>
      constructor
      · nofun
      · rintro ⟨values, same⟩
        rw [found] at same
        cases same

theorem rows_transact :
    (transact steps backend).2.rows = backend.rows ++ (inserted steps).toOption.getD [] := by
  unfold transact
  cases inserted steps with
  | ok values => rfl
  | error failure => exact (List.append_nil _).symm

theorem column_of_mem_inserted {values : List Value} (held : inserted steps = .ok values)
    {value : Value} (member : value ∈ values) : column value = .ok value := by
  induction steps generalizing values with
  | nil =>
      cases held
      cases member
  | cons step rest inductionHypothesis =>
      rw [inserted, List.mapM_cons] at held
      obtain ⟨first, isFirst, others⟩ := bind_eq_ok_iff.mp held
      obtain ⟨remaining, areRemaining, same⟩ := bind_eq_ok_iff.mp others
      cases same
      rcases List.mem_cons.mp member with rfl | inRest
      · obtain ⟨given, -, holds⟩ := bind_eq_ok_iff.mp isFirst
        exact column_of_column holds
      · exact inductionHypothesis areRemaining inRest

theorem IsSound.transact (sound : backend.IsSound) (steps : List (Except Failure Value)) :
    (Backend.transact steps backend).2.IsSound := by
  intro row member
  rw [rows_transact] at member
  rcases List.mem_append.mp member with before | isNew
  · exact sound row before
  · cases held : inserted steps with
    | ok values =>
        rw [held] at isNew
        exact column_of_mem_inserted held isNew
    | error failure =>
        rw [held] at isNew
        cases isNew

theorem IsSound.reopen (sound : backend.IsSound) : backend.reopen.IsSound := by
  unfold Backend.reopen
  split
  · exact sound
  · exact isSound_empty _

/-- A table after some transactions. -/
def transactAll (transactions : List (List (Except Failure Value))) (backend : Backend) : Backend :=
  transactions.foldl (fun backend steps => (transact steps backend).2) backend

/-- The values of the transactions that go through, in order. -/
def committed (transactions : List (List (Except Failure Value))) : List Value :=
  transactions.flatMap fun steps => (inserted steps).toOption.getD []

theorem isSound_transactAll (sound : backend.IsSound)
    (transactions : List (List (Except Failure Value))) :
    (backend.transactAll transactions).IsSound := by
  induction transactions generalizing backend with
  | nil => exact sound
  | cons steps rest inductionHypothesis => exact inductionHypothesis (sound.transact steps)

/-- A table has the values of the transactions that went through, and nothing of the others. -/
theorem rows_transactAll (transactions : List (List (Except Failure Value))) :
    (backend.transactAll transactions).rows = backend.rows ++ committed transactions := by
  induction transactions generalizing backend with
  | nil => exact (List.append_nil _).symm
  | cons steps rest inductionHypothesis =>
      have first : committed (steps :: rest) =
          (inserted steps).toOption.getD [] ++ committed rest := List.flatMap_cons
      rw [transactAll, List.foldl_cons, ← transactAll, inductionHypothesis, rows_transact,
        List.append_assoc, first]

/-- What is found in a table is one of its rows, and it equals what was looked for, as a column
holds it. -/
theorem mem_of_find {wanted found : Value} (isFound : backend.find wanted = .ok (some found)) :
    found ∈ backend.rows ∧ ∃ held, column wanted = .ok held ∧ found.equals held = true := by
  obtain ⟨held, holds, isFirst⟩ := bind_eq_ok_iff.mp isFound
  rw [Except.ok.injEq] at isFirst
  by_cases isNull : held.isNull = true
  · rw [if_pos isNull] at isFirst
    cases isFirst
  · rw [if_neg isNull] at isFirst
    have equal := @List.find?_some _ (fun row : Value => row.equals held) _ _ isFirst
    exact ⟨List.mem_of_find?_eq_some isFirst, held, holds, equal⟩

end Automation.Backend
