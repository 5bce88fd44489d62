import Automation.Run.Table

/-!
Stores for rehearsals: `recording` keeps every record that it is handed and can refuse some of them;
times of creation come from a calendar that moves on by a second.
-/

namespace Automation.Rehearsal

/-- A store with the records handed to it so far, latest first. -/
structure Recording (τ : Type) where
  contents : τ
  handed : List RunRecord

/-- A store that keeps what it is handed. `refusals` gives the messages of the records that it
refuses, by their number, counted from one. -/
def recording {τ : Type} (store : RunStore τ) (refusals : Nat → Option String) :
    RunStore (Recording τ) :=
  { upsert := fun record state =>
      let handed := record :: state.handed
      match refusals handed.length with
      | some message => (.error (.raised "RuntimeError" message), { state with handed := handed })
      | none =>
          match store.upsert record state.contents with
          | (ended, contents) => (ended, ⟨contents, handed⟩)
    get? := fun id state => store.get? id state.contents
    list := fun filter state => store.list filter state.contents
    announce := store.announce }

/-- A point in time for every number, later ones for greater numbers. -/
def moment (number : Nat) : Timestamp :=
  ⟨2026 + number / 2419200, 1, 1 + number / 86400 % 28, number / 3600 % 24, number / 60 % 60,
    number % 60, 0, 0⟩

end Automation.Rehearsal
