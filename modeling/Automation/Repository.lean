import Automation.Entries

/-!
Keyed repositories.

A key may be held without a value. Such a key is listed, but it counts as absent where the value is
asked for.
-/

namespace Automation

universe u

/-- Values under keys, oldest first. -/
abbrev Repository (α : Type u) := Entries (Option α)

namespace Repository

variable {α : Type u}

/-- The value under a key. -/
def get? (key : String) (repository : Repository α) : Option α :=
  (Entries.get? key repository).join

/-- Whether there is a value under a key. -/
def has (key : String) (repository : Repository α) : Bool := (get? key repository).isSome

/-- Hold a value, or none, under a key. -/
def put (key : String) (value : Option α) (repository : Repository α) : Repository α :=
  Entries.put key value repository

/-- Remove a key, and say whether there was a value under it. -/
def remove (key : String) (repository : Repository α) : Bool × Repository α :=
  (has key repository, Entries.erase key repository)

/-- The keys, oldest first. -/
def keys (repository : Repository α) : List String := Entries.keys repository

end Repository
end Automation
