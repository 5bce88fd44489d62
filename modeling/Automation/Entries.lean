/-!
Maps from names to values that remember the order of insertion.

A name that is put again keeps its first place and takes the new value, so the names of a map that
is built by `put` are distinct.
-/

namespace Automation

universe u

/-- Names with their values, oldest first. -/
abbrev Entries (α : Type u) := List (String × α)

namespace Entries

variable {α : Type u}

/-- The value under a name. -/
def get? (name : String) : Entries α → Option α
  | [] => none
  | (key, value) :: rest => if key = name then some value else get? name rest

/-- Whether a name is bound. -/
def has (name : String) (entries : Entries α) : Bool := (get? name entries).isSome

/-- Bind a name: in its place where it is bound already, else at the end. -/
def put (name : String) (value : α) : Entries α → Entries α
  | [] => [(name, value)]
  | (key, old) :: rest =>
      if key = name then (key, value) :: rest else (key, old) :: put name value rest

/-- Unbind a name. -/
def erase (name : String) (entries : Entries α) : Entries α :=
  entries.filter fun entry => entry.1 ≠ name

/-- Bind every name of `later` in turn. -/
def merge (entries later : Entries α) : Entries α :=
  later.foldl (fun result entry => put entry.1 entry.2 result) entries

/-- The names, oldest first. -/
def keys (entries : Entries α) : List String := entries.map Prod.fst

@[simp]
theorem get?_put_self (name : String) (value : α) (entries : Entries α) :
    get? name (put name value entries) = some value := by
  induction entries with
  | nil => simp [put, get?]
  | cons entry rest inductionHypothesis =>
      by_cases same : entry.1 = name <;> simp [put, get?, same, inductionHypothesis]

theorem get?_put_of_ne {name other : String} (different : other ≠ name) (value : α)
    (entries : Entries α) : get? other (put name value entries) = get? other entries := by
  induction entries with
  | nil => simp [put, get?, Ne.symm different]
  | cons entry rest inductionHypothesis =>
      by_cases same : entry.1 = name
      · simp [put, get?, same, Ne.symm different]
      · simp [put, get?, same, inductionHypothesis]

@[simp]
theorem get?_erase_self (name : String) (entries : Entries α) :
    get? name (erase name entries) = none := by
  induction entries with
  | nil => rfl
  | cons entry rest inductionHypothesis =>
      by_cases same : entry.1 = name <;> simp_all [erase, get?]

theorem get?_erase_of_ne {name other : String} (different : other ≠ name)
    (entries : Entries α) : get? other (erase name entries) = get? other entries := by
  induction entries with
  | nil => rfl
  | cons entry rest inductionHypothesis =>
      by_cases same : entry.1 = name
      · simp_all [erase, get?, Ne.symm different]
      · by_cases found : entry.1 = other <;> simp_all [erase, get?]

end Entries
end Automation
