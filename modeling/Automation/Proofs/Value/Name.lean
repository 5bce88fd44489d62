import Automation.Value.Order

/-!
Values as names.

`nameKey?` tells what a value is as a name: numbers of both kinds and truth values are their exact
value, and a list or an object is no name. Two values are the same name where they have the same
key, so that being the same name is symmetric and transitive.
-/

namespace Automation

theorem Extended.compare_eq_eq_iff {left right : Extended} :
    left.compare right = .eq ↔ left = right := by
  cases left <;> cases right <;> simp only [compare, reduceCtorEq, finite.injEq]
  next first second =>
    split
    · next less =>
        have different : first ≠ second := by
          rintro rfl
          exact Rat.lt_irrefl less
        simp [different]
    · split <;> simp_all

/-- What a value is as a name. -/
inductive NameKey where
  | nothing
  | number (value : Extended)
  | undefined (payload : Nat)
  | text (characters : String)
  | foreign (identity : Nat)

namespace Value

/-- What a value is as a name; a list and an object are none. -/
def nameKey? : Value → Option NameKey
  | .null => some .nothing
  | .text characters => some (.text characters)
  | .foreign identity _ => some (.foreign identity)
  | .float (.notANumber payload) => some (.undefined payload)
  | other => other.extended?.map .number

theorem compareNumbers?_eq_eq_iff {left right : Value} :
    compareNumbers? left right = some .eq ↔
      left.extended? ≠ none ∧ left.extended? = right.extended? := by
  unfold compareNumbers?
  cases left.extended? <;> cases right.extended? <;> simp [Extended.compare_eq_eq_iff]

theorem sameName_iff {left right : Value} :
    left.sameName right = true ↔ left.nameKey? ≠ none ∧ left.nameKey? = right.nameKey? := by
  rcases left with _ | _ | _ | (_ | (_ | _) | _) | _ | _ | _ | _ | _ <;>
    rcases right with _ | _ | _ | (_ | (_ | _) | _) | _ | _ | _ | _ | _ <;>
      simp [sameName, nameKey?, isSameNotANumber, isNumber, compareNumbers?_eq_eq_iff, extended?,
        Binary64.extended?, Binary64.toRat?]

theorem sameName_symm {left right : Value} (same : left.sameName right = true) :
    right.sameName left = true := by
  obtain ⟨named, sameKey⟩ := sameName_iff.mp same
  exact sameName_iff.mpr ⟨sameKey ▸ named, sameKey.symm⟩

theorem sameName_trans {first second third : Value} (left : first.sameName second = true)
    (right : second.sameName third = true) : first.sameName third = true := by
  obtain ⟨named, sameLeft⟩ := sameName_iff.mp left
  obtain ⟨_, sameRight⟩ := sameName_iff.mp right
  exact sameName_iff.mpr ⟨named, sameLeft.trans sameRight⟩

end Value
end Automation
