import Automation.Execution.Control

/-!
What a name is bound to after another binding is made or undone.

Two names can be the same without being equal, so the lemmas about a binding under another name ask
that no name is the same as both. A text is the same name as itself only, so the bindings under
texts are changed like the fields of an object. Restoring the bindings of a loop gives its two names
what they were bound to before, and leaves every other name alone.
-/

namespace Automation

namespace Entries

variable {α : Type} {name : String} {entries later : Entries α}

theorem get?_eq_none_of_not_mem (absent : name ∉ keys entries) : get? name entries = none := by
  induction entries with
  | nil => rfl
  | cons entry rest inductionHypothesis =>
      rw [keys, List.map_cons, List.mem_cons, not_or] at absent
      rw [get?, if_neg (Ne.symm absent.1), inductionHypothesis absent.2]

/-- What is bound later is found first, if it is bound once. -/
theorem get?_merge (distinct : (keys later).Nodup) :
    get? name (merge entries later) = (get? name later).or (get? name entries) := by
  induction later generalizing entries with
  | nil => rfl
  | cons entry rest inductionHypothesis =>
      obtain ⟨key, value⟩ := entry
      obtain ⟨fresh, distinct⟩ := List.nodup_cons.mp distinct
      have remaining : get? name (merge entries ((key, value) :: rest)) =
          (get? name rest).or (get? name (put key value entries)) := inductionHypothesis distinct
      rw [remaining, get?]
      by_cases same : key = name
      · subst same
        simp [get?_eq_none_of_not_mem fresh]
      · simp [get?_put_of_ne (Ne.symm same), same]

end Entries

namespace Value

theorem sameName_text_iff {name : Value} {text : String} :
    name.sameName (.text text) = true ↔ name = .text text := by
  cases name <;> simp [sameName, isSameNotANumber, isNumber]

theorem text_sameName_iff {text : String} {name : Value} :
    (Value.text text).sameName name = true ↔ name = .text text := by
  cases name with
  | text characters => simpa [sameName] using eq_comm
  | _ => simp [sameName, isSameNotANumber, isNumber]

/-- Two names that no name is the same as. -/
def Apart (name other : Value) : Prop :=
  ∀ key : Value, key.sameName name = true → key.sameName other = false

theorem apart_of_ne_text {other : Value} {text : String} (different : other ≠ .text text) :
    Apart (.text text) other := by
  intro key same
  obtain rfl := sameName_text_iff.mp same
  rw [Bool.eq_false_iff, ne_eq, text_sameName_iff]
  exact different

end Value

namespace Bindings

variable {name other value : Value} {bindings : Bindings}

theorem get?_cons (name : Value) (binding : Value × Value) (bindings : Bindings) :
    get? name (binding :: bindings) =
      if isNamed name binding = true then some binding.2 else get? name bindings := by
  by_cases named : isNamed name binding = true <;> simp [get?, named]

theorem get?_put_self (itself : name.sameName name = true) :
    get? name (put name value bindings) = some value := by
  induction bindings with
  | nil => simp [put, get?_cons, isNamed, itself]
  | cons binding rest inductionHypothesis =>
      by_cases named : isNamed name binding = true
      · have kept : isNamed name (binding.1, value) = true := named
        simp [put, named, get?_cons, kept]
      · simp [put, named, get?_cons, inductionHypothesis]

theorem get?_put_of_apart (apart : Value.Apart name other)
    (different : name.sameName other = false) :
    get? other (put name value bindings) = get? other bindings := by
  induction bindings with
  | nil => simp [put, get?, isNamed, different]
  | cons binding rest inductionHypothesis =>
      by_cases named : isNamed name binding = true
      · have unnamed : binding.1.sameName other = false := apart binding.1 named
        have still : isNamed other (binding.1, value) = false := unnamed
        have before : isNamed other binding = false := unnamed
        simp [put, named, get?_cons, still, before]
      · simp [put, named, get?_cons, inductionHypothesis]

theorem get?_erase_self : get? name (erase name bindings) = none := by
  simp [get?, erase]

theorem get?_erase_of_apart (apart : Value.Apart name other) :
    get? other (erase name bindings) = get? other bindings := by
  induction bindings with
  | nil => rfl
  | cons binding rest inductionHypothesis =>
      by_cases named : isNamed name binding = true
      · have unnamed : isNamed other binding = false := apart binding.1 named
        rw [erase, List.filter_cons_of_neg (by simp [named]), get?_cons, unnamed]
        exact inductionHypothesis
      · rw [erase, List.filter_cons_of_pos (by simp [named]), get?_cons, get?_cons]
        exact congrArg _ inductionHypothesis

theorem named_cons (binding : Value × Value) (bindings : Bindings) :
    named (binding :: bindings) = (field? binding).toList ++ named bindings := by
  cases isField : field? binding <;> simp [named, isField]

theorem get?_text_eq (name : String) (bindings : Bindings) :
    get? (.text name) bindings = Entries.get? name (named bindings) := by
  induction bindings with
  | nil => rfl
  | cons binding rest inductionHypothesis =>
      obtain ⟨key, value⟩ := binding
      rw [get?_cons, inductionHypothesis]
      cases key with
      | text characters =>
          by_cases same : characters = name <;>
            simp [isNamed, Value.sameName_text_iff, named_cons, field?, Entries.get?, same]
      | _ => simp [isNamed, Value.sameName_text_iff, named_cons, field?]

@[simp]
theorem named_ofFields (fields : Fields) : named (ofFields fields) = fields := by
  simp [named, ofFields, List.filterMap_map, Function.comp_def, field?]

theorem named_put_text (name : String) (value : Value) (bindings : Bindings) :
    named (put (.text name) value bindings) = Entries.put name value (named bindings) := by
  induction bindings with
  | nil => rfl
  | cons binding rest inductionHypothesis =>
      obtain ⟨key, held⟩ := binding
      cases key with
      | text characters =>
          by_cases same : characters = name <;>
            simp [put, isNamed, Value.sameName_text_iff, named_cons, field?, Entries.put, same,
              inductionHypothesis]
      | _ =>
          simp [put, isNamed, Value.sameName_text_iff, named_cons, field?, inductionHypothesis]

/-- A name that is no text does not change what is bound under texts. -/
theorem named_put_of_not_text {name value : Value} (noText : field? (name, value) = none)
    (bindings : Bindings) : named (put name value bindings) = named bindings := by
  have different (characters : String) : name ≠ .text characters := by
    rintro rfl
    cases noText
  induction bindings with
  | nil => simp [put, named_cons, noText]
  | cons binding rest inductionHypothesis =>
      obtain ⟨key, held⟩ := binding
      cases key with
      | text characters =>
          simp [put, isNamed, Value.text_sameName_iff, different, named_cons, inductionHypothesis]
      | _ =>
          rw [put]
          split <;> simp [named_cons, field?, inductionHypothesis]

theorem named_merge (bindings later : Bindings) :
    named (merge bindings later) = Entries.merge (named bindings) (named later) := by
  induction later generalizing bindings with
  | nil => rfl
  | cons binding rest inductionHypothesis =>
      obtain ⟨key, value⟩ := binding
      have remaining : named (merge bindings ((key, value) :: rest)) =
          Entries.merge (named (put key value bindings)) (named rest) := inductionHypothesis _
      rw [remaining, named_cons]
      cases key with
      | text name => rw [named_put_text]; rfl
      | _ => rw [named_put_of_not_text rfl]; rfl

theorem named_toValue (bindings : Bindings) : named bindings.toValue.bindings = named bindings := by
  unfold toValue
  split <;> simp [Value.bindings]

end Bindings

namespace Variables

variable {scope : Variables} {name : String} {other value : Value}

/-- The value under a name that need not be a text. A list and an object are no names, and nothing
is bound under them. -/
def bound? (scope : Variables) (name : Value) : Option Value := Bindings.get? name scope.bindings

theorem get?_eq_bound? : scope.get? name = scope.bound? (.text name) := rfl

@[simp]
theorem bound?_set_self : (scope.set name value).bound? (.text name) = some value :=
  Bindings.get?_put_self (Value.sameName_text_iff.mpr rfl)

theorem bound?_set_of_ne (different : other ≠ .text name) :
    (scope.set name value).bound? other = scope.bound? other := by
  refine Bindings.get?_put_of_apart (Value.apart_of_ne_text different) ?_
  rw [Bool.eq_false_iff, ne_eq, Value.text_sameName_iff]
  exact different

@[simp]
theorem bound?_unset_self : (scope.unset name).bound? (.text name) = none :=
  Bindings.get?_erase_self

theorem bound?_unset_of_ne (different : other ≠ .text name) :
    (scope.unset name).bound? other = scope.bound? other :=
  Bindings.get?_erase_of_apart (Value.apart_of_ne_text different)

end Variables

namespace Executor

variable {before after : Variables} {name : String} {other : Value}

theorem bound?_rebind_self {scope : Variables} {bound : Option Value}
    (unbound : scope.bound? (.text name) = none) :
    (rebind scope name bound).bound? (.text name) = bound := by
  cases bound with
  | none => exact unbound
  | some value => exact Variables.bound?_set_self

theorem bound?_rebind_of_ne {scope : Variables} {bound : Option Value}
    (different : other ≠ .text name) :
    (rebind scope name bound).bound? other = scope.bound? other := by
  cases bound with
  | none => rfl
  | some value => exact Variables.bound?_set_of_ne different

/-- The names that a loop binds. -/
def IsLoopName (name : Value) : Prop := name = .text itemName ∨ name = .text indexName

theorem bound?_restoreLoop_of_loopName (loopName : IsLoopName other) :
    (restoreLoop before after).bound? other = before.bound? other := by
  have different : Value.text itemName ≠ .text indexName := by simp [itemName, indexName]
  have apart : Value.text indexName ≠ .text itemName := different.symm
  rcases loopName with rfl | rfl
  · rw [restoreLoop, bound?_rebind_of_ne different, bound?_rebind_self, Variables.get?_eq_bound?]
    rw [Variables.bound?_unset_of_ne different, Variables.bound?_unset_self]
  · rw [restoreLoop, bound?_rebind_self, Variables.get?_eq_bound?]
    rw [bound?_rebind_of_ne apart, Variables.bound?_unset_self]

theorem bound?_restoreLoop_of_not_loopName (further : ¬IsLoopName other) :
    (restoreLoop before after).bound? other = after.bound? other := by
  rw [IsLoopName, not_or] at further
  obtain ⟨notItem, notIndex⟩ := further
  rw [restoreLoop, bound?_rebind_of_ne notIndex, bound?_rebind_of_ne notItem,
    Variables.bound?_unset_of_ne notIndex, Variables.bound?_unset_of_ne notItem]

end Executor
end Automation
