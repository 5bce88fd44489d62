import Automation.Json.Writer
import Automation.Proofs.Fallible
import Automation.Proofs.Text.Classes
import Automation.Proofs.Value.Data
import Automation.Value.Path

/-!
Following paths.

A path into a list selects an item by its position. It is followed without a failure unless a part
of digits is no integer or has more digits than an integer is read from. What is found inside a
value is data of the same kind as the value.
-/

namespace Automation

/-- A failure to read a position. -/
def Failure.IsUnreadable (failure : Failure) : Prop :=
  (∃ text, failure = .notAnInteger text) ∨ ∃ count, failure = .tooManyDigits count

theorem failsOnly_readInteger (text : List Char) :
    FailsOnly Failure.IsUnreadable (readInteger text) := by
  intro failure failed
  unfold readInteger integerOfDigits at failed
  grind [Failure.IsUnreadable]

namespace Value

theorem failsOnly_position? (part : List Char) :
    FailsOnly Failure.IsUnreadable (position? part) := by
  unfold position?
  split
  · exact (failsOnly_readInteger part).map some
  · exact .ok none

theorem failsOnly_select? (value : Value) (part : List Char) :
    FailsOnly Failure.IsUnreadable (value.select? part) := by
  unfold select?
  split
  · exact .ok _
  · exact .ok _
  · apply (failsOnly_position? part).bind
    intro position
    split <;> exact .ok _
  · exact .ok none

theorem failsOnly_follow? (value : Value) (path : List (List Char)) :
    FailsOnly Failure.IsUnreadable (value.follow? path) := by
  induction path generalizing value with
  | nil => exact .ok _
  | cons part parts inductionHypothesis =>
      apply (failsOnly_select? value part).bind
      intro selected
      cases selected with
      | none => exact .ok none
      | some inner => exact inductionHypothesis inner

/-- A part of a path that names a position does so in digits that an integer is read from. -/
def IsReadable (part : List Char) : Prop :=
  part.all Text.isDigit = true → part.all Char.isDigit = true ∧ part.length ≤ digitLimit

theorem select?_of_position? (value : Value) {part : List Char}
    (names : ∃ position, position? part = .ok position) :
    ∃ selected, value.select? part = .ok selected := by
  cases value with
  | list items =>
      obtain ⟨position, isPosition⟩ := names
      cases position with
      | none => exact ⟨none, by simp [select?, isPosition]⟩
      | some position => exact ⟨items[position.toNat]?, by simp [select?, isPosition]⟩
  | _ => exact ⟨_, rfl⟩

theorem all_isDigit_of_ascii {part : List Char} (ascii : part.all Char.isDigit = true) :
    part.all Text.isDigit = true := by
  apply List.all_eq_true.mpr
  intro c member
  have digit := List.all_eq_true.mp ascii c member
  rwa [Text.isDigit_ascii (Text.isAscii_of_isDigit digit)]

/-- A list is not asked for a position in more digits than an integer is read from. -/
theorem select?_of_long (items : List Value) {part : List Char}
    (digits : part.all Char.isDigit = true) (long : digitLimit < part.length) :
    (Value.list items).select? part = .error (.tooManyDigits part.length) := by
  have notEmpty : part ≠ [] := List.ne_nil_of_length_pos (Nat.lt_of_le_of_lt (Nat.zero_le _) long)
  have position : position? part = some <$> readInteger part := by
    rw [position?, if_pos]
    simp [all_isDigit_of_ascii digits, notEmpty]
  have tooLong : readInteger part = .error (.tooManyDigits part.length) := by
    rw [readInteger_of_digits notEmpty (List.all_eq_true.mp digits), integerOfDigits,
      List.length_map, if_pos long]
  rw [select?, position, tooLong]
  rfl

theorem follow?_of_position? (value : Value) {parts : List (List Char)}
    (names : ∀ part ∈ parts, ∃ position, position? part = .ok position) :
    ∃ found, value.follow? parts = .ok found := by
  induction parts generalizing value with
  | nil => exact ⟨some value, rfl⟩
  | cons part parts inductionHypothesis =>
      obtain ⟨selected, isSelected⟩ := select?_of_position? value (names part List.mem_cons_self)
      cases selected with
      | none => exact ⟨none, by simp [follow?, isSelected]⟩
      | some inner =>
          obtain ⟨found, isFound⟩ := inductionHypothesis inner
            fun other member => names other (List.mem_cons_of_mem part member)
          exact ⟨found, by simp [follow?, isSelected, isFound]⟩

/-- What holds of a value and is handed down to what a part selects holds of what a path leads
to. -/
theorem follow?_induction {p : Value → Prop}
    (handsDown : ∀ value part inner, p value → value.select? part = .ok (some inner) → p inner)
    {value found : Value} {parts : List (List Char)} (holds : p value)
    (follows : value.follow? parts = .ok (some found)) : p found := by
  induction parts generalizing value with
  | nil =>
      cases follows
      exact holds
  | cons part parts inductionHypothesis =>
      simp only [follow?, bind_eq_ok_iff] at follows
      obtain ⟨selected, isSelected, further⟩ := follows
      cases selected with
      | none => cases further
      | some inner =>
          exact inductionHypothesis (handsDown value part inner holds isSelected) further

/-- The item at a position that is written in digits. -/
def itemAt? (items : List Value) (part : List Char) : Option Value :=
  if part ≠ [] ∧ part.all Char.isDigit = true
  then items[ofDigits (part.map fun c => c.toNat - '0'.toNat)]?
  else none

/-- The value at the end of a path through fields of objects and items of lists. -/
def at? : Value → List (List Char) → Option Value
  | value, [] => some value
  | .object fields, part :: parts =>
      (Entries.get? (String.ofList part) fields).bind fun inner => inner.at? parts
  | .list items, part :: parts => (itemAt? items part).bind fun inner => inner.at? parts
  | _, _ :: _ => none

theorem itemAt?_mem {items : List Value} {part : List Char} {item : Value}
    (found : itemAt? items part = some item) : item ∈ items := by
  unfold itemAt? at found
  split at found
  · exact List.mem_of_getElem? found
  · cases found

theorem select?_list (items : List Value) {part : List Char} (readable : IsReadable part) :
    select? (.list items) part = .ok (itemAt? items part) := by
  by_cases empty : part = []
  · subst empty
    rfl
  · by_cases digits : part.all Text.isDigit = true
    · obtain ⟨ascii, short⟩ := readable digits
      have within : ¬digitLimit < (part.map fun c => c.toNat - '0'.toNat).length := by
        simpa using short
      have read := readInteger_of_digits empty (List.all_eq_true.mp ascii)
      rw [integerOfDigits, if_neg within, if_neg (by decide)] at read
      have position : position? part =
          .ok (some (ofDigits (part.map fun c => c.toNat - '0'.toNat) : Int)) := by
        simp [position?, empty, digits, read]
      simp [select?, position, itemAt?, empty, ascii]
    · have noDigits : ¬part.all Char.isDigit = true := mt all_isDigit_of_ascii digits
      have position : position? part = .ok none := by simp [position?, digits]
      simp [select?, position, itemAt?, noDigits]

section

variable {scalar : Value → Bool} (noMapping : ∀ bindings, scalar (.mapping bindings) = false)
include noMapping

/-- In data a path is followed to the value at its end. -/
theorem follow?_eq_at? {value : Value} (data : value.consistsOf scalar = true)
    {parts : List (List Char)} (readable : ∀ part ∈ parts, IsReadable part) :
    value.follow? parts = .ok (value.at? parts) := by
  induction parts generalizing value with
  | nil => cases value <;> rfl
  | cons part parts inductionHypothesis =>
      have further {inner : Value} (data : inner.consistsOf scalar = true) :
          inner.follow? parts = .ok (inner.at? parts) :=
        inductionHypothesis data fun other member =>
          readable other (List.mem_cons_of_mem part member)
      cases value with
      | list items =>
          rw [follow?, select?_list items (readable part List.mem_cons_self), at?]
          cases found : itemAt? items part with
          | none => rfl
          | some inner => exact further (itemsConsistOf_iff.mp data inner (itemAt?_mem found))
      | object fields =>
          rw [follow?, select?, at?]
          cases found : Entries.get? (String.ofList part) fields with
          | none => rfl
          | some inner =>
              exact further (consistsOf_of_get? (Bool.and_eq_true_iff.mp data).2 found)
      | mapping bindings => simp [consistsOf, noMapping] at data
      | _ => rfl

omit noMapping in
/-- What stands at the end of a path in data is data of the same kind. -/
theorem consistsOf_of_at? {value found : Value} (data : value.consistsOf scalar = true)
    {parts : List (List Char)} (isFound : value.at? parts = some found) :
    found.consistsOf scalar = true := by
  induction parts generalizing value with
  | nil =>
      cases value <;> cases isFound <;> exact data
  | cons part parts inductionHypothesis =>
      cases value with
      | list items =>
          obtain ⟨inner, isInner, further⟩ := Option.bind_eq_some_iff.mp isFound
          exact inductionHypothesis (itemsConsistOf_iff.mp data inner (itemAt?_mem isInner)) further
      | object fields =>
          obtain ⟨inner, isInner, further⟩ := Option.bind_eq_some_iff.mp isFound
          exact inductionHypothesis (consistsOf_of_get? (Bool.and_eq_true_iff.mp data).2 isInner)
            further
      | _ => cases isFound

end

/-- A part selects an item of a list or the value of a field. -/
theorem select?_eq_some {value inner : Value} {part : List Char}
    (selected : value.select? part = .ok (some inner)) :
    (∃ items, value = .list items ∧ inner ∈ items) ∨
      (∃ fields, value = .object fields ∧
        Entries.get? (String.ofList part) fields = some inner) ∨
      ∃ bindings name, value = .mapping bindings ∧ (name, inner) ∈ bindings := by
  cases value with
  | list items =>
      simp only [select?, bind_eq_ok_iff] at selected
      obtain ⟨position, -, atPosition⟩ := selected
      cases position with
      | none => cases atPosition
      | some position =>
          simp only [Except.ok.injEq] at atPosition
          exact Or.inl ⟨items, rfl, List.mem_of_getElem? atPosition⟩
  | object fields =>
      simp only [select?, Except.ok.injEq] at selected
      exact Or.inr (Or.inl ⟨fields, rfl, selected⟩)
  | mapping bindings =>
      simp only [select?, Except.ok.injEq, Bindings.get?, Option.map_eq_some_iff] at selected
      obtain ⟨⟨name, held⟩, isFound, rfl⟩ := selected
      exact Or.inr (Or.inr ⟨bindings, name, rfl, List.mem_of_find?_eq_some isFound⟩)
  | _ => cases selected

end Value

namespace Json

theorem checkWritableItems_of_mem {items : List Value} {item : Value}
    (checked : checkWritableItems items = .ok ()) (member : item ∈ items) :
    checkWritable item = .ok () := by
  induction items with
  | nil => cases member
  | cons first rest inductionHypothesis =>
      simp only [checkWritableItems, bind_eq_ok_iff] at checked
      obtain ⟨⟨⟩, firstChecked, restChecked⟩ := checked
      rcases List.mem_cons.mp member with rfl | inRest
      · exact firstChecked
      · exact inductionHypothesis restChecked inRest

theorem checkWritableFields_of_mem {fields : Fields} {field : String × Value}
    (checked : checkWritableFields fields = .ok ()) (member : field ∈ fields) :
    checkWritable field.2 = .ok () := by
  induction fields with
  | nil => cases member
  | cons first rest inductionHypothesis =>
      simp only [checkWritableFields, bind_eq_ok_iff] at checked
      obtain ⟨⟨⟩, firstChecked, restChecked⟩ := checked
      rcases List.mem_cons.mp member with rfl | inRest
      · exact firstChecked
      · exact inductionHypothesis restChecked inRest

theorem checkWritableBindings_of_mem {bindings : List (Value × Value)} {binding : Value × Value}
    (checked : checkWritableBindings bindings = .ok ()) (member : binding ∈ bindings) :
    checkWritable binding.2 = .ok () := by
  induction bindings with
  | nil => cases member
  | cons first rest inductionHypothesis =>
      simp only [checkWritableBindings, bind_eq_ok_iff] at checked
      obtain ⟨-, -, ⟨⟩, firstChecked, restChecked⟩ := checked
      rcases List.mem_cons.mp member with rfl | inRest
      · exact firstChecked
      · exact inductionHypothesis restChecked inRest

/-- What a path leads to in a value that has a JSON text has one as well. -/
theorem checkWritable_of_follow? {value found : Value} {parts : List (List Char)}
    (checked : checkWritable value = .ok ()) (follows : value.follow? parts = .ok (some found)) :
    checkWritable found = .ok () := by
  refine Value.follow?_induction (p := fun value => checkWritable value = .ok ()) ?_ checked follows
  intro value part inner checked selected
  rcases Value.select?_eq_some selected with
    ⟨items, rfl, member⟩ | ⟨fields, rfl, isField⟩ | ⟨bindings, name, rfl, member⟩
  · exact checkWritableItems_of_mem checked member
  · exact checkWritableFields_of_mem checked (Entries.mem_of_get? isField)
  · exact checkWritableBindings_of_mem checked member

mutual

/-- Data has a JSON text if its scalars have one. -/
theorem checkWritable_of_consistsOf {scalar : Value → Bool}
    (written : ∀ value, scalar value = true → checkWritable value = .ok ()) : (value : Value) →
    value.consistsOf scalar = true → checkWritable value = .ok ()
  | .list items, data => checkWritableItems_of_consistsOf written items data
  | .object fields, data =>
      checkWritableFields_of_consistsOf written fields (Bool.and_eq_true_iff.mp data).2
  | .null, _ | .bool _, _ | .float _, _ | .text _, _ | .foreign _ _, _ => rfl
  | .int number, data => written (.int number) data
  | .mapping bindings, data => written (.mapping bindings) data

theorem checkWritableItems_of_consistsOf {scalar : Value → Bool}
    (written : ∀ value, scalar value = true → checkWritable value = .ok ()) :
    (items : List Value) → Value.itemsConsistOf scalar items = true →
    checkWritableItems items = .ok ()
  | [], _ => rfl
  | item :: rest, data => by
      obtain ⟨first, others⟩ := Bool.and_eq_true_iff.mp data
      rw [checkWritableItems, checkWritable_of_consistsOf written item first]
      exact checkWritableItems_of_consistsOf written rest others

theorem checkWritableFields_of_consistsOf {scalar : Value → Bool}
    (written : ∀ value, scalar value = true → checkWritable value = .ok ()) :
    (fields : List (String × Value)) → Value.fieldsConsistOf scalar fields = true →
    checkWritableFields fields = .ok ()
  | [], _ => rfl
  | (_, value) :: rest, data => by
      obtain ⟨first, others⟩ := Bool.and_eq_true_iff.mp data
      rw [checkWritableFields, checkWritable_of_consistsOf written value first]
      exact checkWritableFields_of_consistsOf written rest others

end

/-- Plain values have a JSON text. -/
theorem checkWritable_of_isPlain {value : Value} (plain : value.isPlain = true) :
    checkWritable value = .ok () := by
  refine checkWritable_of_consistsOf (fun scalar isScalar => ?_) value plain
  cases scalar with
  | int number => simpa [checkWritable, checkInteger, Value.isPlainScalar] using isScalar
  | null | bool _ | text _ => rfl
  | float _ | list _ | object _ | mapping _ | foreign _ _ => cases isScalar

end Json

end Automation
