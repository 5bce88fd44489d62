import Automation.Proofs.Json.Characters
import Automation.Proofs.Number.Digits
import Automation.Proofs.Value.Data

/-!
The JSON text of a value is read back as that value.

A value is read as its scalars are: a list as the items that are read, and an object as the fields
that are read, put one after the other. So it is read back where its scalars are, if the names of
every object in it are distinct. A value, the items of a list and the fields of an object are read
together, each with whatever may follow it. Twice the length of the text is enough fuel, because a
value costs at most two calls besides those for what it holds and its text has a character for each.
-/

namespace Automation

theorem Entries.put_of_not_mem {name : String} {value : Value} {before : Fields}
    (fresh : name ∉ Entries.keys before) :
    Entries.put name value before = before ++ [(name, value)] := by
  induction before with
  | nil => rfl
  | cons field others inductionHypothesis =>
      simp only [Entries.keys, List.map_cons, List.mem_cons, not_or] at fresh
      have further := inductionHypothesis fresh.2
      simp [Entries.put, Ne.symm fresh.1, further]

theorem Entries.merge_eq_append {before later : Fields}
    (distinct : (Entries.keys (before ++ later)).Nodup) :
    Entries.merge before later = before ++ later := by
  induction later generalizing before with
  | nil => exact (List.append_nil before).symm
  | cons field others inductionHypothesis =>
      have fresh : field.1 ∉ Entries.keys before := by
        simp only [Entries.keys, List.map_append, List.map_cons, List.nodup_append] at distinct
        exact fun member => distinct.2.2 field.1 member field.1 List.mem_cons_self rfl
      calc Entries.merge before (field :: others)
        _ = Entries.merge (Entries.put field.1 field.2 before) others := rfl
        _ = Entries.merge (before ++ [field]) others := by rw [Entries.put_of_not_mem fresh]
        _ = before ++ [field] ++ others := inductionHypothesis (by simpa using distinct)
        _ = before ++ field :: others := by rw [List.append_assoc, List.singleton_append]

namespace Value

mutual

/-- Whether all scalars in a value pass a test. -/
def scalarsPass (scalar : Value → Bool) : Value → Bool
  | .list items => itemsPass scalar items
  | .object fields => fieldsPass scalar fields
  | value => scalar value

/-- Whether all scalars in the items of a list pass a test. -/
def itemsPass (scalar : Value → Bool) : List Value → Bool
  | [] => true
  | item :: rest => scalarsPass scalar item && itemsPass scalar rest

/-- Whether all scalars in the fields of an object pass a test. -/
def fieldsPass (scalar : Value → Bool) : List (String × Value) → Bool
  | [] => true
  | (_, value) :: rest => scalarsPass scalar value && fieldsPass scalar rest

end

mutual

/-- A value with its scalars restored. An object has each of its names once, in the first place and
with the last value of that name. -/
def restored (restore : Value → Value) : Value → Value
  | .list items => .list (restoredItems restore items)
  | .object fields => .object (Entries.merge [] (restoredFields restore fields))
  | value => restore value

/-- The items of a list with their scalars restored. -/
def restoredItems (restore : Value → Value) : List Value → List Value
  | [] => []
  | item :: rest => restored restore item :: restoredItems restore rest

/-- The fields of an object with their scalars restored. -/
def restoredFields (restore : Value → Value) : List (String × Value) → Fields
  | [] => []
  | (name, value) :: rest => (name, restored restore value) :: restoredFields restore rest

end

variable {scalar : Value → Bool}

mutual

theorem scalarsPass_of_consistsOf : (value : Value) → value.consistsOf scalar = true →
    value.scalarsPass scalar = true
  | .list items, data => itemsPass_of_itemsConsistOf items data
  | .object fields, data => by
      simp only [consistsOf, Bool.and_eq_true] at data
      exact fieldsPass_of_fieldsConsistOf fields data.2
  | .null, data | .bool _, data | .int _, data | .float _, data | .text _, data
  | .mapping _, data | .foreign _ _, data => data

theorem itemsPass_of_itemsConsistOf : (items : List Value) →
    itemsConsistOf scalar items = true → itemsPass scalar items = true
  | [], _ => rfl
  | item :: rest, data => by
      simp only [itemsConsistOf, itemsPass, Bool.and_eq_true] at data ⊢
      exact ⟨scalarsPass_of_consistsOf item data.1, itemsPass_of_itemsConsistOf rest data.2⟩

theorem fieldsPass_of_fieldsConsistOf : (fields : List (String × Value)) →
    fieldsConsistOf scalar fields = true → fieldsPass scalar fields = true
  | [], _ => rfl
  | (_, value) :: rest, data => by
      simp only [fieldsConsistOf, fieldsPass, Bool.and_eq_true] at data ⊢
      exact ⟨scalarsPass_of_consistsOf value data.1, fieldsPass_of_fieldsConsistOf rest data.2⟩

end

mutual

/-- A value with distinct names is restored where its scalars are. -/
theorem restored_id : (value : Value) → value.consistsOf scalar = true → value.restored id = value
  | .list items, data => congrArg list (restoredItems_id items data)
  | .object fields, data => by
      simp only [consistsOf, Bool.and_eq_true, decide_eq_true_eq] at data
      have same : Entries.merge [] fields = fields := Entries.merge_eq_append data.1
      rw [restored, restoredFields_id fields data.2, same]
  | .null, _ | .bool _, _ | .int _, _ | .float _, _ | .text _, _ | .mapping _, _
  | .foreign _ _, _ => rfl

theorem restoredItems_id : (items : List Value) → itemsConsistOf scalar items = true →
    restoredItems id items = items
  | [], _ => rfl
  | item :: rest, data => by
      simp only [itemsConsistOf, Bool.and_eq_true] at data
      rw [restoredItems, restored_id item data.1, restoredItems_id rest data.2]

theorem restoredFields_id : (fields : List (String × Value)) →
    fieldsConsistOf scalar fields = true → restoredFields id fields = fields
  | [], _ => rfl
  | (name, value) :: rest, data => by
      simp only [fieldsConsistOf, Bool.and_eq_true] at data
      rw [restoredFields, restored_id value data.1, restoredFields_id rest data.2]

end

end Value

namespace Json

/-- Characters that a value can start with, as blanks and closing brackets cannot. -/
def opensValue (c : Char) : Bool := !isSpace c && c != ']' && c != '}'

theorem skipSpace_of_opensValue {c : Char} (opens : opensValue c = true) (rest : List Char) :
    skipSpace (c :: rest) = c :: rest := by
  simp only [opensValue, Bool.and_eq_true, Bool.not_eq_true'] at opens
  simp [skipSpace, opens.1.1]

theorem opensValue_of_isDigit {c : Char} (digit : c.isDigit = true) : opensValue c = true := by
  have all := Text.ascii_induction (p := fun c => !c.isDigit || opensValue c) (by decide +kernel)
    (Text.isAscii_of_isDigit digit)
  simpa [digit] using all

theorem readCharacters?_writeText (text rest : List Char) :
    readCharacters? ((text.flatMap escape ++ '"' :: rest).length + 1)
      (text.flatMap escape ++ '"' :: rest) = some (text, rest) := by
  refine readCharacters?_escapes ?_ rest
  have shorter := length_le_length_escapes text
  simp only [List.length_append, List.length_cons]
  omega

theorem readValue?_text (fuel : Nat) (characters : String) (rest : List Char) :
    readValue? (fuel + 1) (writeText characters.toList ++ rest) =
      some (.text characters, rest) := by
  have shown : writeText characters.toList ++ rest =
      '"' :: (characters.toList.flatMap escape ++ '"' :: rest) := by simp [writeText]
  rw [shown, readValue?, readCharacters?_writeText]
  simp [Value.ofChars]

theorem head_ne_of_isDigit {c mark : Char} {rest others : List Char} (digit : c.isDigit = true)
    (noDigit : mark.isDigit = false) : c :: rest ≠ mark :: others := by
  intro same
  rw [(List.cons.inj same).1, noDigit] at digit
  cases digit

theorem readScalar?_digit {c : Char} (digit : c.isDigit = true) (rest : List Char) :
    readScalar? (c :: rest) = readNumber? false (c :: rest) := by
  unfold readScalar?
  split
  iterate 7 (rename_i head; exact absurd head (head_ne_of_isDigit digit rfl))
  rfl

theorem readScalar?_negative {c : Char} (digit : c.isDigit = true) (rest : List Char) :
    readScalar? ('-' :: c :: rest) = readNumber? true (c :: rest) := by
  unfold readScalar?
  split
  all_goals rename_i head
  iterate 5 exact absurd (List.cons.inj head).1 (by decide)
  · exact absurd (List.cons.inj head).2 (head_ne_of_isDigit digit rfl)
  · rw [(List.cons.inj head).2]
  · exact (head _ rfl).elim

theorem readValue?_int (fuel : Nat) {number : Int}
    (short : (Decimal.digits number.natAbs).length ≤ digitLimit) {rest : List Char}
    (ends : EndsNumber rest) :
    readValue? (fuel + 1) (Decimal.integer number ++ rest) = some (.int number, rest) := by
  obtain ⟨c, others, shown, digit⟩ := exists_cons_digits number.natAbs
  unfold Decimal.integer
  split
  · rename_i negative
    have read := readNumber?_digits true short ends
    rw [if_pos rfl, show -(number.natAbs : Int) = number by omega] at read
    rw [shown, List.cons_append] at read ⊢
    rw [List.cons_append, readValue?, readScalar?_negative digit, read] <;> simp
  · rename_i positive
    have read := readNumber?_digits false short ends
    rw [if_neg (by decide), show (number.natAbs : Int) = number by omega] at read
    rw [shown, List.cons_append] at read ⊢
    rw [readValue?, readScalar?_digit digit, read]
    all_goals
      intro _ head
      exact absurd head (head_ne_of_isDigit digit rfl)

theorem endsNumber_of_separator {c : Char} (separator : c = ',' ∨ c = ']' ∨ c = '}')
    (rest : List Char) : EndsNumber (c :: rest) := by
  intro d head
  cases head
  rcases separator with rfl | rfl | rfl <;> decide

/-- Scalars of these kinds start as values do, and each is read from its text as what it is restored
to. -/
structure RestoresScalars (scalar : Value → Bool) (restore : Value → Value) : Prop where
  opens {value : Value} : scalar value = true →
    ∃ c rest, write value = c :: rest ∧ opensValue c = true
  readsScalar {value : Value} : scalar value = true → ∀ fuel rest, EndsNumber rest →
    readValue? (fuel + 1) (write value ++ rest) = some (restore value, rest)

/-- Scalars of these kinds are read back from their text. -/
abbrev KeepsScalars (scalar : Value → Bool) : Prop := RestoresScalars scalar id

theorem keepsScalars_isPlainScalar : KeepsScalars Value.isPlainScalar where
  opens := by
    intro value plain
    cases value with
    | null => exact ⟨'n', _, rfl, by decide⟩
    | bool truth =>
        cases truth
        · exact ⟨'f', _, rfl, by decide⟩
        · exact ⟨'t', _, rfl, by decide⟩
    | int number =>
        obtain ⟨c, rest, shown, digit⟩ := exists_cons_digits number.natAbs
        by_cases negative : number < 0
        · exact ⟨'-', _, by simp [write, Decimal.integer, negative]; rfl, by decide⟩
        · exact ⟨c, rest, by simp [write, Decimal.integer, negative, shown],
            opensValue_of_isDigit digit⟩
    | text characters => exact ⟨'"', _, rfl, by decide⟩
    | float number | list items | object fields | mapping bindings | foreign identity label =>
        simp [Value.isPlainScalar] at plain
  readsScalar := by
    intro value plain fuel rest ends
    cases value with
    | null => simp [write, readValue?, readScalar?, dropWord?]
    | bool truth => cases truth <;> simp [write, readValue?, readScalar?, dropWord?]
    | int number => exact readValue?_int fuel (by simpa [Value.isPlainScalar] using plain) ends
    | text characters => exact readValue?_text fuel characters rest
    | float number | list items | object fields | mapping bindings | foreign identity label =>
        simp [Value.isPlainScalar] at plain

section

variable {scalar : Value → Bool} {restore : Value → Value}
  (restores : RestoresScalars scalar restore)

include restores

theorem exists_cons_write {value : Value} (data : value.scalarsPass scalar = true) :
    ∃ c rest, write value = c :: rest ∧ opensValue c = true := by
  cases value with
  | list items => exact ⟨'[', _, rfl, by decide⟩
  | object fields => exact ⟨'{', _, rfl, by decide⟩
  | null | bool truth | int number | float number | text characters | mapping bindings
  | foreign identity label => exact restores.opens data

theorem length_write_pos {value : Value} (data : value.scalarsPass scalar = true) :
    0 < (write value).length := by
  obtain ⟨c, rest, shown, -⟩ := exists_cons_write restores data
  simp [shown]

theorem skipSpace_write {value : Value} (data : value.scalarsPass scalar = true)
    (rest : List Char) : skipSpace (' ' :: (write value ++ rest)) = write value ++ rest := by
  obtain ⟨c, others, shown, opens⟩ := exists_cons_write restores data
  rw [shown, List.cons_append]
  exact skipSpace_of_opensValue opens (others ++ rest)

end

/-- The items of a list after the first one, with the separators before them. -/
def writeFurtherItems : List Value → List Char
  | [] => []
  | items => ',' :: ' ' :: writeItems items

/-- The fields of an object after the first one, with the separators before them. -/
def writeFurtherFields : Fields → List Char
  | [] => []
  | fields => ',' :: ' ' :: writeFields fields

theorem writeItems_cons (item : Value) (items : List Value) :
    writeItems (item :: items) = write item ++ writeFurtherItems items := by
  cases items <;> simp [writeItems, writeFurtherItems]

theorem writeFields_cons (field : String × Value) (fields : Fields) :
    writeFields (field :: fields) =
      writeText field.1.toList ++ ':' :: ' ' :: write field.2 ++ writeFurtherFields fields := by
  cases fields <;> simp [writeFields, writeFurtherFields]

section

variable {scalar : Value → Bool} {restore : Value → Value}

/-- With this much fuel, a value is read from its text. -/
def ReadsValues (scalar : Value → Bool) (restore : Value → Value) (fuel : Nat) : Prop :=
  ∀ value rest, value.scalarsPass scalar = true → EndsNumber rest →
    2 * (write value).length ≤ fuel →
    readValue? fuel (write value ++ rest) = some (value.restored restore, rest)

/-- With this much fuel, the items of a list are read from their text. -/
def ReadsItems (scalar : Value → Bool) (restore : Value → Value) (fuel : Nat) : Prop :=
  ∀ item items rest, Value.itemsPass scalar (item :: items) = true →
    2 * (writeItems (item :: items)).length < fuel →
    readItems? fuel (writeItems (item :: items) ++ ']' :: rest) =
      some (Value.restoredItems restore (item :: items), rest)

/-- With this much fuel, the fields of an object are read from their text and put to those that were
read before. -/
def ReadsFields (scalar : Value → Bool) (restore : Value → Value) (fuel : Nat) : Prop :=
  ∀ before field fields rest, Value.fieldsPass scalar (field :: fields) = true →
    2 * (writeFields (field :: fields)).length < fuel →
    readFields? fuel before (writeFields (field :: fields) ++ '}' :: rest) =
      some (Entries.merge before (Value.restoredFields restore (field :: fields)), rest)

variable (restores : RestoresScalars scalar restore) {fuel : Nat}

include restores

theorem ReadsItems.succ (readsValues : ReadsValues scalar restore fuel)
    (readsItems : ReadsItems scalar restore fuel) : ReadsItems scalar restore (fuel + 1) := by
  intro item items rest data enough
  simp only [Value.itemsPass, Bool.and_eq_true] at data
  obtain ⟨dataItem, dataItems⟩ := data
  rw [writeItems_cons] at enough ⊢
  rw [List.length_append] at enough
  rw [List.append_assoc, readItems?]
  cases items with
  | nil =>
      have read := readsValues item (']' :: rest) dataItem
        (endsNumber_of_separator (Or.inr (Or.inl rfl)) rest) (by omega)
      simp only [writeFurtherItems, List.nil_append, read]
      rfl
  | cons next others =>
      obtain ⟨dataNext, -⟩ := Bool.and_eq_true_iff.mp dataItems
      have read := readsValues item (writeFurtherItems (next :: others) ++ ']' :: rest) dataItem
        (endsNumber_of_separator (Or.inl rfl) _) (by omega)
      simp only [writeFurtherItems, List.length_cons] at enough
      have further := readsItems next others rest dataItems (by omega)
      have noSpace : skipSpace (' ' :: (writeItems (next :: others) ++ ']' :: rest)) =
          writeItems (next :: others) ++ ']' :: rest := by
        rw [writeItems_cons, List.append_assoc, skipSpace_write restores dataNext]
      rw [read]
      simp only [writeFurtherItems, List.cons_append]
      rw [skipSpace_of_opensValue (by decide)]
      simp only [noSpace, further]
      rfl

theorem ReadsFields.succ (readsValues : ReadsValues scalar restore fuel)
    (readsFields : ReadsFields scalar restore fuel) : ReadsFields scalar restore (fuel + 1) := by
  intro before field fields rest data enough
  simp only [Value.fieldsPass, Bool.and_eq_true] at data
  obtain ⟨dataValue, dataFields⟩ := data
  obtain ⟨name, value⟩ := field
  have shown : writeFields ((name, value) :: fields) ++ '}' :: rest =
      '"' :: (name.toList.flatMap escape ++ '"' :: ':' :: ' ' ::
        (write value ++ (writeFurtherFields fields ++ '}' :: rest))) := by
    simp [writeFields_cons, writeText]
  rw [writeFields_cons] at enough
  simp only [List.length_append, List.length_cons] at enough
  rw [shown, readFields?, readCharacters?_writeText]
  simp only
  rw [skipSpace_of_opensValue (by decide)]
  simp only [skipSpace_write restores dataValue, String.ofList_toList]
  cases fields with
  | nil =>
      have read := readsValues value ('}' :: rest) dataValue
        (endsNumber_of_separator (Or.inr (Or.inr rfl)) rest) (by omega)
      simp only [writeFurtherFields, List.nil_append, read]
      rfl
  | cons next others =>
      have read := readsValues value (writeFurtherFields (next :: others) ++ '}' :: rest) dataValue
        (endsNumber_of_separator (Or.inl rfl) _) (by omega)
      simp only [writeFurtherFields, List.length_cons] at enough
      have further := readsFields (Entries.put name (value.restored restore) before) next others
        rest dataFields (by omega)
      have noSpace : skipSpace (' ' :: (writeFields (next :: others) ++ '}' :: rest)) =
          writeFields (next :: others) ++ '}' :: rest := by
        rw [writeFields_cons, writeText]
        rfl
      rw [read]
      simp only [writeFurtherFields, List.cons_append]
      rw [skipSpace_of_opensValue (by decide)]
      simp only [noSpace, further]
      rfl

theorem ReadsValues.succ (readsItems : ReadsItems scalar restore fuel)
    (readsFields : ReadsFields scalar restore fuel) : ReadsValues scalar restore (fuel + 1) := by
  intro value rest data ends enough
  cases value with
  | list items =>
      cases items with
      | nil => rfl
      | cons item items =>
          have first : item.scalarsPass scalar = true := (Bool.and_eq_true_iff.mp data).1
          obtain ⟨c, others, shown, opens⟩ := exists_cons_write restores first
          simp only [write, List.length_cons, List.length_append, List.length_nil] at enough
          have read := readsItems item items rest data (by omega)
          have text : write (.list (item :: items)) ++ rest =
              '[' :: (writeItems (item :: items) ++ ']' :: rest) := by simp [write]
          rw [text, readValue?]
          rw [writeItems_cons, shown, List.cons_append, List.cons_append] at read ⊢
          rw [skipSpace_of_opensValue opens]
          split
          · rename_i bracket
            rw [(List.cons.inj bracket).1] at opens
            cases opens
          · rw [read]
            rfl
  | object fields =>
      cases fields with
      | nil => rfl
      | cons field fields =>
          simp only [write, List.length_cons, List.length_append, List.length_nil] at enough
          have read := readsFields [] field fields rest data (by omega)
          have text : write (.object (field :: fields)) ++ rest =
              '{' :: (writeFields (field :: fields) ++ '}' :: rest) := by simp [write]
          rw [text, readValue?]
          rw [writeFields_cons, writeText] at read ⊢
          simp only [List.cons_append] at read ⊢
          rw [skipSpace_of_opensValue (by decide)]
          exact congrArg (Option.map fun found => (Value.object found.1, found.2)) read
  | null | bool truth | int number | float number | text characters | mapping bindings
  | foreign identity label => exact restores.readsScalar data fuel rest ends

/-- Any amount of fuel does for the texts that it is enough for. -/
theorem reads (fuel : Nat) : ReadsValues scalar restore fuel ∧ ReadsItems scalar restore fuel ∧
    ReadsFields scalar restore fuel := by
  induction fuel with
  | zero =>
      refine ⟨?_, ?_, ?_⟩
      · intro value rest data ends enough
        have positive := length_write_pos restores data
        omega
      · intro item items rest data enough
        omega
      · intro before field fields rest data enough
        omega
  | succ fuel inductionHypothesis =>
      obtain ⟨readsValues, readsItems, readsFields⟩ := inductionHypothesis
      exact ⟨ReadsValues.succ restores readsItems readsFields,
        ReadsItems.succ restores readsValues readsItems,
        ReadsFields.succ restores readsValues readsFields⟩

/-- A value is read from its JSON text with its scalars restored. -/
theorem RestoresScalars.read?_write {value : Value} (data : value.scalarsPass scalar = true) :
    read? (write value) = some (value.restored restore) := by
  have front : skipSpace (write value) = write value := by
    obtain ⟨c, others, shown, opens⟩ := exists_cons_write restores data
    rw [shown, skipSpace_of_opensValue opens]
  have found := (reads restores (2 * (write value).length + 2)).1 value [] data nofun (by omega)
  rw [List.append_nil] at found
  rw [read?, front, found]
  rfl

end

/-- A value is read back from its JSON text where its scalars are. -/
theorem KeepsScalars.read?_write_of_consistsOf {scalar : Value → Bool}
    (keeps : KeepsScalars scalar) {value : Value} (data : value.consistsOf scalar = true) :
    read? (write value) = some value := by
  rw [RestoresScalars.read?_write keeps (Value.scalarsPass_of_consistsOf value data),
    Value.restored_id value data]

/-- A plain value is read back from its JSON text. -/
theorem read?_write {value : Value} (plain : value.isPlain = true) :
    read? (write value) = some value :=
  keepsScalars_isPlainScalar.read?_write_of_consistsOf plain

end Json

end Automation
