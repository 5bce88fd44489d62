import Automation.Condition.Safety
import Automation.Number.Numeral
import Automation.Proofs.Text.Runs

/-!
Digits of conditions.

The characters that a condition may hold are those of ASCII and blanks. So the only digits among
them are the ten of ASCII, and an integer is read from any run of these that is not too long.
-/

namespace Automation

namespace Text

/-- What holds of every character of ASCII, one by one. -/
theorem ascii_induction {p : Char → Bool} (all : ∀ code : Fin 128, p (Char.ofNat code) = true)
    {c : Char} (ascii : c.toNat < 128) : p c = true := by
  have holds := all ⟨c.toNat, ascii⟩
  rwa [show Char.ofNat c.toNat = c from Char.ofNat_toNat c] at holds

theorem isDigit_ascii {c : Char} (ascii : c.toNat < 128) : Text.isDigit c = c.isDigit := by
  have same := ascii_induction (p := fun c => Text.isDigit c == c.isDigit) (by decide +kernel) ascii
  exact beq_iff_eq.mp same

/-- The blanks above ASCII. -/
def wideBlanks : List Nat :=
  [0x85, 0xa0, 0x1680, 0x2028, 0x2029, 0x202f, 0x205f, 0x3000] ++ (List.range 11).map (0x2000 + ·)

theorem mem_wideBlanks {c : Char} (blank : isBlank c = true) (wide : ¬c.toNat < 128) :
    c.toNat ∈ wideBlanks := by
  simp only [isBlank, wide, if_false, Bool.or_eq_true, beq_iff_eq, Bool.and_eq_true,
    decide_eq_true_eq] at blank
  simp only [wideBlanks, List.mem_append, List.mem_cons, List.mem_map, List.mem_range,
    List.not_mem_nil, or_false]
  by_cases inRange : 0x2000 ≤ c.toNat ∧ c.toNat ≤ 0x200a
  · exact Or.inr ⟨c.toNat - 0x2000, by omega, by omega⟩
  · omega

/-- A class of characters without one of these blanks holds no blank above ASCII. -/
theorem isMember_wideBlank {isMember : Char → Bool}
    (all : ∀ code ∈ wideBlanks, isMember (Char.ofNat code) = false) {c : Char}
    (blank : isBlank c = true) (wide : ¬c.toNat < 128) : isMember c = false := by
  have noMember := all _ (mem_wideBlanks blank wide)
  rwa [Char.ofNat_toNat] at noMember

theorem isDigit_wideBlank {c : Char} (blank : isBlank c = true) (wide : ¬c.toNat < 128) :
    Text.isDigit c = false :=
  isMember_wideBlank (by decide +kernel) blank wide

theorem isWord_of_isBlank {c : Char} (blank : isBlank c = true) : isWord c = false := by
  by_cases ascii : c.toNat < 128
  · have all := ascii_induction (p := fun c => !isBlank c || !isWord c) (by decide +kernel) ascii
    simpa [blank] using all
  · exact isMember_wideBlank (by decide +kernel) blank ascii

theorem toNat_le_toNat {c d : Char} (le : c ≤ d) : c.toNat ≤ d.toNat :=
  UInt32.le_iff_toNat_le.mp (Char.le_def.mp le)

theorem isAscii_of_isAsciiAlphanumeric {c : Char} (alphanumeric : isAsciiAlphanumeric c = true) :
    c.toNat < 128 := by
  simp only [isAsciiAlphanumeric, Bool.or_eq_true, Bool.and_eq_true, decide_eq_true_eq]
    at alphanumeric
  rcases alphanumeric with (⟨-, upper⟩ | ⟨-, upper⟩) | ⟨-, upper⟩ <;>
    exact Nat.lt_of_le_of_lt (toNat_le_toNat upper) (by decide)

/-- The characters that a condition may hold besides blanks are those of ASCII. -/
theorem isAscii_of_isAllowed {c : Char} (allowed : Condition.isAllowed c = true)
    (notBlank : isBlank c = false) : c.toNat < 128 := by
  simp only [Condition.isAllowed, notBlank, Bool.or_false, Bool.or_eq_true] at allowed
  rcases allowed with alphanumeric | punctuation
  · exact isAscii_of_isAsciiAlphanumeric alphanumeric
  · have all : ".[]\"'<>=!&|()_".toList.all (·.toNat < 128) = true := by decide
    exact of_decide_eq_true (List.all_eq_true.mp all c (List.contains_iff_mem.mp punctuation))

theorem isDigit_of_isAllowed {c : Char} (allowed : Condition.isAllowed c = true)
    (digit : Text.isDigit c = true) : c.isDigit = true := by
  by_cases ascii : c.toNat < 128
  · rwa [isDigit_ascii ascii] at digit
  · cases blank : isBlank c with
    | true =>
        rw [isDigit_wideBlank blank ascii] at digit
        cases digit
    | false => exact absurd (isAscii_of_isAllowed allowed blank) ascii

theorem isDigit_bounds {c : Char} (digit : c.isDigit = true) :
    '0'.toNat ≤ c.toNat ∧ c.toNat ≤ '9'.toNat := by
  simp only [Char.isDigit, Bool.and_eq_true, decide_eq_true_eq] at digit
  exact ⟨UInt32.le_iff_toNat_le.mp digit.1, UInt32.le_iff_toNat_le.mp digit.2⟩

theorem isAscii_of_isDigit {c : Char} (digit : c.isDigit = true) : c.toNat < 128 :=
  Nat.lt_of_le_of_lt (isDigit_bounds digit).2 (by decide)

theorem isBlank_of_isDigit {c : Char} (digit : c.isDigit = true) : isBlank c = false := by
  obtain ⟨lower, upper⟩ := isDigit_bounds digit
  have zero : '0'.toNat = 48 := rfl
  simp only [isBlank, isAscii_of_isDigit digit, if_true, Bool.or_eq_false_iff,
    Bool.and_eq_false_iff, decide_eq_false_iff_not]
  omega

theorem decimalValue?_of_isDigit {c : Char} (digit : c.isDigit = true) :
    decimalValue? c = some (c.toNat - '0'.toNat) := by
  have bounds : '0' ≤ c ∧ c ≤ '9' := by
    simp only [Char.isDigit, Bool.and_eq_true, decide_eq_true_eq] at digit
    exact digit
  simp [decimalValue?, isAscii_of_isDigit digit, bounds]

/-- What a text keeps when a blank in front of it or after it is dropped it keeps when it is
trimmed. -/
theorem trim_induction {p : List Char → Prop}
    (front : ∀ c rest, isBlank c = true → p (c :: rest) → p rest)
    (back : ∀ c front, isBlank c = true → p (front ++ [c]) → p front) {text : List Char}
    (holds : p text) : p (trim text) := by
  have left : ∀ text, p text → p (trimLeft text) := by
    intro text holds
    induction text with
    | nil => exact holds
    | cons c rest inductionHypothesis =>
        cases blank : isBlank c with
        | true =>
            rw [trimLeft, List.dropWhile_cons_of_pos blank]
            exact inductionHypothesis (front c rest blank holds)
        | false => simpa [trimLeft, blank] using holds
  have right : ∀ backward : List Char, p backward.reverse →
      p (backward.dropWhile isBlank).reverse := by
    intro backward holds
    induction backward with
    | nil => exact holds
    | cons c rest inductionHypothesis =>
        cases blank : isBlank c with
        | true =>
            rw [List.dropWhile_cons_of_pos blank]
            exact inductionHypothesis (back c rest.reverse blank (by simpa using holds))
        | false => simpa [blank] using holds
  exact right _ (by simpa using left text holds)

end Text

theorem takeSpacedDigits_of_digits {text : List Char} (digits : ∀ c ∈ text, c.isDigit = true)
    (afterDigit : Bool) :
    takeSpacedDigits afterDigit text = (text.map fun c => c.toNat - '0'.toNat, []) := by
  induction text generalizing afterDigit with
  | nil => rfl
  | cons c rest inductionHypothesis =>
      rw [takeSpacedDigits, Text.decimalValue?_of_isDigit (digits c List.mem_cons_self)]
      simp [inductionHypothesis fun other member => digits other (List.mem_cons_of_mem c member)]

theorem trimSpacing_of_digits {text : List Char} (digits : ∀ c ∈ text, c.isDigit = true) :
    Text.trimSpacing text = text := by
  have noSpacing : ∀ c ∈ text, Text.isSpacing c = false := by
    intro c member
    simp [Text.isSpacing, Text.isBlank_of_isDigit (digits c member)]
  have front : text.dropWhile Text.isSpacing = text :=
    Text.dropWhile_of_head fun c head => noSpacing c (List.mem_of_mem_head? head)
  have back : text.reverse.dropWhile Text.isSpacing = text.reverse :=
    Text.dropWhile_of_head fun c head =>
      noSpacing c (List.mem_reverse.mp (List.mem_of_mem_head? head))
  rw [Text.trimSpacing, front, back, List.reverse_reverse]

theorem takeSign_of_digits {text : List Char} (digits : ∀ c ∈ text, c.isDigit = true) :
    takeSign text = (false, text) := by
  unfold takeSign
  split
  · exact absurd (digits '-' List.mem_cons_self) (by decide)
  · exact absurd (digits '+' List.mem_cons_self) (by decide)
  · rfl

theorem readInteger_of_digits {text : List Char} (notEmpty : text ≠ [])
    (digits : ∀ c ∈ text, c.isDigit = true) :
    readInteger text = integerOfDigits false (text.map fun c => c.toNat - '0'.toNat) := by
  simp only [readInteger, trimSpacing_of_digits digits, takeSign_of_digits digits,
    takeSpacedDigits_of_digits digits]
  split
  · rename_i empty
    simp only [Prod.mk.injEq, List.map_eq_nil_iff] at empty
    exact absurd empty.1 notEmpty
  · rename_i found
    cases found
    simp only [true_or, if_true]

/-- What a condition that passes the check holds. -/
theorem Condition.isAllowed_of_check {keywords : List String} {expression : String}
    {checked : List Char} (accepted : Condition.check keywords (.text expression) = .ok checked) :
    checked = Text.trim expression.toList ∧
      ∀ c ∈ expression.toList, Condition.isAllowed c = true := by
  simp only [Condition.check, Condition.checkText] at accepted
  split at accepted
  · cases accepted
  · split at accepted
    · rename_i valid
      cases accepted
      exact ⟨rfl, List.all_eq_true.mp valid.2⟩
    · cases accepted

end Automation
