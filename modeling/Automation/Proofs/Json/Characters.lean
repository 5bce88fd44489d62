import Automation.Json.Reader
import Automation.Json.Writer

/-!
Texts in JSON.

A text that is written between double quotes is read back as it was: every escape is read as the
character that it stands for, and a pair of units as the one character above the basic plane.
-/

namespace Automation.Json

theorem hexValue?_hexDigit {digit : Nat} (small : digit < 16) :
    hexValue? (Text.hexDigit digit) = some digit := by
  have all : ∀ digit : Fin 16, hexValue? (Text.hexDigit digit) = some digit.val := by decide
  exact all ⟨digit, small⟩

theorem readUnit?_hex {unit : Nat} (small : unit < 0x10000) (rest : List Char) :
    readUnit? (Text.hex 4 unit ++ rest) = some (unit, rest) := by
  have digit : ∀ number, hexValue? (Text.hexDigit (number % 16)) = some (number % 16) :=
    fun number => hexValue?_hexDigit (Nat.mod_lt number (by decide))
  simp only [Text.hex, List.nil_append, List.cons_append, readUnit?, digit]
  congr 2
  omega

theorem isHighUnit_toNat (c : Char) : isHighUnit c.toNat = false := by
  have valid : c.toNat < 0xd800 ∨ 0xdfff < c.toNat ∧ c.toNat < 0x110000 := c.valid
  simp only [isHighUnit, Bool.and_eq_false_iff, decide_eq_false_iff_not]
  omega

theorem isLowUnit_toNat (c : Char) : isLowUnit c.toNat = false := by
  have valid : c.toNat < 0xd800 ∨ 0xdfff < c.toNat ∧ c.toNat < 0x110000 := c.valid
  simp only [isLowUnit, Bool.and_eq_false_iff, decide_eq_false_iff_not]
  omega

theorem unitChar_toNat (c : Char) : unitChar c.toNat = c := by
  simp [unitChar, isHighUnit_toNat, isLowUnit_toNat, Char.ofNat_toNat]

theorem readEscape?_unit {c : Char} (basic : c.toNat < 0x10000) (rest : List Char) :
    readEscape? ('u' :: Text.hex 4 c.toNat ++ rest) = some (c, rest) := by
  simp only [List.cons_append, readEscape?, readUnit?_hex basic, isHighUnit_toNat, unitChar_toNat]

theorem lt_of_isHighUnit {unit : Nat} (high : isHighUnit unit = true) : unit < 0x10000 := by
  simp only [isHighUnit, Bool.and_eq_true, decide_eq_true_eq] at high
  omega

theorem lt_of_isLowUnit {unit : Nat} (low : isLowUnit unit = true) : unit < 0x10000 := by
  simp only [isLowUnit, Bool.and_eq_true, decide_eq_true_eq] at low
  omega

/-- A pair of units is read as the character that they make. -/
theorem readEscape?_pair {high low : Nat} (isHigh : isHighUnit high = true)
    (isLow : isLowUnit low = true) (rest : List Char) :
    readEscape? ('u' :: Text.hex 4 high ++ (unitEscape low ++ rest)) =
      some (pairChar high low, rest) := by
  have readHigh := readUnit?_hex (lt_of_isHighUnit isHigh) (unitEscape low ++ rest)
  have readLow := readUnit?_hex (lt_of_isLowUnit isLow) rest
  rw [List.cons_append, readEscape?, readHigh]
  simp only [isHigh, unitEscape, List.cons_append, readLow, isLow, if_true]

theorem isHighUnit_offset {offset : Nat} (small : offset < 0x100000) :
    isHighUnit (0xd800 + offset / 0x400) = true := by
  simp only [isHighUnit, Bool.and_eq_true, decide_eq_true_eq]
  omega

theorem isLowUnit_offset (offset : Nat) : isLowUnit (0xdc00 + offset % 0x400) = true := by
  simp only [isLowUnit, Bool.and_eq_true, decide_eq_true_eq]
  omega

/-- The units that a character above the basic plane is split into make it again. -/
theorem pairChar_offset {c : Char} (wide : ¬c.toNat < 0x10000) :
    pairChar (0xd800 + (c.toNat - 0x10000) / 0x400) (0xdc00 + (c.toNat - 0x10000) % 0x400) = c := by
  have code : 0x10000 + (0xd800 + (c.toNat - 0x10000) / 0x400 - 0xd800) * 0x400 +
      (0xdc00 + (c.toNat - 0x10000) % 0x400 - 0xdc00) = c.toNat := by omega
  rw [pairChar, code, Char.ofNat_toNat]

theorem readCharacters?_backslash (fuel : Nat) {text after : List Char} {c : Char}
    (found : readEscape? text = some (c, after)) :
    readCharacters? (fuel + 1) ('\\' :: text) =
      (readCharacters? fuel after).map fun last => (c :: last.1, last.2) := by
  simp [readCharacters?, found]

/-- The escape of a character is read as the character. -/
theorem readCharacters?_escape (fuel : Nat) (c : Char) (rest : List Char) :
    readCharacters? (fuel + 1) (escape c ++ rest) =
      (readCharacters? fuel rest).map fun found => (c :: found.1, found.2) := by
  unfold escape
  split
  · rename_i isQuote
    rw [isQuote]
    rfl
  · rename_i noQuote
    split
    · rename_i isBackslash
      rw [isBackslash]
      rfl
    · rename_i noBackslash
      iterate 5 (split; rename_i isControl; rw [isControl]; rfl)
      split
      · rename_i printable
        have noControl : ¬c < ' ' := Char.not_lt.mpr printable.1
        simp [readCharacters?, noQuote, noBackslash, noControl]
      · split
        · rename_i basic
          exact readCharacters?_backslash fuel (readEscape?_unit basic rest)
        · rename_i wide
          have valid : c.toNat < 0xd800 ∨ 0xdfff < c.toNat ∧ c.toNat < 0x110000 := c.valid
          have offset : c.toNat - 0x10000 < 0x100000 := by omega
          have found := readEscape?_pair (isHighUnit_offset offset)
            (isLowUnit_offset (c.toNat - 0x10000)) rest
          rw [pairChar_offset wide] at found
          simp only [unitEscape, List.cons_append, List.append_assoc] at found ⊢
          exact readCharacters?_backslash fuel found

theorem readCharacters?_escapes {text : List Char} {fuel : Nat} (enough : text.length < fuel)
    (rest : List Char) :
    readCharacters? fuel (text.flatMap escape ++ '"' :: rest) = some (text, rest) := by
  induction text generalizing fuel with
  | nil =>
      cases fuel with
      | zero => cases enough
      | succ fuel => rfl
  | cons c others inductionHypothesis =>
      cases fuel with
      | zero => cases enough
      | succ fuel =>
          have further := inductionHypothesis (show others.length < fuel by simpa using enough)
          rw [List.flatMap_cons, List.append_assoc, readCharacters?_escape, further]
          rfl

theorem escape_ne_nil (c : Char) : escape c ≠ [] := by
  unfold escape
  split
  · simp
  · split
    · simp
    · iterate 6 (split; simp)
      split <;> simp [unitEscape]

theorem length_le_length_escapes (text : List Char) :
    text.length ≤ (text.flatMap escape).length := by
  induction text with
  | nil => exact Nat.le_refl 0
  | cons c others inductionHypothesis =>
      have positive : 0 < (escape c).length := List.length_pos_iff.mpr (escape_ne_nil c)
      simp only [List.flatMap_cons, List.length_cons, List.length_append]
      omega

end Automation.Json
