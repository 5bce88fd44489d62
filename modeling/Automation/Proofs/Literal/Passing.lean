import Automation.Condition.Literal
import Automation.Proofs.Lexing.Modes
import Automation.Proofs.Value.Data

/-!
The tokenizer reads over literals.

A number or a name is written in inert characters, a text between double quotes that its escapes
never close, and a list or an object between brackets around what passes. So no literal brings an
operator or a parenthesis into a condition, whatever its value.
-/

namespace Automation

/-- Whether a value is written between quotes or brackets. -/
def Value.isEnclosed : Value → Bool
  | .text _ | .list _ | .object _ | .mapping _ | .foreign _ _ => true
  | _ => false

namespace Condition

/-- Characters of numbers and names. -/
def isNumeric (c : Char) : Bool := c.isAlphanum || c == '.' || c == '-' || c == '+'

theorem isBlank_of_isNumeric {c : Char} (numeric : isNumeric c = true) :
    Text.isBlank c = false := by
  cases blank : Text.isBlank c with
  | false => rfl
  | true =>
      by_cases ascii : c.toNat < 128
      · have all := Text.ascii_induction (p := fun c => !Text.isBlank c || !isNumeric c)
          (by decide +kernel) ascii
        simp [blank, numeric] at all
      · have wide : isNumeric c = false :=
          Text.isMember_wideBlank (by decide +kernel) blank ascii
        rw [numeric] at wide
        cases wide

theorem isInert_of_isNumeric {c : Char} (numeric : isNumeric c = true) : isInert c = true :=
  isInert_of_class (by decide) numeric

theorem Passes.ofNumeric {chunk : List Char} (numeric : ∀ c ∈ chunk, isNumeric c = true) :
    Passes chunk :=
  Passes.ofInert (List.all_eq_true.mpr fun c member => isInert_of_isNumeric (numeric c member))

theorem isNumeric_of_mem_digits {number : Nat} {c : Char} (member : c ∈ Decimal.digits number) :
    isNumeric c = true := by
  have digit : c.isDigit = true := Nat.isDigit_of_mem_toDigits (by omega) (by omega) member
  simp [isNumeric, Char.isAlphanum, digit]

theorem isNumeric_of_mem_integer {number : Int} {c : Char}
    (member : c ∈ Decimal.integer number) : isNumeric c = true := by
  unfold Decimal.integer at member
  split at member
  · rcases List.mem_cons.mp member with rfl | inDigits
    · rfl
    · exact isNumeric_of_mem_digits inDigits
  · exact isNumeric_of_mem_digits member

theorem isNumeric_of_mem_zeros {count : Nat} {c : Char} (member : c ∈ List.replicate count '0') :
    isNumeric c = true := by
  rw [List.eq_of_mem_replicate member]
  rfl

theorem isNumeric_of_mem_positional {decimal : Decimal} {c : Char}
    (member : c ∈ Decimal.positional decimal) : isNumeric c = true := by
  unfold Decimal.positional at member
  split at member
  · rcases List.mem_append.mp member with inDigits | inZeros
    · exact isNumeric_of_mem_digits inDigits
    · exact isNumeric_of_mem_zeros inZeros
  · have padded : ∀ c, c ∈ List.replicate ((-decimal.exponent).toNat + 1 -
        (Decimal.digits decimal.coefficient).length) '0' ++ Decimal.digits decimal.coefficient →
        isNumeric c = true := by
      intro c inside
      rcases List.mem_append.mp inside with inZeros | inDigits
      · exact isNumeric_of_mem_zeros inZeros
      · exact isNumeric_of_mem_digits inDigits
    rcases List.mem_append.mp member with beforePoint | fromPoint
    · exact padded c (List.mem_of_mem_take beforePoint)
    · rcases List.mem_cons.mp fromPoint with rfl | afterPoint
      · rfl
      · exact padded c (List.mem_of_mem_drop afterPoint)

theorem isNumeric_of_mem_exponential {layout : Decimal.Layout} {decimal : Decimal} {c : Char}
    (member : c ∈ Decimal.exponential layout decimal) : isNumeric c = true := by
  simp only [Decimal.exponential, Decimal.exponentText] at member
  rcases List.mem_append.mp member with inMantissa | inExponent
  · have digit : c ∈ Decimal.digits decimal.coefficient ∨ c = '.' := by
      split at inMantissa
      · rename_i first second rest shown
        rw [shown]
        rcases List.mem_cons.mp inMantissa with isFirst | inRest
        · exact Or.inl (List.mem_cons.mpr (Or.inl isFirst))
        · rcases List.mem_cons.mp inRest with isPoint | inTail
          · exact Or.inr isPoint
          · exact Or.inl (List.mem_cons_of_mem first inTail)
      · exact Or.inl inMantissa
    rcases digit with inDigits | rfl
    · exact isNumeric_of_mem_digits inDigits
    · rfl
  · simp only [List.mem_cons, List.mem_append] at inExponent
    rcases inExponent with rfl | rfl | inZeros | inDigits
    · rfl
    · split <;> rfl
    · exact isNumeric_of_mem_zeros inZeros
    · exact isNumeric_of_mem_digits inDigits

theorem isNumeric_of_mem_signed {negative : Bool} {text : List Char}
    (numeric : ∀ c ∈ text, isNumeric c = true) :
    ∀ c ∈ Binary64.signed negative text, isNumeric c = true := by
  intro c member
  cases negative with
  | false => exact numeric c member
  | true =>
      rcases List.mem_cons.mp member with rfl | inText
      · rfl
      · exact numeric c inText

theorem isNumeric_of_mem_writeDouble {number : Binary64} :
    ∀ c ∈ Json.writeDouble number, isNumeric c = true := by
  cases number with
  | finite negative magnitude =>
      apply isNumeric_of_mem_signed
      intro c member
      unfold Binary64.magnitudeText at member
      simp only at member
      split at member
      · exact isNumeric_of_mem_positional member
      · exact isNumeric_of_mem_exponential member
  | infinite negative => cases negative <;> exact List.all_eq_true.mp (by decide)
  | notANumber payload => exact List.all_eq_true.mp (by decide : "NaN".toList.all isNumeric = true)

/-- Characters that stand for themselves in quoted text: neither a quote nor a backslash. -/
def isVerbatim (c : Char) : Bool := c != '"' && c != '\\'

/-- A text in double quotes is still open after a chunk, whatever comes after it. -/
def StaysOpen (chunk : List Char) : Prop :=
  ∀ rest, scanQuoted '"' (chunk ++ rest) =
    (scanQuoted '"' rest).map fun found => (chunk ++ found.1, found.2)

theorem StaysOpen.append {first second : List Char} (openFirst : StaysOpen first)
    (openSecond : StaysOpen second) : StaysOpen (first ++ second) := by
  intro rest
  rw [List.append_assoc, openFirst, openSecond, Option.map_map]
  congr 1
  funext found
  simp

theorem StaysOpen.escaped (c : Char) : StaysOpen ['\\', c] := fun _ => rfl

theorem StaysOpen.verbatim {chunk : List Char} (verbatim : ∀ c ∈ chunk, isVerbatim c = true) :
    StaysOpen chunk := by
  induction chunk with
  | nil => intro rest; simp
  | cons c others inductionHypothesis =>
      intro rest
      have ordinary := verbatim c List.mem_cons_self
      simp only [isVerbatim, Bool.and_eq_true, bne_iff_ne] at ordinary
      have openOthers :=
        inductionHypothesis fun other member => verbatim other (List.mem_cons_of_mem c member)
      rw [List.cons_append, scanQuoted]
      · rw [if_neg ordinary.1, openOthers]
        cases scanQuoted '"' rest <;> simp
      · intro backslash
        exact absurd backslash ordinary.2
      · intro _ _ backslash
        exact absurd backslash ordinary.2

theorem isVerbatim_hexDigit {digit : Nat} (small : digit < 16) :
    isVerbatim (Text.hexDigit digit) = true := by
  have all : ∀ digit : Fin 16, isVerbatim (Text.hexDigit digit) = true := by decide
  exact all ⟨digit, small⟩

theorem isVerbatim_of_mem_hex {width number : Nat} {c : Char} (member : c ∈ Text.hex width number) :
    isVerbatim c = true := by
  induction width generalizing number with
  | zero => cases member
  | succ width inductionHypothesis =>
      rcases List.mem_append.mp member with before | last
      · exact inductionHypothesis before
      · rw [List.mem_singleton.mp last]
        exact isVerbatim_hexDigit (Nat.mod_lt _ (by decide))

theorem StaysOpen.unitEscape (unit : Nat) : StaysOpen (Json.unitEscape unit) :=
  append (escaped 'u')
    (verbatim fun c (member : c ∈ Text.hex 4 unit) => isVerbatim_of_mem_hex member)

/-- The escape of a character never closes the text that it stands in. -/
theorem StaysOpen.escape (c : Char) : StaysOpen (Json.escape c) := by
  unfold Json.escape
  split
  · exact escaped _
  · rename_i noQuote
    split
    · exact escaped _
    · rename_i noBackslash
      iterate 5 (split; exact escaped _)
      split
      · apply verbatim
        intro other member
        rw [List.mem_singleton.mp member]
        simp [isVerbatim, noQuote, noBackslash]
      · split
        · exact unitEscape _
        · exact append (unitEscape _) (unitEscape _)

theorem StaysOpen.escapes (text : List Char) : StaysOpen (text.flatMap Json.escape) := by
  induction text with
  | nil => intro rest; simp
  | cons c rest inductionHypothesis =>
      rw [List.flatMap_cons]
      exact append (escape c) inductionHypothesis

theorem scanQuoted_writeText (text rest : List Char) :
    scanQuoted '"' (text.flatMap Json.escape ++ ['"'] ++ rest) =
      some (text.flatMap Json.escape ++ ['"'], rest) := by
  rw [List.append_assoc, StaysOpen.escapes text]
  rfl

theorem Passes.writeText (text : List Char) : Passes (Json.writeText text) :=
  ofQuoted rfl (scanQuoted_writeText text)

theorem Passes.writeName (name : Value) : Passes (Json.writeName name) := by
  cases name with
  | bool truth => cases truth <;> exact writeText _
  | _ => exact writeText _

mutual

/-- The JSON text of a value passes. -/
theorem Passes.write : ∀ value : Value, Passes (Json.write value)
  | .null => ofNumeric (List.all_eq_true.mp (by decide))
  | .bool true => ofNumeric (List.all_eq_true.mp (by decide))
  | .bool false => ofNumeric (List.all_eq_true.mp (by decide))
  | .int _ => ofNumeric fun _ member => isNumeric_of_mem_integer member
  | .float _ => ofNumeric isNumeric_of_mem_writeDouble
  | .text characters => writeText characters.toList
  | .list items => ofBracketed (Or.inl rfl) (Or.inl rfl) (Passes.writeItems items)
  | .object fields => ofBracketed (Or.inr rfl) (Or.inr rfl) (Passes.writeFields fields)
  | .mapping bindings => ofBracketed (Or.inr rfl) (Or.inr rfl) (Passes.writeBindings bindings)
  | .foreign _ label => writeText label.toList

theorem Passes.writeItems : ∀ items : List Value, Passes (Json.writeItems items)
  | [] => nil
  | [item] => Passes.write item
  | item :: next :: rest =>
      append (Passes.write item) (append (ofInert (by decide : [',', ' '].all isInert = true))
        (Passes.writeItems (next :: rest)))

theorem Passes.writeFields : ∀ fields : List (String × Value), Passes (Json.writeFields fields)
  | [] => nil
  | [(name, value)] =>
      append (writeText name.toList)
        (append (ofInert (by decide : [':', ' '].all isInert = true)) (Passes.write value))
  | (name, value) :: next :: rest => by
      have separated := append (ofInert (by decide : [',', ' '].all isInert = true))
        (Passes.writeFields (next :: rest))
      have first := append (writeText name.toList)
        (append (ofInert (by decide : [':', ' '].all isInert = true)) (Passes.write value))
      simpa [Json.writeFields] using append first separated

theorem Passes.writeBindings : ∀ bindings : List (Value × Value),
    Passes (Json.writeBindings bindings)
  | [] => nil
  | [(name, value)] =>
      append (writeName name)
        (append (ofInert (by decide : [':', ' '].all isInert = true)) (Passes.write value))
  | (name, value) :: next :: rest => by
      have separated := append (ofInert (by decide : [',', ' '].all isInert = true))
        (Passes.writeBindings (next :: rest))
      have first := append (writeName name)
        (append (ofInert (by decide : [':', ' '].all isInert = true)) (Passes.write value))
      simpa [Json.writeBindings] using append first separated

end

theorem isNumeric_of_mem_literal {value : Value} (bare : value.isEnclosed = false) :
    ∀ c ∈ literal value, isNumeric c = true := by
  cases value with
  | null => exact List.all_eq_true.mp (by decide : "null".toList.all isNumeric = true)
  | bool truth => cases truth <;> exact List.all_eq_true.mp (by decide)
  | int number => exact fun _ member => isNumeric_of_mem_integer member
  | float number =>
      cases number with
      | finite negative magnitude =>
          exact isNumeric_of_mem_signed fun _ member => isNumeric_of_mem_positional member
      | infinite negative =>
          exact @isNumeric_of_mem_writeDouble (.infinite negative)
      | notANumber payload => exact @isNumeric_of_mem_writeDouble (.notANumber payload)
  | text | list | object | mapping | foreign => cases bare

/-- The literal of any value passes. -/
theorem Passes.literal (value : Value) : Passes (literal value) := by
  cases value with
  | float number => exact ofNumeric (isNumeric_of_mem_literal rfl)
  | _ => exact write _

/-- A chunk that makes no operator with a character before it. -/
def StartsPlain (chunk : List Char) : Prop := ∃ c rest, chunk = c :: rest ∧ isSymbol c = false

theorem StartsPlain.ofInert {chunk : List Char} (notEmpty : chunk ≠ [])
    (inert : chunk.all isInert = true) : StartsPlain chunk := by
  obtain ⟨c, rest, rfl⟩ := List.exists_cons_of_ne_nil notEmpty
  exact ⟨c, rest, rfl, isSymbol_of_isInert (List.all_eq_true.mp inert c List.mem_cons_self)⟩

theorem StartsPlain.ofNumeric {chunk : List Char} (notEmpty : chunk ≠ [])
    (numeric : ∀ c ∈ chunk, isNumeric c = true) : StartsPlain chunk :=
  ofInert notEmpty
    (List.all_eq_true.mpr fun c member => isInert_of_isNumeric (numeric c member))

theorem StartsPlain.write (value : Value) : StartsPlain (Json.write value) := by
  cases value with
  | null => exact ⟨'n', _, rfl, rfl⟩
  | bool truth => cases truth <;> exact ⟨_, _, rfl, rfl⟩
  | int number =>
      exact ofNumeric (Decimal.integer_ne_nil number) fun _ member =>
        isNumeric_of_mem_integer member
  | float number =>
      refine ofNumeric ?_ isNumeric_of_mem_writeDouble
      cases number with
      | finite negative magnitude => exact (Binary64.finite negative magnitude).text_ne_nil
      | infinite negative => cases negative <;> decide
      | notANumber payload => exact (by decide : "NaN".toList ≠ [])
  | text characters | foreign _ label => exact ⟨'"', _, rfl, rfl⟩
  | list items => exact ⟨'[', _, rfl, rfl⟩
  | object fields => exact ⟨'{', _, rfl, rfl⟩
  | mapping bindings => exact ⟨'{', _, rfl, rfl⟩

theorem StartsPlain.literal (value : Value) : StartsPlain (literal value) := by
  cases value with
  | float number =>
      cases number with
      | finite negative magnitude =>
          exact ofNumeric (Binary64.signed_ne_nil (Decimal.positional_ne_nil _))
            (isNumeric_of_mem_signed fun _ member => isNumeric_of_mem_positional member)
      | infinite negative => exact write (.float (.infinite negative))
      | notANumber payload => exact write (.float (.notANumber payload))
  | _ => exact write _

end Condition

end Automation
