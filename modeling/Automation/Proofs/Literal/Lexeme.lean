import Automation.Proofs.Json.RoundTrip
import Automation.Proofs.Lexing.Chunks
import Automation.Proofs.Literal.Passing

/-!
The literal of a plain value is one token, and that token stands for the value.

Null, a truth value and an integer are written as words, a text as quoted text, a list and an
object between brackets.
-/

namespace Automation

namespace Condition

/-- The token that the literal of a value is. -/
def literalLexeme (value : Value) : Lexeme :=
  match value with
  | .text _ => .quoted (literal value)
  | .list _ | .object _ => .bracketed (literal value)
  | _ => .word (literal value)

theorem isAscii_of_isNumeric {c : Char} (numeric : isNumeric c = true) : c.toNat < 128 := by
  simp only [isNumeric, Char.isAlphanum, Bool.or_eq_true, beq_iff_eq] at numeric
  rcases numeric with ((((letter | digit) | rfl) | rfl) | rfl)
  · obtain upper | lower := Bool.or_eq_true_iff.mp letter
    · have bounded : c.val ≤ 'Z'.val := (of_decide_eq_true upper).2
      exact Nat.lt_of_le_of_lt (UInt32.le_iff_toNat_le.mp bounded) (by decide)
    · have bounded : c.val ≤ 'z'.val := of_decide_eq_true (Bool.and_eq_true_iff.mp lower).2
      exact Nat.lt_of_le_of_lt (UInt32.le_iff_toNat_le.mp bounded) (by decide)
  · exact Text.isAscii_of_isDigit digit
  all_goals decide

theorem endsWord_of_isNumeric {c : Char} (numeric : isNumeric c = true) : endsWord c = false := by
  have all := Text.ascii_induction (p := fun c => !isNumeric c || !endsWord c) (by decide +kernel)
    (isAscii_of_isNumeric numeric)
  simpa [numeric] using all

/-- A number or a name is one word. -/
theorem lexesTo_numeric {text : List Char} (notEmpty : text ≠ [])
    (numeric : ∀ c ∈ text, isNumeric c = true) : LexesTo (.word text) text := by
  apply lexesTo_word notEmpty (fun c member => endsWord_of_isNumeric (numeric c member))
  intro c head bracket
  have noBracket := numeric c (List.mem_of_mem_head? head)
  rcases bracket with rfl | rfl <;> cases noBracket

theorem lexesTo_writeText (text : List Char) :
    LexesTo (.quoted (Json.writeText text)) (Json.writeText text) := by
  intro rest _
  exact lexemes?_quoted rfl (scanQuoted_writeText text) rest

/-- The literal of a plain value is one token. -/
theorem lexesTo_literal {value : Value} (plain : value.isPlain = true) :
    LexesTo (literalLexeme value) (literal value) := by
  cases value with
  | null => exact lexesTo_numeric (by decide) (List.all_eq_true.mp (by decide))
  | bool truth =>
      cases truth <;> exact lexesTo_numeric (by decide) (List.all_eq_true.mp (by decide))
  | int number =>
      exact lexesTo_numeric (Decimal.integer_ne_nil number) fun c member =>
        isNumeric_of_mem_integer member
  | text characters => exact lexesTo_writeText characters.toList
  | list items => exact lexesTo_bracketed (Or.inl rfl) (Or.inl rfl) (Passes.writeItems items)
  | object fields => exact lexesTo_bracketed (Or.inr rfl) (Or.inr rfl) (Passes.writeFields fields)
  | float number | mapping bindings | foreign identity label =>
      simp [Value.isPlain, Value.consistsOf, Value.isPlainScalar] at plain

theorem wordValue_integer {number : Int}
    (short : (Decimal.digits number.natAbs).length ≤ digitLimit) :
    wordValue (Decimal.integer number) = .ok (.int number) := by
  unfold Decimal.integer
  split
  · rename_i negative
    have isNumber : -(number.natAbs : Int) = number := by omega
    simp only [wordValue, Numeral.read?_negative, Numeral.value,
      integerOfDigits_digitValues true short, if_true, map_ok, isNumber]
  · rename_i positive
    have isNumber : (number.natAbs : Int) = number := by omega
    simp only [wordValue, Numeral.read?_digits, Numeral.value,
      integerOfDigits_digitValues false short, Bool.false_eq_true, if_false, map_ok, isNumber]

/-- The token that the literal of a plain value is stands for that value. -/
theorem literalValue_literalLexeme {value : Value} (plain : value.isPlain = true) :
    literalValue (literalLexeme value) = .ok value := by
  have read := Json.read?_write plain
  cases value with
  | null => rfl
  | bool truth => cases truth <;> rfl
  | int number =>
      exact wordValue_integer
        (by simpa [Value.isPlain, Value.consistsOf, Value.isPlainScalar] using plain)
  | text characters =>
      simp only [literalLexeme, literal, literalValue, Json.write, Json.writeText,
        List.cons_append] at read ⊢
      rw [read]
      rfl
  | list items => simp [literalLexeme, literal, literalValue, read]
  | object fields => simp [literalLexeme, literal, literalValue, read]
  | float number | mapping bindings | foreign identity label =>
      simp [Value.isPlain, Value.consistsOf, Value.isPlainScalar] at plain

theorem literalLexeme_isValue (value : Value) : (literalLexeme value).isValue = true := by
  cases value <;> rfl

/-- A plain value is read back from its literal, which is one token and no more. -/
theorem tokenize_literal {value : Value} (plain : value.isPlain = true) :
    ∃ token, tokenize (literal value) = .ok [token] ∧
      literalValue token.lexeme = .ok value := by
  have alone : lexemes? (literal value) = some [literalLexeme value] := by
    have lexes := lexesTo_literal plain [] nofun
    rwa [List.append_nil, lexemes?_nil] at lexes
  obtain ⟨tokens, tokenized, isLexeme⟩ := lexemes?_eq_some_iff.mp alone
  obtain ⟨token, rfl, lexeme⟩ := List.map_eq_singleton_iff.mp isLexeme
  exact ⟨token, tokenized, by rw [lexeme, literalValue_literalLexeme plain]⟩

/-- Quotes of both kinds, brackets and a character above the basic plane in texts and names. -/
theorem tokenize_literal_of_escapes :
    let value : Value := .object [("b\"]", .list [.text "it's \"😀\" \\ \x7d", .int (-40), .null]),
      ("a", .object [("", .bool true), ("'", .list [])])]
    value.isPlain = true ∧ ∃ token, tokenize (literal value) = .ok [token] ∧
      literalValue token.lexeme = .ok value := by
  intro value
  have plain : value.isPlain = true := by decide +kernel
  exact ⟨plain, tokenize_literal plain⟩

end Condition

end Automation
