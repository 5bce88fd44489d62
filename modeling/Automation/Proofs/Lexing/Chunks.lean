import Automation.Proofs.Lexing.Modes
import Automation.Proofs.Text.Runs

/-!
The lexemes of a text, chunk by chunk.

A text is made of quoted texts, words, and gaps of blanks, parentheses and operators between them.
The lexemes of a chunk do not depend on what follows it, except that a word or an operator must not
go on there. So the lexemes of the whole text are those of its chunks, one after the other.
-/

namespace Automation.Condition

/-- Blanks, parentheses and characters of operators. -/
def isGap (c : Char) : Bool := endsWord c && !isQuote c

/-- What may follow a word: nothing that the word could go on with. -/
def EndsWord (rest : List Char) : Prop := ∀ c ∈ rest.head?, endsWord c = true

/-- What may follow an operator: nothing that the operator could go on with. -/
def EndsOperator (rest : List Char) : Prop := ∀ c ∈ rest.head?, isSymbol c = false

/-- The lexemes of a text after those of a chunk. -/
def Joins (chunk rest : List Char) : Prop :=
  lexemes? (chunk ++ rest) =
    (lexemes? chunk).bind fun front => (lexemes? rest).map (front ++ ·)

/-- A chunk is one token where a word may end. -/
def LexesTo (lexeme : Lexeme) (chunk : List Char) : Prop :=
  ∀ rest, EndsWord rest → lexemes? (chunk ++ rest) = (lexemes? rest).map (lexeme :: ·)

theorem lexemes?_quoted {c : Char} (quote : isQuote c = true) {body : List Char}
    (scans : ∀ rest, scanQuoted c (body ++ rest) = some (body, rest)) (rest : List Char) :
    lexemes? (c :: body ++ rest) = (lexemes? rest).map (.quoted (c :: body) :: ·) := by
  rw [List.cons_append, lexemes?_cons (isBlank_eq_false_of_isQuote quote),
    scanLexeme?_quote quote, scans]
  rfl

theorem lexesTo_word {word : List Char} (notEmpty : word ≠ [])
    (inside : ∀ c ∈ word, endsWord c = false)
    (noBracket : ∀ c ∈ word.head?, ¬(c = '[' ∨ c = '{')) : LexesTo (.word word) word := by
  intro rest ends
  obtain ⟨c, others, rfl⟩ := List.exists_cons_of_ne_nil notEmpty
  have insideFirst := inside c List.mem_cons_self
  have notBlank : Text.isBlank c = false := by
    simp only [endsWord_eq, Bool.or_eq_false_iff] at insideFirst
    exact insideFirst.1.1.1.1
  have insideOthers : ∀ d ∈ others, (!endsWord d) = true := by
    intro d member
    simp [inside d (List.mem_cons_of_mem c member)]
  have stops : ∀ d ∈ rest.head?, (!endsWord d) = false := by
    intro d head
    simp [ends d head]
  rw [List.cons_append, lexemes?_cons notBlank, scanLexeme?_word insideFirst (noBracket c rfl),
    Text.takeWhile_run insideOthers stops, Text.dropWhile_run insideOthers stops]
  rfl

theorem lexesTo_bracketed {opener closer : Char} (opens : opener = '[' ∨ opener = '{')
    (closes : closer = ']' ∨ closer = '}') {inside : List Char} (passes : Passes inside) :
    LexesTo (.bracketed (opener :: inside ++ [closer])) (opener :: inside ++ [closer]) := by
  intro rest _
  have notBlank : Text.isBlank opener = false := by rcases opens with rfl | rfl <;> rfl
  have shown : opener :: inside ++ [closer] ++ rest = opener :: (inside ++ closer :: rest) := by
    simp
  rw [shown, lexemes?_cons notBlank, scanLexeme?_bracket opens,
    passes.inBrackets 1 _ (Nat.le_refl 1), closing_last closes (Nat.le_refl 1)]
  rfl

/-- What can stand in a gap: a blank, a parenthesis or a character of an operator. -/
theorem isGap_cases {c : Char} (gap : isGap c = true) :
    Text.isBlank c = true ∨ c = '(' ∨ c = ')' ∨ isSymbol c = true := by
  simp only [isGap, endsWord_eq, Bool.and_eq_true, Bool.or_eq_true, Bool.not_eq_true',
    beq_iff_eq] at gap
  obtain ⟨(((blank | quote) | opening) | closing) | symbol, noQuote⟩ := gap
  · exact Or.inl blank
  · rw [quote] at noQuote
    cases noQuote
  · exact Or.inr (Or.inl opening)
  · exact Or.inr (Or.inr (Or.inl closing))
  · exact Or.inr (Or.inr (Or.inr symbol))

theorem lexemes?_opening (rest : List Char) :
    lexemes? ('(' :: rest) = (lexemes? rest).map (.opening :: ·) := by
  rw [lexemes?_cons rfl, scanLexeme?_opening]
  rfl

theorem lexemes?_closing (rest : List Char) :
    lexemes? (')' :: rest) = (lexemes? rest).map (.closing :: ·) := by
  rw [lexemes?_cons rfl, scanLexeme?_closing]
  rfl

theorem lexemes?_symbol {c : Char} (symbol : isSymbol c = true) (rest : List Char) :
    lexemes? (c :: rest) = if rest.head? = some (secondSymbol c)
      then (lexemes? rest.tail).map (.operator (longOperator c) :: ·)
      else (shortOperator? c).bind fun short => (lexemes? rest).map (.operator short :: ·) := by
  have notBlank := isBlank_eq_false_of_isMark (show isMark c = true by simp [isMark, symbol])
  rw [lexemes?_cons notBlank, scanLexeme?_symbol symbol, scanOperator_eq symbol]
  split
  · rfl
  · cases shortOperator? c <;> rfl

theorem Joins.cons {lexeme : Lexeme} {c : Char} {chunk rest : List Char}
    (front : ∀ after, lexemes? (c :: after) = (lexemes? after).map (lexeme :: ·))
    (joins : Joins chunk rest) : Joins (c :: chunk) rest := by
  rw [Joins, List.cons_append, front, front, joins]
  cases lexemes? chunk <;> cases lexemes? rest <;> rfl

theorem joins_nil (rest : List Char) : Joins [] rest := by
  rw [Joins, List.nil_append, lexemes?_nil]
  cases lexemes? rest <;> rfl

theorem lexemes?_long {c : Char} (symbol : isSymbol c = true) (rest : List Char) :
    lexemes? (c :: secondSymbol c :: rest) =
      (lexemes? rest).map (.operator (longOperator c) :: ·) := by
  rw [lexemes?_symbol symbol, List.head?_cons, if_pos rfl, List.tail_cons]

theorem lexemes?_short {c : Char} (symbol : isSymbol c = true) {rest : List Char}
    (single : rest.head? ≠ some (secondSymbol c)) : lexemes? (c :: rest) =
      (shortOperator? c).bind fun short => (lexemes? rest).map (.operator short :: ·) := by
  rw [lexemes?_symbol symbol, if_neg single]

/-- A gap as the tokenizer reads it. An operator takes the next character along if it can. -/
inductive Gap : List Char → Prop where
  | nil : Gap []
  | blank {c rest} : Text.isBlank c = true → Gap rest → Gap (c :: rest)
  | opening {rest} : Gap rest → Gap ('(' :: rest)
  | closing {rest} : Gap rest → Gap (')' :: rest)
  | long {c rest} : isSymbol c = true → Gap rest → Gap (c :: secondSymbol c :: rest)
  | short {c rest} : isSymbol c = true → rest.head? ≠ some (secondSymbol c) → Gap rest →
      Gap (c :: rest)

theorem Gap.of_isGap {gap : List Char} (inside : ∀ c ∈ gap, isGap c = true) : Gap gap := by
  -- By length, since an operator may take two characters.
  induction h : gap.length using Nat.strongRecOn generalizing gap with
  | _ length inductionHypothesis =>
      subst h
      cases gap with
      | nil => exact .nil
      | cons c others =>
          have insideOthers : ∀ d ∈ others, isGap d = true :=
            fun d member => inside d (List.mem_cons_of_mem c member)
          have further : Gap others :=
            inductionHypothesis others.length (Nat.lt_succ_self _) insideOthers rfl
          rcases isGap_cases (inside c List.mem_cons_self) with blank | rfl | rfl | symbol
          · exact .blank blank further
          · exact .opening further
          · exact .closing further
          · by_cases second : others.head? = some (secondSymbol c)
            · obtain ⟨later, rfl⟩ := List.head?_eq_some_iff.mp second
              have insideLater : ∀ d ∈ later, isGap d = true :=
                fun d member => insideOthers d (List.mem_cons_of_mem _ member)
              exact .long symbol (inductionHypothesis later.length
                (by simp only [List.length_cons]; omega) insideLater rfl)
            · exact .short symbol second further

theorem EndsOperator.head?_ne {rest : List Char} (ends : EndsOperator rest) (c : Char) :
    rest.head? ≠ some (secondSymbol c) := by
  intro head
  have noSymbol := ends _ head
  rw [isSymbol_secondSymbol] at noSymbol
  cases noSymbol

/-- A gap may be cut off in front of anything that is no character of an operator. -/
theorem joins_gap {gap rest : List Char} (inside : ∀ c ∈ gap, isGap c = true)
    (ends : EndsOperator rest) : Joins gap rest := by
  have isGap := Gap.of_isGap inside
  clear inside
  induction isGap with
  | nil => exact joins_nil rest
  | blank blank _ inductionHypothesis =>
      rw [Joins, List.cons_append, lexemes?_blank blank, lexemes?_blank blank]
      exact inductionHypothesis
  | opening _ inductionHypothesis => exact Joins.cons lexemes?_opening inductionHypothesis
  | closing _ inductionHypothesis => exact Joins.cons lexemes?_closing inductionHypothesis
  | @long c others symbol _ inductionHypothesis =>
      rw [Joins, List.cons_append, List.cons_append, lexemes?_long symbol, lexemes?_long symbol,
        inductionHypothesis]
      cases lexemes? others <;> cases lexemes? rest <;> rfl
  | @short c others symbol single _ inductionHypothesis =>
      have stillSingle : (others ++ rest).head? ≠ some (secondSymbol c) := by
        cases others with
        | nil => exact ends.head?_ne c
        | cons d later => exact single
      rw [Joins, List.cons_append, lexemes?_short symbol stillSingle, lexemes?_short symbol single,
        inductionHypothesis]
      cases shortOperator? c <;> cases lexemes? others <;> cases lexemes? rest <;> rfl

theorem noValues_of_map {front : Lexeme} {others : Option (List Lexeme)} {found : List Lexeme}
    (noValue : front.isValue = false) (isFound : others.map (front :: ·) = some found)
    (noValues : ∀ further, others = some further → ∀ lexeme ∈ further, lexeme.isValue = false) :
    ∀ lexeme ∈ found, lexeme.isValue = false := by
  obtain ⟨further, isFurther, rfl⟩ := Option.map_eq_some_iff.mp isFound
  intro lexeme member
  rcases List.mem_cons.mp member with rfl | inFurther
  · exact noValue
  · exact noValues further isFurther lexeme inFurther

/-- A gap holds operators and parentheses only. -/
theorem isValue_of_gap {gap : List Char} {found : List Lexeme} (inside : ∀ c ∈ gap, isGap c = true)
    (lexes : lexemes? gap = some found) : ∀ lexeme ∈ found, lexeme.isValue = false := by
  have isGap := Gap.of_isGap inside
  clear inside
  induction isGap generalizing found with
  | nil =>
      cases lexes
      exact nofun
  | blank blank _ inductionHypothesis =>
      rw [lexemes?_blank blank] at lexes
      exact inductionHypothesis lexes
  | opening _ inductionHypothesis =>
      rw [lexemes?_opening] at lexes
      apply noValues_of_map rfl lexes
      intro further isFurther
      exact inductionHypothesis isFurther
  | closing _ inductionHypothesis =>
      rw [lexemes?_closing] at lexes
      apply noValues_of_map rfl lexes
      intro further isFurther
      exact inductionHypothesis isFurther
  | long symbol _ inductionHypothesis =>
      rw [lexemes?_long symbol] at lexes
      apply noValues_of_map rfl lexes
      intro further isFurther
      exact inductionHypothesis isFurther
  | short symbol single _ inductionHypothesis =>
      rw [lexemes?_short symbol single] at lexes
      obtain ⟨short, -, lexes⟩ := Option.bind_eq_some_iff.mp lexes
      apply noValues_of_map rfl lexes
      intro further isFurther
      exact inductionHypothesis isFurther

end Automation.Condition
