import Automation.Condition.Token
import Automation.Proofs.Fallible

/-!
Lexemes without their places.

Where a token stands matters to messages only. `lexemes?` forgets the places, and `closing` the
place and the fuel of a search for the bracket that balances a text. So both can be computed one
character after the other, whatever came before.
-/

namespace Automation.Condition

theorem scanQuoted_cons {quote c : Char} (notBackslash : c ≠ '\\') (rest : List Char) :
    scanQuoted quote (c :: rest) = if c = quote then some ([c], rest)
      else (scanQuoted quote rest).map fun found => (c :: found.1, found.2) := by
  rw [scanQuoted]
  · exact fun backslash => absurd backslash notBackslash
  · exact fun _ _ backslash => absurd backslash notBackslash

/-- A backslash is alone at the end, or escapes a character. -/
theorem ne_backslash {c : Char} {rest : List Char} (notAlone : c = '\\' → rest = [] → False)
    (notEscape : ∀ escaped others, c = '\\' → rest = escaped :: others → False) : c ≠ '\\' := by
  intro backslash
  cases rest with
  | nil => exact notAlone backslash rfl
  | cons escaped others => exact notEscape escaped others backslash rfl

/-- A quoted text that is found stands at the front, and what follows it does not matter. -/
theorem scanQuoted_found {quote : Char} {text quoted after : List Char}
    (found : scanQuoted quote text = some (quoted, after)) :
    text = quoted ++ after ∧ ∀ rest, scanQuoted quote (quoted ++ rest) = some (quoted, rest) := by
  induction text using scanQuoted.induct quote generalizing quoted after with
  | case1 | case2 => simp [scanQuoted] at found
  | case3 c rest inductionHypothesis =>
      simp only [scanQuoted, Option.map_eq_some_iff, Prod.mk.injEq] at found
      obtain ⟨⟨inside, last⟩, inner, rfl, rfl⟩ := found
      obtain ⟨isText, scans⟩ := inductionHypothesis inner
      exact ⟨by simp [isText], fun further => by simp [scanQuoted, scans]⟩
  | case4 rest notAlone notEscape =>
      have notBackslash := ne_backslash notAlone notEscape
      rw [scanQuoted_cons notBackslash, if_pos rfl] at found
      cases found
      exact ⟨rfl, fun further => by simp [scanQuoted_cons notBackslash]⟩
  | case5 c rest notAlone notEscape noQuote inductionHypothesis =>
      have notBackslash := ne_backslash notAlone notEscape
      simp only [scanQuoted_cons notBackslash, if_neg noQuote, Option.map_eq_some_iff,
        Prod.mk.injEq] at found
      obtain ⟨⟨inside, last⟩, inner, rfl, rfl⟩ := found
      obtain ⟨isText, scans⟩ := inductionHypothesis inner
      exact ⟨by simp [isText], fun further => by
        simp [scanQuoted_cons notBackslash, noQuote, scans]⟩

theorem scanQuoted_eq_append {quote : Char} {text quoted after : List Char}
    (found : scanQuoted quote text = some (quoted, after)) : text = quoted ++ after :=
  (scanQuoted_found found).1

/-- The number of brackets that are open after a character. -/
def deepen (depth : Nat) (c : Char) : Nat :=
  if c = '[' ∨ c = '{' then depth + 1 else if c = ']' ∨ c = '}' then depth - 1 else depth

/-- The text up to the bracket that balances `depth` open ones, and what follows. -/
def closing (depth : Nat) (text : List Char) : Option (List Char × List Char) :=
  (scanBracketed 0 (text.length + 1) depth 0 text).toOption

/-- The start, the place and the fuel of a search for a bracket do not matter to what it finds. -/
theorem scanBracketed_toOption (start start' fuel fuel' depth position position' : Nat)
    {text : List Char} (enough : text.length < fuel) (enough' : text.length < fuel') :
    (scanBracketed start fuel depth position text).toOption =
      (scanBracketed start' fuel' depth position' text).toOption := by
  induction fuel generalizing fuel' depth position position' text with
  | zero => omega
  | succ fuel inductionHypothesis =>
      cases fuel' with
      | zero => omega
      | succ fuel' =>
          cases text with
          | nil => rfl
          | cons c rest =>
              simp only [List.length_cons] at enough enough'
              simp only [scanBracketed]
              split
              · cases found : scanQuoted c rest with
                | none => rfl
                | some quoted =>
                    have shorter := congrArg List.length (scanQuoted_eq_append found)
                    simp only [List.length_append] at shorter
                    simp only [toOption_bind]
                    rw [inductionHypothesis fuel' depth _ _ (by omega) (by omega)]
              · split
                · rfl
                · simp only [toOption_bind]
                  rw [inductionHypothesis fuel' _ _ _ (by omega) (by omega)]

theorem scanBracketed_eq_closing (start depth position : Nat) {fuel : Nat} {text : List Char}
    (enough : text.length < fuel) :
    (scanBracketed start fuel depth position text).toOption = closing depth text :=
  scanBracketed_toOption start 0 fuel (text.length + 1) depth position 0 enough
    (Nat.lt_succ_self text.length)

theorem closing_quote (depth : Nat) {c : Char} (quote : isQuote c = true) (rest : List Char) :
    closing depth (c :: rest) = (scanQuoted c rest).bind fun quoted =>
      (closing depth quoted.2).map fun found => (c :: quoted.1 ++ found.1, found.2) := by
  rw [closing, scanBracketed]
  simp only [quote, if_true]
  cases found : scanQuoted c rest with
  | none => rfl
  | some quoted =>
      have shorter := congrArg List.length (scanQuoted_eq_append found)
      simp only [List.length_append] at shorter
      simp only [toOption_bind, Option.bind_some, List.length_cons]
      rw [scanBracketed_eq_closing 0 depth _ (by omega)]
      cases closing depth quoted.2 <;> rfl

theorem closing_last {depth : Nat} {c : Char} (bracket : c = ']' ∨ c = '}') (last : depth ≤ 1)
    (rest : List Char) : closing depth (c :: rest) = some ([c], rest) := by
  rcases bracket with rfl | rfl <;> simp [closing, scanBracketed, isQuote, last]

theorem closing_other {depth : Nat} {c : Char} (noQuote : isQuote c = false)
    (notLast : ¬((c = ']' ∨ c = '}') ∧ depth ≤ 1)) (rest : List Char) :
    closing depth (c :: rest) =
      (closing (deepen depth c) rest).map fun found => (c :: found.1, found.2) := by
  rw [closing, scanBracketed]
  simp only [noQuote, Bool.false_eq_true, if_false, notLast, toOption_bind, List.length_cons]
  rw [scanBracketed_eq_closing 0 _ _ (Nat.lt_succ_self rest.length), deepen]
  cases closing _ rest <;> rfl

theorem scanBracketed_eq_append {start fuel depth position : Nat} {text inside after : List Char}
    (found : scanBracketed start fuel depth position text = .ok (inside, after)) :
    text = inside ++ after := by
  induction fuel generalizing depth position text inside after with
  | zero => cases found
  | succ fuel inductionHypothesis =>
      cases text with
      | nil => cases found
      | cons c rest =>
          simp only [scanBracketed] at found
          split at found
          · split at found
            · cases found
            · rename_i quoted last isQuoted
              simp only [bind_eq_ok_iff, Except.ok.injEq, Prod.mk.injEq] at found
              obtain ⟨⟨text, final⟩, further, rfl, rfl⟩ := found
              simp [scanQuoted_eq_append isQuoted, inductionHypothesis further]
          · split at found
            · cases found
              rfl
            · simp only [bind_eq_ok_iff, Except.ok.injEq, Prod.mk.injEq] at found
              obtain ⟨⟨text, final⟩, further, rfl, rfl⟩ := found
              simp [inductionHypothesis further]

theorem scanOperator_eq_append {text after : List Char} {operator : Operator}
    (found : scanOperator text = some (operator, after)) : text = operator.symbol ++ after := by
  unfold scanOperator at found
  split at found <;> cases found <;> rfl

theorem Operator.symbol_ne_nil (operator : Operator) : operator.symbol ≠ [] := by
  cases operator with
  | comparison kind => cases kind <;> exact nofun
  | both | either | negation => exact nofun

/-- A token is a text at the front, with the character that it starts with. -/
theorem scanToken_eq_append {position : Nat} {c : Char} {rest after : List Char} {lexeme : Lexeme}
    (found : scanToken position c rest = .ok (lexeme, after)) :
    ∃ inside, lexeme.text = c :: inside ∧ rest = inside ++ after := by
  unfold scanToken at found
  split at found
  · split at found
    · cases found
    · rename_i quoted last isQuoted
      cases found
      exact ⟨quoted, rfl, scanQuoted_eq_append isQuoted⟩
  · split at found
    · simp only [bind_eq_ok_iff, Except.ok.injEq, Prod.mk.injEq] at found
      obtain ⟨⟨inside, last⟩, isBracketed, rfl, rfl⟩ := found
      exact ⟨inside, rfl, scanBracketed_eq_append isBracketed⟩
    · split at found
      · next opening =>
          cases found
          exact ⟨[], by rw [opening]; rfl, rfl⟩
      · split at found
        · next closing =>
            cases found
            exact ⟨[], by rw [closing]; rfl, rfl⟩
        · split at found
          · rename_i operator last isOperator
            cases found
            have shown := scanOperator_eq_append isOperator
            obtain ⟨first, inside, symbol⟩ := List.exists_cons_of_ne_nil operator.symbol_ne_nil
            rw [symbol, List.cons_append, List.cons.injEq] at shown
            exact ⟨inside, by rw [Lexeme.text, symbol, shown.1], shown.2⟩
          · split at found
            · cases found
            · cases found
              exact ⟨_, rfl, List.takeWhile_append_dropWhile.symm⟩

theorem scanToken_length {position : Nat} {c : Char} {rest after : List Char} {lexeme : Lexeme}
    (found : scanToken position c rest = .ok (lexeme, after)) : after.length ≤ rest.length := by
  obtain ⟨inside, -, rfl⟩ := scanToken_eq_append found
  simp

/-- The lexeme at the front of a text that starts with no blank, and what follows. -/
def scanLexeme? (c : Char) (rest : List Char) : Option (Lexeme × List Char) :=
  (scanToken 0 c rest).toOption

theorem scanToken_toOption (position : Nat) (c : Char) (rest : List Char) :
    (scanToken position c rest).toOption = scanLexeme? c rest := by
  unfold scanLexeme? scanToken
  split
  · split <;> rfl
  · split
    · simp only [toOption_bind]
      rw [scanBracketed_eq_closing position 1 _ (Nat.lt_succ_self rest.length),
        scanBracketed_eq_closing 0 1 _ (Nat.lt_succ_self rest.length)]
    · split
      · rfl
      · split
        · rfl
        · split
          · rfl
          · split <;> rfl

/-- The lexemes of a text, if it has tokens. -/
def lexemes? (text : List Char) : Option (List Lexeme) :=
  (tokenize text).toOption.map (·.map Token.lexeme)

theorem tokenizeFrom_toOption (fuel fuel' position position' : Nat) {text : List Char}
    (enough : text.length ≤ fuel) (enough' : text.length ≤ fuel') :
    (tokenizeFrom fuel position text).toOption.map (·.map Token.lexeme) =
      (tokenizeFrom fuel' position' text).toOption.map (·.map Token.lexeme) := by
  induction fuel generalizing fuel' position position' text with
  | zero =>
      have empty : text = [] := List.eq_nil_of_length_eq_zero (by omega)
      subst empty
      cases fuel' <;> rfl
  | succ fuel inductionHypothesis =>
      cases text with
      | nil => cases fuel' <;> rfl
      | cons c rest =>
          simp only [List.length_cons] at enough enough'
          cases fuel' with
          | zero => omega
          | succ fuel' =>
              simp only [tokenizeFrom]
              split
              · exact inductionHypothesis fuel' _ _ (by omega) (by omega)
              · simp only [toOption_bind, scanToken_toOption]
                cases found : scanLexeme? c rest with
                | none => rfl
                | some token =>
                    obtain ⟨lexeme, after⟩ := token
                    have shorter := scanToken_length (toOption_eq_some_iff.mp found)
                    have same := inductionHypothesis fuel' (position + lexeme.text.length)
                      (position' + lexeme.text.length) (show after.length ≤ fuel by omega)
                      (by omega)
                    simp only [Option.bind_some, Option.map_bind]
                    cases first :
                        (tokenizeFrom fuel (position + lexeme.text.length) after).toOption <;>
                      cases second :
                          (tokenizeFrom fuel' (position' + lexeme.text.length) after).toOption <;>
                        simp_all

theorem lexemes?_nil : lexemes? [] = some [] := rfl

theorem lexemes?_blank {c : Char} (blank : Text.isBlank c = true) (rest : List Char) :
    lexemes? (c :: rest) = lexemes? rest := by
  rw [lexemes?, tokenize, List.length_cons, tokenizeFrom]
  simp only [blank, if_true]
  exact tokenizeFrom_toOption _ _ _ _ (Nat.le_refl _) (Nat.le_refl _)

theorem lexemes?_cons {c : Char} (notBlank : Text.isBlank c = false) (rest : List Char) :
    lexemes? (c :: rest) = (scanLexeme? c rest).bind fun found =>
      (lexemes? found.2).map (found.1 :: ·) := by
  rw [lexemes?, tokenize, List.length_cons, tokenizeFrom]
  simp only [notBlank, Bool.false_eq_true, if_false, toOption_bind, scanToken_toOption]
  cases found : scanLexeme? c rest with
  | none => rfl
  | some token =>
      obtain ⟨lexeme, after⟩ := token
      have shorter := scanToken_length (toOption_eq_some_iff.mp found)
      have same := tokenizeFrom_toOption rest.length after.length (0 + lexeme.text.length) 0
        shorter (Nat.le_refl _)
      simp only [lexemes?, tokenize, Option.bind_some, ← same]
      cases (tokenizeFrom rest.length (0 + lexeme.text.length) after).toOption <;> rfl

theorem lexemes?_eq_none_iff {text : List Char} :
    lexemes? text = none ↔ ∃ refusal, tokenize text = .error refusal := by
  simp [lexemes?, toOption_eq_none_iff]

theorem lexemes?_eq_some_iff {text : List Char} {lexemes : List Lexeme} :
    lexemes? text = some lexemes ↔
      ∃ tokens, tokenize text = .ok tokens ∧ tokens.map Token.lexeme = lexemes := by
  simp [lexemes?, toOption_eq_some_iff]

/-- Characters of operators. -/
def isSymbol (c : Char) : Bool :=
  c == '<' || c == '>' || c == '=' || c == '!' || c == '&' || c == '|'

theorem endsWord_eq (c : Char) :
    endsWord c = (Text.isBlank c || isQuote c || c == '(' || c == ')' || isSymbol c) := by
  simp only [endsWord, isSymbol, Bool.or_assoc]

theorem scanOperator_eq_none {c : Char} (plain : isSymbol c = false) (rest : List Char) :
    scanOperator (c :: rest) = none := by
  unfold scanOperator
  split <;> simp_all [isSymbol]

theorem scanLexeme?_quote {c : Char} (quote : isQuote c = true) (rest : List Char) :
    scanLexeme? c rest =
      (scanQuoted c rest).map fun found => (.quoted (c :: found.1), found.2) := by
  simp only [scanLexeme?, scanToken, quote, if_true]
  cases scanQuoted c rest <;> rfl

theorem scanLexeme?_bracket {c : Char} (bracket : c = '[' ∨ c = '{') (rest : List Char) :
    scanLexeme? c rest =
      (closing 1 rest).map fun found => (.bracketed (c :: found.1), found.2) := by
  have noQuote : isQuote c = false := by rcases bracket with rfl | rfl <;> rfl
  simp only [scanLexeme?, scanToken, noQuote, Bool.false_eq_true, if_false, bracket, if_true,
    toOption_bind]
  rw [scanBracketed_eq_closing 0 1 _ (Nat.lt_succ_self rest.length)]
  cases closing 1 rest <;> rfl

theorem scanLexeme?_opening (rest : List Char) : scanLexeme? '(' rest = some (.opening, rest) := rfl

theorem scanLexeme?_closing (rest : List Char) : scanLexeme? ')' rest = some (.closing, rest) := rfl

/-- The character that makes a longer operator out of a symbol. -/
def secondSymbol (c : Char) : Char := if c = '&' then '&' else if c = '|' then '|' else '='

theorem isSymbol_secondSymbol (c : Char) : isSymbol (secondSymbol c) = true := by
  unfold secondSymbol
  split
  · rfl
  · split <;> rfl

/-- The operator that a symbol and its second character make. -/
def longOperator (c : Char) : Operator :=
  if c = '&' then .both
  else if c = '|' then .either
  else if c = '=' then .comparison .equal
  else if c = '!' then .comparison .notEqual
  else if c = '<' then .comparison .atMost
  else .comparison .atLeast

/-- The operator that a symbol is by itself. -/
def shortOperator? (c : Char) : Option Operator :=
  if c = '<' then some (.comparison .less)
  else if c = '>' then some (.comparison .greater)
  else if c = '!' then some .negation
  else none

/-- A symbol takes its second character with it where it can. -/
theorem scanOperator_eq {c : Char} (symbol : isSymbol c = true) (rest : List Char) :
    scanOperator (c :: rest) = if rest.head? = some (secondSymbol c)
      then some (longOperator c, rest.tail) else (shortOperator? c).map (·, rest) := by
  simp only [isSymbol, Bool.or_eq_true, beq_iff_eq] at symbol
  cases rest with
  | nil => rcases symbol with ((((rfl | rfl) | rfl) | rfl) | rfl) | rfl <;> rfl
  | cons d after =>
      by_cases second : d = secondSymbol c
      · subst second
        rcases symbol with ((((rfl | rfl) | rfl) | rfl) | rfl) | rfl <;> rfl
      · simp only [List.head?_cons, Option.some.injEq, second, if_false]
        unfold scanOperator
        rcases symbol with ((((rfl | rfl) | rfl) | rfl) | rfl) | rfl <;>
          split <;> simp_all [secondSymbol, shortOperator?]

theorem eq_stray_of_scanOperator_eq_none {c : Char} {rest : List Char} (symbol : isSymbol c = true)
    (none : scanOperator (c :: rest) = none) : c = '=' ∨ c = '&' ∨ c = '|' := by
  rw [scanOperator_eq symbol] at none
  split at none
  · cases none
  · simp only [isSymbol, Bool.or_eq_true, beq_iff_eq] at symbol
    rcases symbol with ((((rfl | rfl) | rfl) | rfl) | rfl) | rfl <;> simp [shortOperator?] at none ⊢

theorem scanLexeme?_symbol {c : Char} (symbol : isSymbol c = true) (rest : List Char) :
    scanLexeme? c rest =
      (scanOperator (c :: rest)).map fun found => (.operator found.1, found.2) := by
  have others : isQuote c = false ∧ ¬(c = '[' ∨ c = '{') ∧ c ≠ '(' ∧ c ≠ ')' := by
    simp only [isSymbol, Bool.or_eq_true, beq_iff_eq] at symbol
    rcases symbol with ((((rfl | rfl) | rfl) | rfl) | rfl) | rfl <;> simp [isQuote]
  obtain ⟨noQuote, noBracket, notOpening, notClosing⟩ := others
  simp only [scanLexeme?, scanToken, noQuote, Bool.false_eq_true, if_false, noBracket, notOpening,
    notClosing]
  cases found : scanOperator (c :: rest) with
  | some operator => rfl
  | none =>
      simp only [eq_stray_of_scanOperator_eq_none symbol found, if_true]
      rfl

theorem scanLexeme?_word {c : Char} (inside : endsWord c = false) (noBracket : ¬(c = '[' ∨ c = '{'))
    (rest : List Char) :
    scanLexeme? c rest =
      some (.word (c :: rest.takeWhile (!endsWord ·)), rest.dropWhile (!endsWord ·)) := by
  simp only [endsWord_eq, Bool.or_eq_false_iff, beq_eq_false_iff_ne] at inside
  obtain ⟨⟨⟨⟨-, noQuote⟩, notOpening⟩, notClosing⟩, noSymbol⟩ := inside
  have notStray : ¬(c = '=' ∨ c = '&' ∨ c = '|') := by
    rintro (rfl | rfl | rfl) <;> simp [isSymbol] at noSymbol
  simp only [scanLexeme?, scanToken, noQuote, Bool.false_eq_true, if_false, noBracket, notOpening,
    notClosing, scanOperator_eq_none noSymbol, notStray, toOption_ok]

end Automation.Condition
