import Automation.Proofs.Lexing.Chunks

/-!
Where the tokens of a text stand.

The tokens are slices of the text, one after the other, and nothing but blanks stands outside of
them. What follows a token does not matter as long as it starts with a blank, so the texts of the
tokens can be written with spaces between them and are the same tokens again. A text without tokens
is refused for one of its characters, and the refusal says where that stands.
-/

namespace Automation.Condition

/-- The place behind the last character of a token. -/
def Token.stop (token : Token) : Nat := token.position + token.lexeme.text.length

/-- A text cut into blanks and tokens, from a place on. -/
inductive Cut : Nat → List Char → List Token → Prop where
  | nothing {position : Nat} : Cut position [] []
  | blank {position : Nat} {c : Char} {rest : List Char} {tokens : List Token}
      (blank : Text.isBlank c = true) (further : Cut (position + 1) rest tokens) :
      Cut position (c :: rest) tokens
  | token {position : Nat} {c : Char} {rest after : List Char} {lexeme : Lexeme}
      {tokens : List Token} (notBlank : Text.isBlank c = false)
      (found : scanLexeme? c rest = some (lexeme, after))
      (further : Cut (position + lexeme.text.length) after tokens) :
      Cut position (c :: rest) (⟨lexeme, position⟩ :: tokens)

theorem cut_of_tokenizeFrom {fuel position : Nat} {text : List Char} {tokens : List Token}
    (enough : text.length ≤ fuel) (tokenized : tokenizeFrom fuel position text = .ok tokens) :
    Cut position text tokens := by
  induction fuel generalizing position text tokens with
  | zero =>
      obtain rfl : text = [] := List.eq_nil_of_length_eq_zero (Nat.le_zero.mp enough)
      cases tokenized
      exact .nothing
  | succ fuel inductionHypothesis =>
      cases text with
      | nil =>
          cases tokenized
          exact .nothing
      | cons c rest =>
          rw [List.length_cons, Nat.add_le_add_iff_right] at enough
          rw [tokenizeFrom] at tokenized
          cases blank : Text.isBlank c with
          | true =>
              rw [if_pos blank] at tokenized
              exact .blank blank (inductionHypothesis enough tokenized)
          | false =>
              rw [if_neg (by simp [blank])] at tokenized
              simp only [bind_eq_ok_iff, Except.ok.injEq] at tokenized
              obtain ⟨⟨lexeme, after⟩, found, others, further, rfl⟩ := tokenized
              have shorter : after.length ≤ fuel := Nat.le_trans (scanToken_length found) enough
              refine .token blank ?_ (inductionHypothesis shorter further)
              rw [← scanToken_toOption position, found, toOption_ok]

theorem cut_of_tokenize {text : List Char} {tokens : List Token}
    (tokenized : tokenize text = .ok tokens) : Cut 0 text tokens :=
  cut_of_tokenizeFrom (Nat.le_refl _) tokenized

theorem scanLexeme?_eq_append {c : Char} {rest after : List Char} {lexeme : Lexeme}
    (found : scanLexeme? c rest = some (lexeme, after)) :
    c :: rest = lexeme.text ++ after ∧ 0 < lexeme.text.length := by
  obtain ⟨inside, shown, rfl⟩ := scanToken_eq_append (toOption_eq_some_iff.mp found)
  simp [shown]

namespace Cut

variable {position : Nat} {text : List Char} {tokens : List Token}

theorem position_le (cut : Cut position text tokens) :
    ∀ token ∈ tokens, position ≤ token.position := by
  induction cut with
  | nothing => exact nofun
  | blank _ _ inductionHypothesis =>
      exact fun token member => Nat.le_trans (Nat.le_succ _) (inductionHypothesis token member)
  | token _ _ _ inductionHypothesis =>
      rw [List.forall_mem_cons]
      exact ⟨Nat.le_refl _, fun token member =>
        Nat.le_trans (Nat.le_add_right _ _) (inductionHypothesis token member)⟩

theorem apart (cut : Cut position text tokens) :
    tokens.Pairwise fun first second => first.stop ≤ second.position := by
  induction cut with
  | nothing => exact .nil
  | blank _ _ inductionHypothesis => exact inductionHypothesis
  | token _ _ further inductionHypothesis => exact .cons further.position_le inductionHypothesis

theorem position_lt_stop (cut : Cut position text tokens) :
    ∀ token ∈ tokens, token.position < token.stop := by
  induction cut with
  | nothing => exact nofun
  | blank _ _ inductionHypothesis => exact inductionHypothesis
  | token _ found _ inductionHypothesis =>
      rw [List.forall_mem_cons]
      exact ⟨Nat.lt_add_of_pos_right (scanLexeme?_eq_append found).2, inductionHypothesis⟩

theorem increasing (cut : Cut position text tokens) :
    tokens.Pairwise fun first second => first.position < second.position := by
  refine List.Pairwise.imp_of_mem ?_ cut.apart
  intro first second inTokens _ apart
  exact Nat.lt_of_lt_of_le (cut.position_lt_stop first inTokens) apart

theorem exists_eq_append (cut : Cut position text tokens) :
    ∀ token ∈ tokens, ∃ before after,
      text = before ++ token.lexeme.text ++ after ∧ token.position = position + before.length := by
  induction cut with
  | nothing => exact nofun
  | @blank _ c _ _ _ _ inductionHypothesis =>
      intro token member
      obtain ⟨before, after, rfl, stands⟩ := inductionHypothesis token member
      refine ⟨c :: before, after, rfl, ?_⟩
      rw [stands, List.length_cons]
      omega
  | @token _ c rest after lexeme _ _ found _ inductionHypothesis =>
      have shown := (scanLexeme?_eq_append found).1
      rw [List.forall_mem_cons]
      refine ⟨⟨[], after, shown, rfl⟩, fun token member => ?_⟩
      obtain ⟨before, behind, isAfter, stands⟩ := inductionHypothesis token member
      refine ⟨lexeme.text ++ before, behind, ?_, ?_⟩
      · rw [shown, isAfter]
        simp
      · rw [stands, List.length_append]
        omega

/-- A character that stands in no token is a blank. -/
theorem isBlank_of_outside (cut : Cut position text tokens) {i : Nat} {c : Char}
    (stands : text[i]? = some c)
    (outside : ∀ token ∈ tokens, ¬(token.position ≤ position + i ∧ position + i < token.stop)) :
    Text.isBlank c = true := by
  induction cut generalizing i with
  | nothing => cases stands
  | blank blank _ inductionHypothesis =>
      cases i with
      | zero =>
          cases stands
          exact blank
      | succ i =>
          apply inductionHypothesis stands
          intro token member
          rw [Nat.add_right_comm, Nat.add_assoc]
          exact outside token member
  | @token position _ _ after lexeme _ _ found _ inductionHypothesis =>
      rw [List.forall_mem_cons] at outside
      obtain ⟨outsideFirst, outsideOthers⟩ := outside
      have behind : lexeme.text.length ≤ i := by
        simp only [Token.stop] at outsideFirst
        omega
      obtain ⟨j, rfl⟩ := Nat.exists_eq_add_of_le behind
      rw [(scanLexeme?_eq_append found).1, List.getElem?_append_right behind,
        Nat.add_sub_cancel_left] at stands
      apply inductionHypothesis stands
      rw [Nat.add_assoc]
      exact outsideOthers

end Cut

/-- The tokens of a text as slices of it: in order, apart, and with blanks around them. -/
structure AreSlices (text : List Char) (tokens : List Token) : Prop where
  increasing : tokens.Pairwise fun first second => first.position < second.position
  apart : tokens.Pairwise fun first second => first.stop ≤ second.position
  slices : ∀ token ∈ tokens, text.extract token.position token.stop = token.lexeme.text
  blanks : ∀ i c, text[i]? = some c →
    (∀ token ∈ tokens, ¬(token.position ≤ i ∧ i < token.stop)) → Text.isBlank c = true

theorem Cut.areSlices {text : List Char} {tokens : List Token} (cut : Cut 0 text tokens) :
    AreSlices text tokens where
  increasing := cut.increasing
  apart := cut.apart
  slices token member := by
    obtain ⟨before, after, rfl, stands⟩ := cut.exists_eq_append token member
    rw [Nat.zero_add] at stands
    simp [Token.stop, stands, List.extract_eq_take_drop]
  blanks i c stands outside := by
    apply cut.isBlank_of_outside stands
    simpa using outside

/-- What may follow a token without a change to it: a blank, or nothing. -/
def StartsBlank (rest : List Char) : Prop := ∀ c ∈ rest.head?, Text.isBlank c = true

/-- A lexeme that is read wherever its text is followed by a blank or by nothing. -/
def ReadsAlone (lexeme : Lexeme) : Prop :=
  ∀ rest, StartsBlank rest →
    lexemes? (lexeme.text ++ rest) = (lexemes? rest).map (lexeme :: ·)

theorem StartsBlank.endsWord {rest : List Char} (blank : StartsBlank rest) : EndsWord rest := by
  intro c head
  simp [endsWord_eq, blank c head]

theorem StartsBlank.endsOperator {rest : List Char} (blank : StartsBlank rest) :
    EndsOperator rest := by
  intro c head
  rw [Bool.eq_false_iff]
  intro symbol
  have notBlank := isBlank_eq_false_of_isMark (show isMark c = true by simp [isMark, symbol])
  rw [blank c head] at notBlank
  cases notBlank

/-- Bracketed text that is found stands by itself: what follows it does not matter. -/
theorem closing_found {depth : Nat} {text inside after : List Char}
    (found : closing depth text = some (inside, after)) (rest : List Char) :
    closing depth (inside ++ rest) = some (inside, rest) := by
  -- By length, since a quoted text inside the brackets is taken at once.
  induction h : text.length using Nat.strongRecOn generalizing depth text inside after with
  | _ length inductionHypothesis =>
      subst h
      cases text with
      | nil => cases found
      | cons c others =>
          cases quote : isQuote c with
          | true =>
              rw [closing_quote depth quote] at found
              simp only [Option.bind_eq_some_iff, Option.map_eq_some_iff, Prod.mk.injEq] at found
              obtain ⟨⟨quoted, last⟩, isQuoted, ⟨text, final⟩, further, rfl, rfl⟩ := found
              obtain ⟨shown, scans⟩ := scanQuoted_found isQuoted
              have shorter : last.length < (c :: others).length := by
                rw [shown, List.length_cons, List.length_append]
                omega
              have closes := inductionHypothesis last.length shorter further rfl
              simp only [List.cons_append, List.append_assoc, closing_quote depth quote, scans,
                closes, Option.bind_some, Option.map_some]
          | false =>
              by_cases last : (c = ']' ∨ c = '}') ∧ depth ≤ 1
              · rw [closing_last last.1 last.2] at found
                cases found
                exact closing_last last.1 last.2 rest
              · rw [closing_other quote last] at found
                simp only [Option.map_eq_some_iff, Prod.mk.injEq] at found
                obtain ⟨⟨text, final⟩, further, rfl, rfl⟩ := found
                have closes := inductionHypothesis others.length (Nat.lt_succ_self _) further rfl
                rw [List.cons_append, closing_other quote last, closes]
                rfl

theorem scanOperator_symbol (operator : Operator) {rest : List Char} (ends : EndsOperator rest) :
    scanOperator (operator.symbol ++ rest) = some (operator, rest) := by
  have short {c : Char} {single : Operator} (symbol : isSymbol c = true)
      (alone : shortOperator? c = some single) :
      scanOperator (c :: rest) = some (single, rest) := by
    rw [scanOperator_eq symbol, if_neg (ends.head?_ne c), alone]
    rfl
  cases operator with
  | comparison kind =>
      cases kind with
      | greater | less => exact short rfl rfl
      | equal | notEqual | atLeast | atMost => rfl
  | both | either => rfl
  | negation => exact short rfl rfl

theorem readsAlone_operator (operator : Operator) : ReadsAlone (.operator operator) := by
  intro rest blank
  obtain ⟨c, others, shown⟩ := List.exists_cons_of_ne_nil operator.symbol_ne_nil
  have symbol : isSymbol c = true := by
    cases operator with
    | comparison kind => cases kind <;> cases shown <;> rfl
    | both | either | negation => cases shown; rfl
  have notBlank := isBlank_eq_false_of_isMark (show isMark c = true by simp [isMark, symbol])
  have scans := scanOperator_symbol operator blank.endsOperator
  rw [shown, List.cons_append] at scans
  rw [Lexeme.text, shown, List.cons_append, lexemes?_cons notBlank, scanLexeme?_symbol symbol,
    scans]
  rfl

/-- Whatever follows a lexeme that was found, it is found again where a blank or nothing does. -/
theorem readsAlone_of_scanLexeme? {c : Char} {rest after : List Char} {lexeme : Lexeme}
    (notBlank : Text.isBlank c = false) (found : scanLexeme? c rest = some (lexeme, after)) :
    ReadsAlone lexeme := by
  cases quote : isQuote c with
  | true =>
      rw [scanLexeme?_quote quote] at found
      simp only [Option.map_eq_some_iff, Prod.mk.injEq] at found
      obtain ⟨⟨quoted, last⟩, isQuoted, rfl, rfl⟩ := found
      exact fun rest _ => lexemes?_quoted quote (scanQuoted_found isQuoted).2 rest
  | false =>
      cases symbol : isSymbol c with
      | true =>
          rw [scanLexeme?_symbol symbol] at found
          simp only [Option.map_eq_some_iff, Prod.mk.injEq] at found
          obtain ⟨⟨operator, last⟩, -, rfl, rfl⟩ := found
          exact readsAlone_operator operator
      | false =>
          by_cases bracket : c = '[' ∨ c = '{'
          · rw [scanLexeme?_bracket bracket] at found
            simp only [Option.map_eq_some_iff, Prod.mk.injEq] at found
            obtain ⟨⟨inside, last⟩, isBracketed, rfl, rfl⟩ := found
            intro rest _
            rw [Lexeme.text, List.cons_append, lexemes?_cons notBlank,
              scanLexeme?_bracket bracket, closing_found isBracketed]
            rfl
          · by_cases opening : c = '('
            · subst opening
              cases found
              exact fun rest _ => lexemes?_opening rest
            · by_cases closing : c = ')'
              · subst closing
                cases found
                exact fun rest _ => lexemes?_closing rest
              · have inside : endsWord c = false := by
                  simp [endsWord_eq, notBlank, quote, symbol, opening, closing]
                rw [scanLexeme?_word inside bracket] at found
                cases found
                intro rest blank
                refine lexesTo_word (List.cons_ne_nil _ _) ?_ ?_ rest blank.endsWord
                · rw [List.forall_mem_cons]
                  refine ⟨inside, fun d member => ?_⟩
                  simpa using Text.mem_takeWhile member
                · simpa using bracket

theorem Cut.readsAlone {position : Nat} {text : List Char} {tokens : List Token}
    (cut : Cut position text tokens) : ∀ token ∈ tokens, ReadsAlone token.lexeme := by
  induction cut with
  | nothing => exact nofun
  | blank _ _ inductionHypothesis => exact inductionHypothesis
  | token notBlank found _ inductionHypothesis =>
      rw [List.forall_mem_cons]
      exact ⟨readsAlone_of_scanLexeme? notBlank found, inductionHypothesis⟩

theorem lexemes?_spaced {lexemes : List Lexeme} (alone : ∀ lexeme ∈ lexemes, ReadsAlone lexeme) :
    lexemes? ([' '].intercalate (lexemes.map Lexeme.text)) = some lexemes := by
  induction lexemes with
  | nil => rfl
  | cons lexeme others inductionHypothesis =>
      rw [List.forall_mem_cons] at alone
      obtain ⟨first, further⟩ := alone
      cases others with
      | nil =>
          have alone := first [] nofun
          rw [List.append_nil, lexemes?_nil] at alone
          simpa using alone
      | cons next others =>
          have spaced (rest : List Char) :
              lexemes? (lexeme.text ++ ' ' :: rest) = (lexemes? rest).map (lexeme :: ·) := by
            rw [first (' ' :: rest) (by rintro _ ⟨⟩; rfl), lexemes?_blank rfl]
          rw [List.map_cons, List.map_cons, List.intercalate_cons_cons, List.append_assoc,
            List.singleton_append, spaced, ← List.map_cons, inductionHypothesis further]
          rfl

/-- What a refusal points at: a quote that stays open, a bracket that stays open, or a character
that makes no operator by itself. The text starts at a given place. -/
inductive PointsInto (position : Nat) (text : List Char) : Refusal → Prop where
  | quote {i : Nat} {c : Char} (stands : text[i]? = some c) (quote : isQuote c = true) :
      PointsInto position text (.unterminatedQuote (position + i))
  | bracket {i : Nat} {c : Char} (stands : text[i]? = some c) (bracket : c = '[' ∨ c = '{') :
      PointsInto position text (.unbalancedBrackets (position + i))
  | stray {i : Nat} {c : Char} (stands : text[i]? = some c) (stray : c = '=' ∨ c = '&' ∨ c = '|') :
      PointsInto position text (.strayOperator c (position + i))

theorem PointsInto.append {position : Nat} (before : List Char) {text : List Char}
    {refusal : Refusal} (points : PointsInto (position + before.length) text refusal) :
    PointsInto position (before ++ text) refusal := by
  have shifted {i : Nat} {c : Char} (stands : text[i]? = some c) :
      (before ++ text)[before.length + i]? = some c := by
    rw [List.getElem?_append_right (Nat.le_add_right _ _), Nat.add_sub_cancel_left, stands]
  cases points with
  | quote stands quote =>
      rw [Nat.add_assoc]
      exact .quote (shifted stands) quote
  | bracket stands bracket =>
      rw [Nat.add_assoc]
      exact .bracket (shifted stands) bracket
  | stray stands stray =>
      rw [Nat.add_assoc]
      exact .stray (shifted stands) stray

theorem scanBracketed_refuses {start fuel depth position : Nat} {text : List Char}
    {refusal : Refusal} (refused : scanBracketed start fuel depth position text = .error refusal) :
    refusal = .unbalancedBrackets start ∨ PointsInto position text refusal := by
  induction fuel generalizing depth position text with
  | zero =>
      cases refused
      exact .inl rfl
  | succ fuel inductionHypothesis =>
      cases text with
      | nil =>
          cases refused
          exact .inl rfl
      | cons c rest =>
          simp only [scanBracketed] at refused
          split at refused
          · next quote =>
              split at refused
              · cases refused
                exact .inr (.quote (i := 0) rfl quote)
              · next quoted after isQuoted =>
                  have shown : c :: rest = (c :: quoted) ++ after := by
                    rw [scanQuoted_eq_append isQuoted, List.cons_append]
                  simp only [bind_eq_error_iff, reduceCtorEq, and_false, exists_false,
                    or_false] at refused
                  refine (inductionHypothesis refused).imp_right fun points => ?_
                  rw [shown]
                  apply PointsInto.append
                  rwa [List.length_cons, ← Nat.add_assoc, Nat.add_right_comm]
          · split at refused
            · cases refused
            · simp only [bind_eq_error_iff, reduceCtorEq, and_false, exists_false,
                or_false] at refused
              exact (inductionHypothesis refused).imp_right (PointsInto.append [c])

theorem scanToken_refuses {position : Nat} {c : Char} {rest : List Char} {refusal : Refusal}
    (refused : scanToken position c rest = .error refusal) :
    PointsInto position (c :: rest) refusal := by
  unfold scanToken at refused
  split at refused
  · next quote =>
      split at refused
      · cases refused
        exact .quote (i := 0) rfl quote
      · cases refused
  · split at refused
    · next bracket =>
        simp only [bind_eq_error_iff, reduceCtorEq, and_false, exists_false, or_false] at refused
        rcases scanBracketed_refuses refused with rfl | points
        · exact .bracket (i := 0) rfl bracket
        · exact points.append [c]
    · split at refused
      · cases refused
      · split at refused
        · cases refused
        · split at refused
          · cases refused
          · split at refused
            · next stray =>
                cases refused
                exact .stray (i := 0) rfl stray
            · cases refused

theorem tokenizeFrom_refuses {fuel position : Nat} {text : List Char} {refusal : Refusal}
    (refused : tokenizeFrom fuel position text = .error refusal) :
    PointsInto position text refusal := by
  induction fuel generalizing position text with
  | zero => cases text <;> cases refused
  | succ fuel inductionHypothesis =>
      cases text with
      | nil => cases refused
      | cons c rest =>
          rw [tokenizeFrom] at refused
          split at refused
          · exact (inductionHypothesis refused).append [c]
          · simp only [bind_eq_error_iff, reduceCtorEq, and_false, exists_false, or_false,
              Prod.exists] at refused
            rcases refused with refused | ⟨lexeme, after, found, refused⟩
            · exact scanToken_refuses refused
            · obtain ⟨inside, shown, rfl⟩ := scanToken_eq_append found
              rw [← List.cons_append, ← shown]
              exact (inductionHypothesis refused).append _

/-- A text is refused for one of its characters, or its tokens are slices of it with blanks around
them, and their texts with single spaces in between are the same tokens again. -/
theorem tokenize_slices (text : List Char) :
    (∃ refusal, tokenize text = .error refusal ∧ PointsInto 0 text refusal) ∨
      ∃ tokens, tokenize text = .ok tokens ∧ AreSlices text tokens ∧
        ∃ again, tokenize ([' '].intercalate (tokens.map fun token => token.lexeme.text)) =
            .ok again ∧
          again.map Token.lexeme = tokens.map Token.lexeme := by
  cases tokenized : tokenize text with
  | error refusal => exact .inl ⟨refusal, rfl, tokenizeFrom_refuses tokenized⟩
  | ok tokens =>
      have cut := cut_of_tokenize tokenized
      have spaced : lexemes? ([' '].intercalate (tokens.map fun token => token.lexeme.text)) =
          some (tokens.map Token.lexeme) := by
        have alone : ∀ lexeme ∈ tokens.map Token.lexeme, ReadsAlone lexeme := by
          simpa using cut.readsAlone
        simpa [Function.comp_def] using lexemes?_spaced alone
      exact .inr ⟨tokens, rfl, cut.areSlices, lexemes?_eq_some_iff.mp spaced⟩

end Automation.Condition
