import Automation.Proofs.Lexing.Slices
import Automation.Proofs.Substitution.Spans
import Mathlib.Data.List.Forall2

/-!
Substitution and the tokenizer keep to the same quoted texts.

The tokenizer steps over a quoted text where it meets a quote, outside of brackets and inside of
them. `noteTokens` is the tokenizer with a note of every such text beside the token that it belongs
to. Substitution looks for quoted texts without regard to tokens. In a condition whose quotes are
all closed both find the same ones, at the same places.
-/

namespace Automation.Condition

/-- A quoted text and the place of its first quote. -/
structure Quotation where
  text : List Char
  position : Nat
  deriving DecidableEq, Repr

def Quotation.stop (quotation : Quotation) : Nat := quotation.position + quotation.text.length

/-- `scanBracketed` with the quoted texts that it steps over. -/
def noteBracketed (start : Nat) : (fuel depth position : Nat) → List Char →
    Except Refusal ((List Char × List Char) × List Quotation)
  | 0, _, _, _ => .error (.unbalancedBrackets start)
  | _ + 1, _, _, [] => .error (.unbalancedBrackets start)
  | fuel + 1, depth, position, c :: rest =>
      if isQuote c then
        match scanQuoted c rest with
        | none => .error (.unterminatedQuote position)
        | some (quoted, after) => do
            let ((text, last), noted) ←
              noteBracketed start fuel depth (position + 1 + quoted.length) after
            .ok ((c :: quoted ++ text, last), ⟨c :: quoted, position⟩ :: noted)
      else if (c = ']' ∨ c = '}') ∧ depth ≤ 1 then .ok (([c], rest), [])
      else do
        let ((text, last), noted) ← noteBracketed start fuel (deepen depth c) (position + 1) rest
        .ok ((c :: text, last), noted)

/-- `scanToken` with the quoted texts that it steps over. -/
def noteToken (position : Nat) (c : Char) (rest : List Char) :
    Except Refusal ((Lexeme × List Char) × List Quotation) :=
  if isQuote c then
    match scanQuoted c rest with
    | none => .error (.unterminatedQuote position)
    | some (quoted, after) => .ok ((.quoted (c :: quoted), after), [⟨c :: quoted, position⟩])
  else if c = '[' ∨ c = '{' then do
    let ((text, after), noted) ← noteBracketed position (rest.length + 1) 1 (position + 1) rest
    .ok ((.bracketed (c :: text), after), noted)
  -- No other token is looked for with `scanQuoted`.
  else (·, []) <$> scanToken position c rest

/-- `tokenizeFrom` with the quoted texts that each token steps over. -/
def noteTokensFrom : (fuel position : Nat) → List Char →
    Except Refusal (List (Token × List Quotation))
  | _, _, [] => .ok []
  | 0, _, _ :: _ => .ok []
  | fuel + 1, position, c :: rest =>
      if Text.isBlank c then noteTokensFrom fuel (position + 1) rest
      else do
        let ((lexeme, after), noted) ← noteToken position c rest
        let steps ← noteTokensFrom fuel (position + lexeme.text.length) after
        .ok ((⟨lexeme, position⟩, noted) :: steps)

/-- The tokens of a text, each with the quoted texts that the tokenizer steps over in it. -/
def noteTokens (text : List Char) : Except Refusal (List (Token × List Quotation)) :=
  noteTokensFrom text.length 0 text

theorem fst_noteBracketed (start fuel depth position : Nat) (text : List Char) :
    Prod.fst <$> noteBracketed start fuel depth position text =
      scanBracketed start fuel depth position text := by
  induction fuel generalizing depth position text with
  | zero => rfl
  | succ fuel inductionHypothesis =>
      cases text with
      | nil => rfl
      | cons c rest =>
          rw [noteBracketed, scanBracketed]
          split
          · cases scanQuoted c rest with
            | none => rfl
            | some quoted =>
                simp only [← inductionHypothesis]
                cases noteBracketed start fuel depth (position + 1 + quoted.1.length) quoted.2 <;>
                  rfl
          · split
            · rfl
            · simp only [deepen, ← inductionHypothesis]
              cases noteBracketed start fuel _ (position + 1) rest <;> rfl

theorem fst_noteToken (position : Nat) (c : Char) (rest : List Char) :
    Prod.fst <$> noteToken position c rest = scanToken position c rest := by
  unfold noteToken
  split
  · next quote =>
      rw [scanToken, if_pos quote]
      cases scanQuoted c rest <;> rfl
  · next noQuote =>
      split
      · next bracket =>
          rw [scanToken, if_neg noQuote, if_pos bracket, ← fst_noteBracketed]
          cases noteBracketed position (rest.length + 1) 1 (position + 1) rest <;> rfl
      · cases scanToken position c rest <;> rfl

theorem fst_noteTokensFrom (fuel position : Nat) (text : List Char) :
    List.map Prod.fst <$> noteTokensFrom fuel position text = tokenizeFrom fuel position text := by
  induction fuel generalizing position text with
  | zero => cases text <;> rfl
  | succ fuel inductionHypothesis =>
      cases text with
      | nil => rfl
      | cons c rest =>
          rw [noteTokensFrom, tokenizeFrom]
          split
          · exact inductionHypothesis (position + 1) rest
          · rw [← fst_noteToken]
            cases noteToken position c rest with
            | error refusal => rfl
            | ok found =>
                simp only [ok_bind, map_ok, ← inductionHypothesis]
                cases noteTokensFrom fuel (position + found.1.1.text.length) found.1.2 <;> rfl

/-- The notes leave the tokens as they are. -/
theorem fst_noteTokens (text : List Char) :
    List.map Prod.fst <$> noteTokens text = tokenize text :=
  fst_noteTokensFrom text.length 0 text

def Span.text : Span → List Char
  | .plain text | .quoted text => text

/-- The quoted texts among spans that start at a given place. -/
def quotations : (position : Nat) → List Span → List Quotation
  | _, [] => []
  | position, .plain text :: rest => quotations (position + text.length) rest
  | position, .quoted text :: rest =>
      ⟨text, position⟩ :: quotations (position + text.length) rest

theorem text_consPlain (c : Char) (spans : List Span) :
    (consPlain c spans).flatMap Span.text = c :: spans.flatMap Span.text := by
  match spans with
  | [] | .plain _ :: _ | .quoted _ :: _ => rfl

theorem quotations_consPlain (position : Nat) (c : Char) (spans : List Span) :
    quotations position (consPlain c spans) = quotations (position + 1) spans := by
  match spans with
  | [] | .quoted _ :: _ => rfl
  | .plain text :: _ => rw [consPlain, quotations, quotations, List.length_cons, Nat.add_right_comm,
      Nat.add_assoc]

def kept (position : Nat) (text : List Char) : List Quotation := quotations position (spans text)

theorem kept_plain (position : Nat) {c : Char} (noQuote : isQuote c = false) (rest : List Char) :
    kept position (c :: rest) = kept (position + 1) rest := by
  rw [kept, spans_plain noQuote, quotations_consPlain, kept]

theorem kept_run (position : Nat) {run : List Char} (noQuote : ∀ c ∈ run, isQuote c = false)
    (rest : List Char) : kept position (run ++ rest) = kept (position + run.length) rest := by
  induction run generalizing position with
  | nil => rfl
  | cons c others inductionHypothesis =>
      rw [List.forall_mem_cons] at noQuote
      rw [List.cons_append, kept_plain position noQuote.1, inductionHypothesis _ noQuote.2,
        List.length_cons, Nat.add_assoc, Nat.add_comm 1]

theorem kept_quoted (position : Nat) {c : Char} (quote : isQuote c = true) {body : List Char}
    (quotes : Quotes c body) (rest : List Char) : kept position (c :: (body ++ rest)) =
      ⟨c :: body, position⟩ :: kept (position + 1 + body.length) rest := by
  rw [kept, ← List.cons_append, spans_quoted quote quotes, quotations, List.length_cons,
    Nat.add_comm body.length, Nat.add_assoc, kept]

/-- A closed text that starts with a quote starts with a quoted text, which the tokenizer finds. -/
theorem Closed.cons_cases {c : Char} {rest : List Char} (closed : Closed (c :: rest)) :
    isQuote c = false ∧ Closed rest ∨
      isQuote c = true ∧ ∃ body after, rest = body ++ after ∧ Quotes c body ∧ Closed after := by
  generalize whole : c :: rest = text at closed
  cases closed with
  | nil => cases whole
  | plain noQuote closed =>
      cases whole
      exact .inl ⟨noQuote, closed⟩
  | quoted quote quotes closed =>
      cases whole
      exact .inr ⟨quote, _, _, rfl, quotes, closed⟩

/-- What a scanner takes from the front of a text: the rest is closed, and substitution keeps in the
part that is taken what the scanner steps over. -/
structure Takes (position : Nat) (text taken after : List Char) (noted : List Quotation) :
    Prop where
  closed : Closed after
  kept : kept position text = noted ++ kept (position + taken.length) after

theorem takes_of_noteBracketed {start fuel depth position : Nat} {text inside after : List Char}
    {noted : List Quotation} (closed : Closed text)
    (found : noteBracketed start fuel depth position text = .ok ((inside, after), noted)) :
    Takes position text inside after noted := by
  induction fuel generalizing depth position text inside after noted with
  | zero => cases found
  | succ fuel inductionHypothesis =>
      cases text with
      | nil => cases found
      | cons c rest =>
          rw [noteBracketed] at found
          rcases closed.cons_cases with
            ⟨noQuote, closed⟩ | ⟨quote, body, behind, rfl, quotes, closed⟩
          · rw [if_neg (by simp [noQuote])] at found
            split at found
            · cases found
              exact ⟨closed, kept_plain position noQuote after⟩
            · simp only [bind_eq_ok_iff, Except.ok.injEq, Prod.mk.injEq] at found
              obtain ⟨⟨⟨text, last⟩, others⟩, further, ⟨rfl, rfl⟩, rfl⟩ := found
              obtain ⟨lastClosed, isKept⟩ := inductionHypothesis closed further
              refine ⟨lastClosed, ?_⟩
              rw [kept_plain position noQuote, isKept, List.length_cons, Nat.add_assoc,
                Nat.add_comm 1]
          · rw [if_pos quote, quotes.scan] at found
            simp only [bind_eq_ok_iff, Except.ok.injEq, Prod.mk.injEq] at found
            obtain ⟨⟨⟨text, last⟩, others⟩, further, ⟨rfl, rfl⟩, rfl⟩ := found
            obtain ⟨lastClosed, isKept⟩ := inductionHypothesis closed further
            refine ⟨lastClosed, ?_⟩
            rw [kept_quoted position quote quotes, isKept, List.cons_append]
            simp only [List.length_cons, List.length_append, List.cons_append]
            congr 3
            omega

/-- Quoted texts that are stepped over stand in front of the bracket that closes. -/
theorem within_of_noteBracketed {start fuel depth position : Nat} {text inside after : List Char}
    {noted : List Quotation}
    (found : noteBracketed start fuel depth position text = .ok ((inside, after), noted)) :
    0 < inside.length ∧ ∀ quotation ∈ noted,
      position ≤ quotation.position ∧ quotation.stop < position + inside.length := by
  induction fuel generalizing depth position text inside after noted with
  | zero => cases found
  | succ fuel inductionHypothesis =>
      cases text with
      | nil => cases found
      | cons c rest =>
          rw [noteBracketed] at found
          split at found
          · split at found
            · cases found
            · simp only [bind_eq_ok_iff, Except.ok.injEq, Prod.mk.injEq] at found
              obtain ⟨⟨⟨text, last⟩, others⟩, further, ⟨rfl, rfl⟩, rfl⟩ := found
              obtain ⟨notEmpty, within⟩ := inductionHypothesis further
              simp only [List.length_append, List.length_cons] at notEmpty within ⊢
              rw [List.forall_mem_cons]
              refine ⟨by omega, ⟨Nat.le_refl _, ?_⟩, fun quotation member => ?_⟩
              · -- The bracket that closes is still to come.
                simp only [Quotation.stop, List.length_cons]
                omega
              · obtain ⟨before, behind⟩ := within quotation member
                omega
          · split at found
            · cases found
              exact ⟨Nat.one_pos, List.forall_mem_nil _⟩
            · simp only [bind_eq_ok_iff, Except.ok.injEq, Prod.mk.injEq] at found
              obtain ⟨⟨⟨text, last⟩, others⟩, further, ⟨rfl, rfl⟩, rfl⟩ := found
              refine ⟨Nat.succ_pos _, fun quotation member => ?_⟩
              obtain ⟨before, behind⟩ := (inductionHypothesis further).2 quotation member
              simp only [List.length_cons] at behind ⊢
              omega

/-- The quoted texts that the tokenizer steps over in a token: the token itself where it is quoted,
texts between its brackets where it is bracketed, and none in any other token. -/
def StepsOver (token : Token) (noted : List Quotation) : Prop :=
  match token.lexeme with
  | .quoted text => noted = [⟨text, token.position⟩]
  | .bracketed _ => ∀ quotation ∈ noted,
      token.position < quotation.position ∧ quotation.stop < token.stop
  | _ => noted = []

theorem isQuote_of_mem_symbol {operator : Operator} {c : Char} (member : c ∈ operator.symbol) :
    isQuote c = false := by
  have noQuotes : operator.symbol.all (!isQuote ·) = true := by
    cases operator with
    | comparison kind => cases kind <;> rfl
    | both | either | negation => rfl
  simpa using List.all_eq_true.mp noQuotes c member

theorem isQuote_of_scanToken {position : Nat} {c : Char} {rest after : List Char} {lexeme : Lexeme}
    (noQuote : isQuote c = false) (noBracket : ¬(c = '[' ∨ c = '{'))
    (found : scanToken position c rest = .ok (lexeme, after)) :
    (∀ d ∈ lexeme.text, isQuote d = false) ∧ StepsOver ⟨lexeme, position⟩ [] := by
  rw [scanToken, if_neg (by simp [noQuote]), if_neg noBracket] at found
  split at found
  · cases found
    exact ⟨fun d member => List.mem_singleton.mp member ▸ rfl, rfl⟩
  · split at found
    · cases found
      exact ⟨fun d member => List.mem_singleton.mp member ▸ rfl, rfl⟩
    · split at found
      · cases found
        exact ⟨fun d member => isQuote_of_mem_symbol member, rfl⟩
      · split at found
        · cases found
        · cases found
          refine ⟨?_, rfl⟩
          rw [Lexeme.text, List.forall_mem_cons]
          -- A quote ends a word.
          refine ⟨noQuote, fun d member => ?_⟩
          have inside := Text.mem_takeWhile member
          simp only [endsWord_eq, Bool.not_eq_true', Bool.or_eq_false_iff] at inside
          exact inside.1.1.1.2

theorem takes_of_noteToken {position : Nat} {c : Char} {rest after : List Char} {lexeme : Lexeme}
    {noted : List Quotation} (closed : Closed (c :: rest))
    (found : noteToken position c rest = .ok ((lexeme, after), noted)) :
    Takes position (c :: rest) lexeme.text after noted ∧ StepsOver ⟨lexeme, position⟩ noted := by
  rcases closed.cons_cases with ⟨noQuote, restClosed⟩ | ⟨quote, body, behind, rfl, quotes, closed⟩
  · rw [noteToken, if_neg (by simp [noQuote])] at found
    split at found
    · simp only [bind_eq_ok_iff, Except.ok.injEq, Prod.mk.injEq] at found
      obtain ⟨⟨⟨text, last⟩, others⟩, bracketed, ⟨rfl, rfl⟩, rfl⟩ := found
      obtain ⟨lastClosed, isKept⟩ := takes_of_noteBracketed restClosed bracketed
      refine ⟨⟨lastClosed, ?_⟩, fun quotation member => ?_⟩
      · rw [kept_plain position noQuote, isKept, Lexeme.text, List.length_cons, Nat.add_assoc,
          Nat.add_comm 1]
      · obtain ⟨before, stops⟩ := (within_of_noteBracketed bracketed).2 quotation member
        simp only [Token.stop, Lexeme.text, List.length_cons] at before stops ⊢
        omega
    · next noBracket =>
        obtain ⟨⟨lexeme, after⟩, scanned, same⟩ := map_eq_ok_iff.mp found
        cases same
        obtain ⟨noQuotes, stepsOver⟩ := isQuote_of_scanToken noQuote noBracket scanned
        obtain ⟨inside, shown, rfl⟩ := scanToken_eq_append scanned
        have whole : c :: (inside ++ after) = lexeme.text ++ after := by
          rw [shown, List.cons_append]
        rw [whole] at closed ⊢
        exact ⟨⟨closed.of_append noQuotes, kept_run position noQuotes after⟩, stepsOver⟩
  · rw [noteToken, if_pos quote, quotes.scan] at found
    cases found
    refine ⟨⟨closed, ?_⟩, rfl⟩
    rw [kept_quoted position quote quotes, Lexeme.text, List.length_cons, Nat.add_assoc,
      Nat.add_comm 1]
    rfl

theorem steps_of_noteTokensFrom {fuel position : Nat} {text : List Char}
    {steps : List (Token × List Quotation)} (enough : text.length ≤ fuel) (closed : Closed text)
    (found : noteTokensFrom fuel position text = .ok steps) :
    steps.flatMap Prod.snd = kept position text ∧ ∀ step ∈ steps, StepsOver step.1 step.2 := by
  induction fuel generalizing position text steps with
  | zero =>
      obtain rfl : text = [] := List.eq_nil_of_length_eq_zero (Nat.le_zero.mp enough)
      cases found
      exact ⟨rfl, nofun⟩
  | succ fuel inductionHypothesis =>
      cases text with
      | nil =>
          cases found
          exact ⟨rfl, nofun⟩
      | cons c rest =>
          rw [List.length_cons, Nat.add_le_add_iff_right] at enough
          rw [noteTokensFrom] at found
          split at found
          · next blank =>
              rcases closed.cons_cases with ⟨noQuote, closed⟩ | ⟨quote, -⟩
              · rw [kept_plain position noQuote]
                exact inductionHypothesis enough closed found
              · rw [isBlank_eq_false_of_isQuote quote] at blank
                cases blank
          · simp only [bind_eq_ok_iff, Except.ok.injEq] at found
            obtain ⟨⟨⟨lexeme, after⟩, noted⟩, first, others, further, rfl⟩ := found
            obtain ⟨⟨afterClosed, isKept⟩, stepsOver⟩ := takes_of_noteToken closed first
            have scanned := fst_noteToken position c rest
            rw [first] at scanned
            have shorter := Nat.le_trans (scanToken_length scanned.symm) enough
            obtain ⟨othersKept, othersStepOver⟩ := inductionHypothesis shorter afterClosed further
            rw [List.forall_mem_cons, List.flatMap_cons, othersKept, isKept]
            exact ⟨rfl, stepsOver, othersStepOver⟩

theorem text_spans {text : List Char} (closed : Closed text) :
    (spans text).flatMap Span.text = text := by
  induction closed with
  | nil => rfl
  | plain noQuote _ inductionHypothesis =>
      rw [spans_plain noQuote, text_consPlain, inductionHypothesis]
  | quoted quote quotes _ inductionHypothesis =>
      rw [spans_quoted quote quotes, List.flatMap_cons, inductionHypothesis, Span.text]

/-- What stands for a span in a condition with the variables put in: the names of plain text are
replaced, and a quoted text stays as it is. -/
def StandsFor (names : List (List Char × Value)) : Span → List Char → Prop
  | .plain text, piece => substitutePlain names text.length none text = .ok piece
  | .quoted text, piece => piece = text

theorem standsFor_of_substituteSpans {names : List (List Char × Value)} {spans : List Span}
    {filled : List Char} (found : substituteSpans names spans = .ok filled) :
    ∃ pieces, List.Forall₂ (StandsFor names) spans pieces ∧ pieces.flatten = filled := by
  induction spans generalizing filled with
  | nil =>
      cases found
      exact ⟨[], .nil, rfl⟩
  | cons span others inductionHypothesis =>
      rw [substituteSpans] at found
      simp only [bind_eq_ok_iff, Except.ok.injEq] at found
      obtain ⟨piece, first, rest, further, rfl⟩ := found
      obtain ⟨pieces, stand, rfl⟩ := inductionHypothesis further
      refine ⟨piece :: pieces, .cons ?_ stand, rfl⟩
      cases span with
      | plain text => exact first
      | quoted text =>
          cases first
          rfl

/-- In a condition whose quotes are all closed, the quoted texts that substitution keeps are those
that the tokenizer steps over, at the same places: quoted tokens, and texts between the brackets of
bracketed ones. Whatever the variables are, each of them stands in its place when they are put
in. -/
theorem substitution_keeps_quotations {text : List Char} (closed : quotesClosed text = true) :
    (∀ tokens, tokenize text = .ok tokens → ∃ steps, noteTokens text = .ok steps ∧
      steps.map Prod.fst = tokens ∧ (∀ step ∈ steps, StepsOver step.1 step.2) ∧
      steps.flatMap Prod.snd = quotations 0 (spans text)) ∧
    (spans text).flatMap Span.text = text ∧
    ∀ scope filled, substitute scope text = .ok filled → ∃ pieces,
      List.Forall₂ (StandsFor (namesLongestFirst scope)) (spans text) pieces ∧
        pieces.flatten = filled := by
  have isClosed := quotesClosed_iff.mp closed
  refine ⟨fun tokens tokenized => ?_, text_spans isClosed, fun scope filled found => ?_⟩
  · rw [← fst_noteTokens, map_eq_ok_iff] at tokenized
    obtain ⟨steps, noted, isTokens⟩ := tokenized
    obtain ⟨isKept, stepsOver⟩ := steps_of_noteTokensFrom (Nat.le_refl _) isClosed noted
    exact ⟨steps, noted, isTokens, stepsOver, isKept⟩
  · exact standsFor_of_substituteSpans found

/-- A quote of the other kind, a bracket and a name inside of quoted texts. -/
theorem substitution_keeps_quotations_of_nested :
    let text := "'\"' == [\"]\" ['x']] && x".toList
    let filled := "'\"' == [\"]\" ['x']] && 1".toList
    let found := [⟨"'\"'".toList, 0⟩, ⟨"\"]\"".toList, 8⟩, ⟨"'x'".toList, 13⟩]
    quotesClosed text = true ∧
      (∃ steps, noteTokens text = .ok steps ∧ steps.flatMap Prod.snd = found) ∧
      substitute [("x", .int 1)] text = .ok filled ∧
      ∃ pieces, List.Forall₂ (StandsFor (namesLongestFirst [("x", .int 1)])) (spans text) pieces ∧
        pieces.flatten = filled := by
  intro text filled found
  have closed : quotesClosed text = true := by decide +kernel
  have kept : quotations 0 (spans text) = found := by decide +kernel
  have tokenized : tokenize text = .ok [⟨.quoted "'\"'".toList, 0⟩,
      ⟨.operator (.comparison .equal), 4⟩, ⟨.bracketed "[\"]\" ['x']]".toList, 7⟩,
      ⟨.operator .both, 19⟩, ⟨.word ['x'], 22⟩] := toOption_eq_some_iff.mp (by decide +kernel)
  have substituted : substitute [("x", .int 1)] text = .ok filled :=
    toOption_eq_some_iff.mp (by decide +kernel)
  obtain ⟨agree, -, keeps⟩ := substitution_keeps_quotations closed
  obtain ⟨steps, noted, -, -, isKept⟩ := agree _ tokenized
  exact ⟨closed, ⟨steps, noted, isKept.trans kept⟩, substituted, keeps _ filled substituted⟩

end Automation.Condition
