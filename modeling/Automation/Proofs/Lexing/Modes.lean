import Automation.Proofs.Lexing.Lexemes
import Automation.Proofs.Text.Classes

/-!
The modes of the tokenizer.

Between two characters the tokenizer is outside of any token, in a word, or inside brackets.
`resume` is what it still finds from there, operators and parentheses only, and every character
moves it from one mode to another. A chunk passes where the tokenizer reads over it, whatever comes
after: inside brackets the mode stays, and outside of brackets nothing is found in the chunk and no
bracket stays open.
-/

namespace Automation.Condition

/-- Parentheses and characters of operators. -/
def isMark (c : Char) : Bool := c == '(' || c == ')' || isSymbol c

theorem endsWord_eq_mark (c : Char) :
    endsWord c = (Text.isBlank c || isQuote c || isMark c) := by
  simp only [endsWord_eq, isMark, Bool.or_assoc]

/-- Brackets and braces that open. -/
def isOpener (c : Char) : Bool := c == '[' || c == '{'

/-- Brackets and braces that close. -/
def isCloser (c : Char) : Bool := c == ']' || c == '}'

/-- Where the tokenizer is between two characters. Inside brackets, `below` of them stay open after
the next one that closes. -/
inductive Mode where
  | outside
  | word
  | bracket (below : Nat)
  deriving DecidableEq

namespace Mode

/-- The number of open brackets. -/
def depth : Mode → Nat
  | .outside | .word => 0
  | .bracket below => below + 1

/-- The mode after a quoted text. -/
def afterQuote : Mode → Mode
  | .outside | .word => .outside
  | .bracket below => .bracket below

/-- The mode after a character that is neither a quote nor, outside of brackets, a mark. -/
def after : Mode → Char → Mode
  | .outside, c =>
      if Text.isBlank c then .outside else if isOpener c then .bracket 0 else .word
  | .word, c => if Text.isBlank c then .outside else .word
  | .bracket below, c =>
      if isOpener c then .bracket (below + 1)
      else if isCloser c then
        match below with
        | 0 => .outside
        | below + 1 => .bracket below
      else .bracket below

end Mode

theorem deepen_eq (depth : Nat) (c : Char) : deepen depth c =
    if isOpener c then depth + 1 else if isCloser c then depth - 1 else depth := by
  simp [deepen, isOpener, isCloser]

/-- A character opens and closes at most what it does inside brackets. -/
theorem Mode.depth_after_le (mode : Mode) (c : Char) :
    (mode.after c).depth ≤ deepen mode.depth c := by
  rw [deepen_eq]
  cases mode with
  | outside =>
      cases blank : Text.isBlank c <;> cases opener : isOpener c <;>
        simp [after, blank, opener, depth]
  | word => cases blank : Text.isBlank c <;> simp [after, depth, blank]
  | bracket below =>
      cases opener : isOpener c with
      | true => simp [after, opener, depth]
      | false =>
          cases closer : isCloser c with
          | true => cases below <;> simp [after, opener, closer, depth]
          | false => simp [after, opener, closer, depth]

/-- The operators and parentheses of a text, if it has tokens. -/
def marks? (text : List Char) : Option (List Lexeme) :=
  (lexemes? text).map (·.filter (!·.isValue))

/-- The operators and parentheses that the tokenizer still finds from a mode. -/
def resume : Mode → List Char → Option (List Lexeme)
  | .outside, text => marks? text
  | .word, text => marks? (text.dropWhile (!endsWord ·))
  | .bracket below, text => (closing (below + 1) text).bind fun found => marks? found.2

theorem marks?_token {c : Char} (notBlank : Text.isBlank c = false) (rest : List Char) :
    marks? (c :: rest) = (scanLexeme? c rest).bind fun found =>
      (marks? found.2).map fun marks => if found.1.isValue then marks else found.1 :: marks := by
  rw [marks?, lexemes?_cons notBlank]
  cases scanLexeme? c rest with
  | none => rfl
  | some found =>
      obtain ⟨lexeme, after⟩ := found
      simp only [Option.bind_some, marks?, Option.map_map]
      congr 1
      funext marks
      cases isValue : lexeme.isValue <;> simp [isValue]

theorem resume_word_of_endsWord {c : Char} (ends : endsWord c = true) (rest : List Char) :
    resume .word (c :: rest) = resume .outside (c :: rest) := by
  simp [resume, ends]

theorem isBlank_eq_false_of_isQuote {c : Char} (quote : isQuote c = true) :
    Text.isBlank c = false := by
  simp only [isQuote, Bool.or_eq_true, beq_iff_eq] at quote
  rcases quote with rfl | rfl <;> rfl

theorem isBlank_eq_false_of_isMark {c : Char} (mark : isMark c = true) :
    Text.isBlank c = false := by
  simp only [isMark, isSymbol, Bool.or_eq_true, beq_iff_eq] at mark
  rcases mark with (rfl | rfl) | (((((rfl | rfl) | rfl) | rfl) | rfl) | rfl) <;> rfl

theorem resume_quote (mode : Mode) {c : Char} (quote : isQuote c = true) (rest : List Char) :
    resume mode (c :: rest) =
      (scanQuoted c rest).bind fun quoted => resume mode.afterQuote quoted.2 := by
  have outside : resume .outside (c :: rest) =
      (scanQuoted c rest).bind fun quoted => resume .outside quoted.2 := by
    simp only [resume, marks?_token (isBlank_eq_false_of_isQuote quote), scanLexeme?_quote quote]
    cases scanQuoted c rest <;> simp [Lexeme.isValue]
  cases mode with
  | outside => exact outside
  | word =>
      rw [resume_word_of_endsWord (by simp [endsWord_eq_mark, quote])]
      exact outside
  | bracket below =>
      simp only [resume, closing_quote _ quote, Mode.afterQuote]
      cases scanQuoted c rest with
      | none => rfl
      | some quoted => cases found : closing (below + 1) quoted.2 <;> simp [found]

theorem resume_bracket (below : Nat) {c : Char} (noQuote : isQuote c = false) (rest : List Char) :
    resume (.bracket below) (c :: rest) = resume (Mode.after (.bracket below) c) rest := by
  by_cases closes : c = ']' ∨ c = '}'
  · have noOpener : isOpener c = false := by rcases closes with rfl | rfl <;> rfl
    have closer : isCloser c = true := by simpa [isCloser] using closes
    cases below with
    | zero =>
        simp [resume, closing_last closes (Nat.le_refl 1), Mode.after, noOpener, closer]
    | succ below =>
        rw [resume, closing_other noQuote (by simp)]
        have shallower : deepen (below + 1 + 1) c = below + 1 := by
          rcases closes with rfl | rfl <;> rfl
        rw [shallower]
        cases found : closing (below + 1) rest <;>
          simp [Mode.after, noOpener, closer, resume, found]
  · have noCloser : isCloser c = false := by simpa [isCloser] using closes
    rw [resume, closing_other noQuote (fun both => closes both.1)]
    by_cases opens : c = '[' ∨ c = '{'
    · have opener : isOpener c = true := by simpa [isOpener] using opens
      have deeper : deepen (below + 1) c = below + 1 + 1 := by simp [deepen, opens]
      rw [deeper]
      cases found : closing (below + 1 + 1) rest <;> simp [Mode.after, opener, resume, found]
    · have noOpener : isOpener c = false := by simpa [isOpener] using opens
      have same : deepen (below + 1) c = below + 1 := by simp [deepen, opens, closes]
      rw [same]
      cases found : closing (below + 1) rest <;>
        simp [Mode.after, noOpener, noCloser, resume, found]

theorem resume_outside_plain {c : Char} (noQuote : isQuote c = false) (noMark : isMark c = false)
    (rest : List Char) : resume .outside (c :: rest) = resume (Mode.after .outside c) rest := by
  cases blank : Text.isBlank c with
  | true => simp [resume, marks?, lexemes?_blank blank, Mode.after, blank]
  | false =>
      cases opener : isOpener c with
      | true =>
          have opens : c = '[' ∨ c = '{' := by simpa [isOpener] using opener
          simp only [resume, marks?_token blank, scanLexeme?_bracket opens, Mode.after, blank,
            Bool.false_eq_true, if_false, opener, if_true]
          cases closing 1 rest <;> simp [Lexeme.isValue]
      | false =>
          have noBracket : ¬(c = '[' ∨ c = '{') := by simpa [isOpener] using opener
          have inside : endsWord c = false := by simp [endsWord_eq_mark, blank, noQuote, noMark]
          simp [resume, marks?_token blank, scanLexeme?_word inside noBracket, Mode.after, blank,
            opener, Lexeme.isValue]

/-- A character that is no quote, and no mark unless brackets are open, moves the tokenizer on. -/
theorem resume_plain (mode : Mode) {c : Char} (noQuote : isQuote c = false)
    (noMark : mode.depth = 0 → isMark c = false) (rest : List Char) :
    resume mode (c :: rest) = resume (mode.after c) rest := by
  cases mode with
  | outside => exact resume_outside_plain noQuote (noMark rfl) rest
  | word =>
      cases blank : Text.isBlank c with
      | true =>
          rw [resume_word_of_endsWord (by simp [endsWord_eq_mark, blank]),
            resume_outside_plain noQuote (noMark rfl)]
          simp [Mode.after, blank]
      | false =>
          have inside : endsWord c = false := by
            simp [endsWord_eq_mark, blank, noQuote, noMark rfl]
          simp [resume, Mode.after, blank, inside]
  | bracket below => exact resume_bracket below noQuote rest

theorem resume_mark {mode : Mode} (flat : mode.depth = 0) {c : Char} (mark : isMark c = true)
    (rest : List Char) : resume mode (c :: rest) = resume .outside (c :: rest) := by
  cases mode with
  | outside => rfl
  | word => exact resume_word_of_endsWord (by simp [endsWord_eq_mark, mark]) rest
  | bracket below => cases flat

theorem resume_opening (rest : List Char) :
    resume .outside ('(' :: rest) = (resume .outside rest).map (.opening :: ·) := by
  simp only [resume, marks?_token (show Text.isBlank '(' = false from rfl), scanLexeme?_opening]
  rfl

theorem resume_closing (rest : List Char) :
    resume .outside (')' :: rest) = (resume .outside rest).map (.closing :: ·) := by
  simp only [resume, marks?_token (show Text.isBlank ')' = false from rfl), scanLexeme?_closing]
  rfl

theorem resume_symbol {c : Char} (symbol : isSymbol c = true) (rest : List Char) :
    resume .outside (c :: rest) = (scanOperator (c :: rest)).bind fun found =>
      (resume .outside found.2).map (.operator found.1 :: ·) := by
  have notBlank := isBlank_eq_false_of_isMark (show isMark c = true by simp [isMark, symbol])
  simp only [resume, marks?_token notBlank, scanLexeme?_symbol symbol]
  cases scanOperator (c :: rest) <;> rfl

/-- The tokenizer reads over a chunk, whatever comes after it. -/
structure Passes (chunk : List Char) : Prop where
  inBrackets : ∀ depth rest, 1 ≤ depth → closing depth (chunk ++ rest) =
    (closing depth rest).map fun found => (chunk ++ found.1, found.2)
  flat : ∀ mode : Mode, mode.depth = 0 →
    ∃ next : Mode, next.depth = 0 ∧ ∀ rest, resume mode (chunk ++ rest) = resume next rest

/-- Characters that neither quote nor mark nor open or close anything. -/
def isInert (c : Char) : Bool := !isQuote c && !isMark c && !isOpener c && !isCloser c

theorem isInert_iff {c : Char} : isInert c = true ↔
    isQuote c = false ∧ isMark c = false ∧ isOpener c = false ∧ isCloser c = false := by
  simp [isInert, and_assoc]

theorem isSymbol_of_isInert {c : Char} (inert : isInert c = true) : isSymbol c = false := by
  have noMark := (isInert_iff.mp inert).2.1
  simp only [isMark, Bool.or_eq_false_iff] at noMark
  exact noMark.2

theorem isMark_of_isQuote {c : Char} (quote : isQuote c = true) : isMark c = false := by
  simp only [isQuote, Bool.or_eq_true, beq_iff_eq] at quote
  rcases quote with rfl | rfl <;> rfl

/-- The characters that are not inert. -/
def specials : List Char :=
  ['"', '\'', '(', ')', '<', '>', '=', '!', '&', '|', '[', ']', '{', '}']

theorem isInert_of_not_mem {c : Char} (ordinary : c ∉ specials) : isInert c = true := by
  simp only [specials, List.mem_cons, List.not_mem_nil, or_false, not_or] at ordinary
  simp [isInert, isQuote, isMark, isSymbol, isOpener, isCloser, ordinary]

/-- A class of characters without a special one is a class of inert characters. -/
theorem isInert_of_class {isMember : Char → Bool}
    (noSpecial : specials.any isMember = false) {c : Char} (member : isMember c = true) :
    isInert c = true := by
  apply isInert_of_not_mem
  intro special
  exact List.any_eq_false.mp noSpecial c special member

theorem isInert_of_isWord {c : Char} (word : Text.isWord c = true) : isInert c = true :=
  isInert_of_class (by decide +kernel) word

theorem isQuote_of_isWord {c : Char} (word : Text.isWord c = true) : isQuote c = false :=
  (isInert_iff.mp (isInert_of_isWord word)).1

theorem isWord_of_isQuote {c : Char} (quote : isQuote c = true) : Text.isWord c = false := by
  cases word : Text.isWord c with
  | false => rfl
  | true => rw [isQuote_of_isWord word] at quote; cases quote

theorem endsWord_of_isWord {c : Char} (word : Text.isWord c = true) : endsWord c = false := by
  obtain ⟨noQuote, noMark, -⟩ := isInert_iff.mp (isInert_of_isWord word)
  have noBlank : Text.isBlank c = false := by
    cases blank : Text.isBlank c with
    | false => rfl
    | true => rw [Text.isWord_of_isBlank blank] at word; cases word
  simp [endsWord_eq_mark, noBlank, noQuote, noMark]

namespace Passes

theorem resume_bracket_append {chunk : List Char} (passes : Passes chunk) (below : Nat)
    (rest : List Char) :
    resume (.bracket below) (chunk ++ rest) = resume (.bracket below) rest := by
  simp only [resume, passes.inBrackets (below + 1) rest (Nat.le_add_left 1 below)]
  cases closing (below + 1) rest <;> rfl

/-- Over a chunk, brackets that are open stay open and no others are. -/
theorem exists_next {chunk : List Char} (passes : Passes chunk) (mode : Mode) :
    ∃ next : Mode, next.depth = mode.depth ∧ (mode.depth ≠ 0 → next = mode) ∧
      ∀ rest, resume mode (chunk ++ rest) = resume next rest := by
  cases mode with
  | bracket below => exact ⟨_, rfl, fun _ => rfl, passes.resume_bracket_append below⟩
  | outside =>
      obtain ⟨next, flat, passed⟩ := passes.flat .outside rfl
      exact ⟨next, flat, fun deep => absurd rfl deep, passed⟩
  | word =>
      obtain ⟨next, flat, passed⟩ := passes.flat .word rfl
      exact ⟨next, flat, fun deep => absurd rfl deep, passed⟩

theorem nil : Passes [] where
  inBrackets depth rest _ := by simp
  flat mode flat := ⟨mode, flat, fun _ => rfl⟩

theorem append {first second : List Char} (passesFirst : Passes first)
    (passesSecond : Passes second) : Passes (first ++ second) where
  inBrackets depth rest deep := by
    rw [List.append_assoc, passesFirst.inBrackets depth _ deep,
      passesSecond.inBrackets depth rest deep, Option.map_map]
    congr 1
    funext found
    simp
  flat mode flat := by
    obtain ⟨middle, middleFlat, overFirst⟩ := passesFirst.flat mode flat
    obtain ⟨next, nextFlat, overSecond⟩ := passesSecond.flat middle middleFlat
    refine ⟨next, nextFlat, fun rest => ?_⟩
    rw [List.append_assoc, overFirst, overSecond]

theorem ofInertChar {c : Char} (inert : isInert c = true) : Passes [c] := by
  simp only [isInert, Bool.and_eq_true, Bool.not_eq_true'] at inert
  obtain ⟨⟨⟨noQuote, noMark⟩, noOpener⟩, noCloser⟩ := inert
  have notOpening : ¬(c = '[' ∨ c = '{') := by simpa [isOpener] using noOpener
  have notClosing : ¬(c = ']' ∨ c = '}') := by simpa [isCloser] using noCloser
  constructor
  · intro depth rest _
    have same : deepen depth c = depth := by simp [deepen, notOpening, notClosing]
    rw [List.singleton_append, closing_other noQuote (fun both => notClosing both.1), same]
    rfl
  · intro mode flat
    refine ⟨mode.after c, ?_, fun rest => resume_plain mode noQuote (fun _ => noMark) rest⟩
    cases mode with
    | outside => simp only [Mode.after, noOpener]; split <;> rfl
    | word => simp only [Mode.after]; split <;> rfl
    | bracket below => cases flat

theorem ofInert {chunk : List Char} (inert : chunk.all isInert = true) : Passes chunk := by
  induction chunk with
  | nil => exact nil
  | cons c rest inductionHypothesis =>
      simp only [List.all_cons, Bool.and_eq_true] at inert
      exact append (ofInertChar inert.1) (inductionHypothesis inert.2)

/-- A quoted text passes, whatever stands between its quotes. -/
theorem ofQuoted {c : Char} (quote : isQuote c = true) {body : List Char}
    (scans : ∀ rest, scanQuoted c (body ++ rest) = some (body, rest)) : Passes (c :: body) := by
  constructor
  · intro depth rest _
    rw [List.cons_append, closing_quote depth quote, scans]
    rfl
  · intro mode flat
    refine ⟨mode.afterQuote, ?_, fun rest => ?_⟩
    · cases mode with
      | outside | word => rfl
      | bracket below => cases flat
    · rw [List.cons_append, resume_quote mode quote, scans]
      rfl

/-- A chunk between brackets passes. -/
theorem ofBracketed {opener closer : Char} (opens : opener = '[' ∨ opener = '{')
    (closes : closer = ']' ∨ closer = '}') {chunk : List Char} (passes : Passes chunk) :
    Passes (opener :: chunk ++ [closer]) := by
  have openerQuote : isQuote opener = false := by rcases opens with rfl | rfl <;> rfl
  have openerMark : isMark opener = false := by rcases opens with rfl | rfl <;> rfl
  have closerQuote : isQuote closer = false := by rcases closes with rfl | rfl <;> rfl
  have closerMark : isMark closer = false := by rcases closes with rfl | rfl <;> rfl
  have notLast : ∀ depth, ¬((opener = ']' ∨ opener = '}') ∧ depth ≤ 1) := by
    rcases opens with rfl | rfl <;> simp
  constructor
  · intro depth rest deep
    have deeper : deepen depth opener = depth + 1 := by simp [deepen, opens]
    have back : deepen (depth + 1) closer = depth := by
      rcases closes with rfl | rfl <;> simp [deepen]
    simp only [List.cons_append, List.append_assoc, List.nil_append]
    rw [closing_other openerQuote (notLast depth), deeper,
      passes.inBrackets (depth + 1) _ (by omega), closing_other closerQuote (by omega), back]
    cases closing depth rest <;> simp
  · intro mode flat
    have step : ∀ rest, resume mode (opener :: chunk ++ [closer] ++ rest) =
        resume (mode.after opener) (chunk ++ closer :: rest) := by
      intro rest
      rw [← resume_plain mode openerQuote (fun _ => openerMark)]
      simp
    have last : ∀ (next : Mode) (rest : List Char), resume next (closer :: rest) =
        resume (next.after closer) rest :=
      fun next rest => resume_plain next closerQuote (fun _ => closerMark) rest
    cases mode with
    | outside =>
        have enters : Mode.after .outside opener = .bracket 0 := by
          rcases opens with rfl | rfl <;> rfl
        have leaves : Mode.after (.bracket 0) closer = .outside := by
          rcases closes with rfl | rfl <;> rfl
        refine ⟨.outside, rfl, fun rest => ?_⟩
        rw [step, enters, passes.resume_bracket_append, last, leaves]
    | word =>
        have stays : Mode.after .word opener = .word := by rcases opens with rfl | rfl <;> rfl
        obtain ⟨next, nextFlat, passed⟩ := passes.flat .word rfl
        refine ⟨next.after closer, ?_, fun rest => by rw [step, stays, passed, last]⟩
        cases next with
        | outside | word => rcases closes with rfl | rfl <;> rfl
        | bracket below => cases nextFlat
    | bracket below => cases flat

end Passes

end Automation.Condition
