import Automation.Proofs.Literal.Passing
import Automation.Proofs.Substitution.Pieces

/-!
Reading a condition and what it is filled to, side by side.

The tokenizer reads both texts piece by piece. `admits` says what the pieces must satisfy for both
to have the same operators and parentheses: in a run that gives way the tokenizer of the condition
finds none of them and leaves as many brackets open as there were, and brackets that directly follow
a value in quotes or brackets are closed again. The modes in which the two texts are read agree,
except after a run that gave way: then one of them may be in a word that the other has left, or in
brackets that the other takes for parts of a word.
-/

namespace Automation.Condition

namespace Mode

/-- The mode after a character that is no quote. -/
def next (mode : Mode) (c : Char) : Mode :=
  if mode.depth = 0 ∧ isMark c = true then .outside else mode.after c

/-- The mode after a run without quotes, if no operator and no parenthesis is found in it. -/
def over? : Mode → List Char → Option Mode
  | mode, [] => some mode
  | mode, c :: rest =>
      if mode.depth = 0 ∧ isMark c = true then none else (mode.after c).over? rest

end Mode

/-- Whether the open brackets of a condition are closed again, and so are brackets that directly
follow, with no operators and parentheses in them outside of what is quoted or put in. -/
def closes : (depth : Nat) → List Piece → Bool
  | 0, .plain c :: rest => !isOpener c || closes 1 rest
  | 0, _ => true
  | _ + 1, [] => false
  | depth + 1, .plain c :: rest => !isMark c && closes (deepen (depth + 1) c) rest
  | depth + 1, _ :: rest => closes (depth + 1) rest

/-- Whether values may be put into a condition that the tokenizer reads on in a mode. -/
def admits : Mode → List Piece → Bool
  | _, [] => true
  | mode, .quoted _ :: rest => admits mode.afterQuote rest
  | mode, .plain c :: rest => admits (mode.next c) rest
  | mode, .put run found :: rest =>
      match mode.over? run with
      | some next =>
          next.depth == mode.depth &&
            (mode.depth != 0 || !found.isEnclosed || closes 0 rest) && admits next rest
      | none => false

/-- The modes of two tokenizers agree before the pieces of a condition: they are the same, or what
is open in either of them is closed again. -/
def Agree (first second : Mode) (pieces : List Piece) : Prop :=
  first = second ∨
    ∃ depth, closes depth pieces = true ∧ first.depth ≤ depth ∧ second.depth ≤ depth

namespace Mode

theorem eq_of_depth_eq {first second : Mode} (deep : first.depth ≠ 0)
    (same : second.depth = first.depth) : second = first := by
  cases first <;> cases second <;> simp_all [depth]

theorem depth_afterQuote_le (mode : Mode) : mode.afterQuote.depth ≤ mode.depth := by
  cases mode <;> simp [afterQuote, depth]

theorem afterQuote_of_flat {mode : Mode} (flat : mode.depth = 0) : mode.afterQuote = .outside := by
  cases mode <;> first | rfl | cases flat

/-- Outside of brackets the mode after a character depends on the character only, unless the
character opens a bracket. -/
theorem after_eq_after {first second : Mode} (firstFlat : first.depth = 0)
    (secondFlat : second.depth = 0) {c : Char} (noOpener : isOpener c = false) :
    first.after c = second.after c := by
  cases first <;> cases second <;> simp_all [after, depth]

/-- Outside of brackets the tokenizer is in a word after a character unless a blank or a closed
bracket ends it there. -/
theorem after_eq_word {mode : Mode} {c : Char} (word : Text.isWord c = true)
    (flat : (mode.after c).depth = 0) :
    mode.after c = .word := by
  obtain ⟨-, -, noOpener, noCloser⟩ := isInert_iff.mp (isInert_of_isWord word)
  have noBlank : Text.isBlank c = false := by
    cases blank : Text.isBlank c with
    | false => rfl
    | true => rw [Text.isWord_of_isBlank blank] at word; cases word
  cases mode with
  | outside | word => simp [after, noBlank, noOpener]
  | bracket below => simp [after, noOpener, noCloser, depth] at flat

theorem over?_append (mode : Mode) (first second : List Char) :
    mode.over? (first ++ second) = (mode.over? first).bind fun next => next.over? second := by
  induction first generalizing mode with
  | nil => rfl
  | cons c rest inductionHypothesis =>
      simp only [List.cons_append, over?]
      split
      · rfl
      · exact inductionHypothesis (mode.after c)

/-- The tokenizer reads over a run in which it finds nothing. -/
theorem resume_over {mode next : Mode} {run : List Char} (reached : mode.over? run = some next)
    (plain : ∀ c ∈ run, isQuote c = false) (rest : List Char) :
    resume mode (run ++ rest) = resume next rest := by
  induction run generalizing mode with
  | nil =>
      cases reached
      rfl
  | cons c others inductionHypothesis =>
      rw [over?] at reached
      split at reached
      · cases reached
      · rename_i unmarked
        have noMark : mode.depth = 0 → isMark c = false := by simpa using unmarked
        rw [List.cons_append, resume_plain mode (plain c List.mem_cons_self) noMark]
        exact inductionHypothesis reached fun d member => plain d (List.mem_cons_of_mem c member)

/-- A run that a word ends at is left in a word. -/
theorem over?_eq_word {mode next : Mode} {run : List Char} {c : Char}
    (reached : mode.over? run = some next) (flat : next.depth = 0) (last : run.getLast? = some c)
    (word : Text.isWord c = true) : next = .word := by
  obtain ⟨front, rfl⟩ := List.getLast?_eq_some_iff.mp last
  rw [over?_append, Option.bind_eq_some_iff] at reached
  obtain ⟨middle, -, reached⟩ := reached
  simp only [over?] at reached
  split at reached
  · cases reached
  · cases reached
    exact after_eq_word word flat

end Mode

theorem closes_of_isWord {pieces : List Piece}
    (word : ∀ c ∈ (source pieces).head?, Text.isWord c = true) : closes 0 pieces = true := by
  cases pieces with
  | nil => rfl
  | cons piece rest =>
      cases piece with
      | quoted | put => rfl
      | plain c =>
          have isWord := word c rfl
          simp [closes, (isInert_iff.mp (isInert_of_isWord isWord)).2.2.1]

/-- Outside of brackets the tokenizer is in a word behind a literal without quotes and brackets. -/
theorem resume_bare {mode : Mode} (flat : mode.depth = 0) {found : Value}
    (bare : found.isEnclosed = false) (rest : List Char) :
    resume mode (literal found ++ rest) = resume .word rest := by
  have step {mode : Mode} (flat : mode.depth = 0) {c : Char} (numeric : isNumeric c = true)
      (rest : List Char) : resume mode (c :: rest) = resume .word rest := by
    obtain ⟨noQuote, noMark, noOpener, -⟩ := isInert_iff.mp (isInert_of_isNumeric numeric)
    have noBlank := isBlank_of_isNumeric numeric
    rw [resume_plain mode noQuote fun _ => noMark]
    cases mode with
    | outside | word => simp [Mode.after, noBlank, noOpener]
    | bracket below => cases flat
  obtain ⟨c, others, isLiteral, -⟩ := StartsPlain.literal found
  have numeric := isNumeric_of_mem_literal bare
  rw [isLiteral] at numeric ⊢
  rw [List.cons_append, step flat (numeric c List.mem_cons_self)]
  replace numeric : ∀ d ∈ others, isNumeric d = true :=
    fun d member => numeric d (List.mem_cons_of_mem c member)
  clear isLiteral
  induction others with
  | nil => rfl
  | cons d others inductionHypothesis =>
      rw [List.cons_append, step rfl (numeric d List.mem_cons_self)]
      exact inductionHypothesis fun other member => numeric other (List.mem_cons_of_mem d member)

namespace Agree

variable {first second : Mode} {rest : List Piece}

theorem after_quoted {text : List Char} (agree : Agree first second (.quoted text :: rest)) :
    Agree first.afterQuote second.afterQuote rest := by
  rcases agree with rfl | ⟨depth, closed, firstBound, secondBound⟩
  · exact Or.inl rfl
  · cases depth with
    | zero =>
        rw [Mode.afterQuote_of_flat (Nat.le_zero.mp firstBound),
          Mode.afterQuote_of_flat (Nat.le_zero.mp secondBound)]
        exact Or.inl rfl
    | succ depth =>
        exact Or.inr ⟨depth + 1, closed, Nat.le_trans first.depth_afterQuote_le firstBound,
          Nat.le_trans second.depth_afterQuote_le secondBound⟩

theorem after_plain {c : Char} (agree : Agree first second (.plain c :: rest)) :
    Agree (first.after c) (second.after c) rest := by
  rcases agree with rfl | ⟨depth, closed, firstBound, secondBound⟩
  · exact Or.inl rfl
  · have bound (mode : Mode) (le : mode.depth ≤ depth) :
        (mode.after c).depth ≤ deepen depth c := by
      apply Nat.le_trans (mode.depth_after_le c)
      simp only [deepen_eq]
      split
      · omega
      · split <;> omega
    cases depth with
    | zero =>
        cases opener : isOpener c with
        | true =>
            refine Or.inr ⟨1, by simpa [closes, opener] using closed, ?_, ?_⟩
            · exact Nat.le_trans (bound first firstBound) (by simp [deepen_eq, opener])
            · exact Nat.le_trans (bound second secondBound) (by simp [deepen_eq, opener])
        | false =>
            exact Or.inl (Mode.after_eq_after (Nat.le_zero.mp firstBound)
              (Nat.le_zero.mp secondBound) opener)
    | succ depth =>
        simp only [closes, Bool.and_eq_true] at closed
        exact Or.inr ⟨deepen (depth + 1) c, closed.2, bound first firstBound,
          bound second secondBound⟩

/-- Outside of brackets the tokenizers agree behind a run and what is put in its place. -/
theorem behind {next : Mode} {run : List Char} {found : Value}
    (reached : first.over? run = some next) (flat : next.depth = 0) (secondFlat : second.depth = 0)
    (notEmpty : run ≠ []) (ends : isBoundary run.getLast? (source rest).head? = true)
    (closed : found.isEnclosed = true → closes 0 rest = true) :
    ∃ secondNext : Mode,
      (∀ text, resume second (literal found ++ text) = resume secondNext text) ∧
        Agree next secondNext rest := by
  cases enclosed : found.isEnclosed with
  | true =>
      obtain ⟨secondNext, isFlat, reachedToo⟩ := (Passes.literal found).flat second secondFlat
      exact ⟨secondNext, reachedToo, Or.inr ⟨0, closed enclosed, by omega, by omega⟩⟩
  | false =>
      refine ⟨.word, resume_bare secondFlat enclosed, ?_⟩
      obtain ⟨c, last⟩ := Option.isSome_iff_exists.mp (List.getLast?_isSome.mpr notEmpty)
      cases word : Text.isWord c with
      | true => exact Or.inl (Mode.over?_eq_word reached flat last word)
      | false =>
          refine Or.inr ⟨0, closes_of_isWord fun d head => ?_, by omega, Nat.le_refl 0⟩
          simpa [isBoundary, last, word, Option.mem_def.mp head] using ends

theorem of_mark {c : Char} (mark : isMark c = true)
    (agree : Agree first second (.plain c :: rest)) :
    first = second ∨ first.depth = 0 ∧ second.depth = 0 := by
  rcases agree with same | ⟨depth, closed, firstBound, secondBound⟩
  · exact Or.inl same
  · cases depth with
    | zero => exact Or.inr ⟨Nat.le_zero.mp firstBound, Nat.le_zero.mp secondBound⟩
    | succ depth => simp [closes, mark] at closed

/-- The tokenizers agree behind a run and what is put in its place. -/
theorem after_put {next : Mode} {run : List Char} {found : Value}
    (agree : Agree first second (.put run found :: rest))
    (reached : first.over? run = some next) (level : next.depth = first.depth)
    (notEmpty : run ≠ []) (ends : isBoundary run.getLast? (source rest).head? = true)
    (closed : first.depth = 0 → found.isEnclosed = true → closes 0 rest = true) :
    ∃ secondNext : Mode,
      (∀ text, resume second (literal found ++ text) = resume secondNext text) ∧
        Agree next secondNext rest := by
  by_cases flat : first.depth = 0 ∧ second.depth = 0
  · exact behind reached (level.trans flat.1) flat.2 notEmpty ends (closed flat.1)
  · obtain ⟨secondNext, secondLevel, secondSame, reachedToo⟩ :=
      (Passes.literal found).exists_next second
    refine ⟨secondNext, reachedToo, ?_⟩
    rcases agree with rfl | ⟨depth, closes, firstBound, secondBound⟩
    · have deep : first.depth ≠ 0 := fun zero => flat ⟨zero, zero⟩
      exact Or.inl ((Mode.eq_of_depth_eq deep level).trans (secondSame deep).symm)
    · cases depth with
      | zero => omega
      | succ depth => exact Or.inr ⟨depth + 1, closes, by omega, by omega⟩

end Agree

theorem resume_nil {mode : Mode} (flat : mode.depth = 0) : resume mode [] = some [] := by
  cases mode with
  | outside | word => rfl
  | bracket below => cases flat

/-- Where an operator may go on, both texts go on with the same character. -/
theorem head?_eq_iff {pieces : List Piece} (areCut : AreCut pieces)
    (admitted : admits .outside pieces = true) {c : Char} (symbol : isSymbol c = true) :
    ((source pieces).head? = some c ↔ ∃ rest, pieces = .plain c :: rest) ∧
      ((target pieces).head? = some c ↔ ∃ rest, pieces = .plain c :: rest) := by
  cases areCut with
  | nil => simp
  | @quoted d body rest quote =>
      have different : d ≠ c := by
        rintro rfl
        have noMark := isMark_of_isQuote quote
        simp [isMark, symbol] at noMark
      simp [Piece.source, Piece.target, different]
  | plain => simp [Piece.source, Piece.target]
  | @put run found rest notEmpty plain ends areCut =>
      obtain ⟨first, others, rfl⟩ := List.exists_cons_of_ne_nil notEmpty
      obtain ⟨start, further, isLiteral, noSymbol⟩ := StartsPlain.literal found
      have noMark : isMark first = false := by
        cases mark : isMark first with
        | false => rfl
        | true => simp [admits, Mode.over?, Mode.depth, mark] at admitted
      have different (d : Char) (noSymbol : isSymbol d = false) : d ≠ c := by
        rintro rfl
        rw [symbol] at noSymbol
        cases noSymbol
      have firstNoSymbol : isSymbol first = false := by
        simp only [isMark, Bool.or_eq_false_iff] at noMark
        exact noMark.2
      simp [Piece.source, Piece.target, isLiteral, different first firstNoSymbol,
        different start noSymbol]

/-- Conditions of fewer pieces are read like what they are filled to. -/
def ReadsAlike (length : Nat) : Prop :=
  ∀ (rest : List Piece) (first second : Mode), rest.length < length → AreCut rest →
    admits first rest = true → Agree first second rest →
      resume first (source rest) = resume second (target rest)

section

variable {first second : Mode} {rest : List Piece} (areCut : AreCut rest)
  (alike : ReadsAlike (rest.length + 1))

include areCut alike

/-- An operator or a parenthesis outside of brackets is found in both texts. -/
theorem resume_mark_eq {c : Char} (mark : isMark c = true)
    (admitted : admits .outside rest = true) :
    resume .outside (c :: source rest) = resume .outside (c :: target rest) := by
  have same := alike rest _ _ (Nat.lt_succ_self _) areCut admitted (Or.inl rfl)
  simp only [isMark, Bool.or_eq_true, beq_iff_eq] at mark
  rcases mark with (rfl | rfl) | symbol
  · rw [resume_opening, resume_opening, same]
  · rw [resume_closing, resume_closing, same]
  · rw [resume_symbol symbol, resume_symbol symbol, scanOperator_eq symbol, scanOperator_eq symbol]
    have second := isSymbol_secondSymbol c
    obtain ⟨isSource, isTarget⟩ := head?_eq_iff areCut admitted second
    by_cases head : ∃ later, rest = .plain (secondSymbol c) :: later
    · obtain ⟨later, rfl⟩ := head
      have laterCut : AreCut later := by cases areCut; assumption
      have laterAdmitted : admits .outside later = true := by
        simpa [admits, Mode.next, Mode.depth, isMark, second] using admitted
      have shorter : later.length < (Piece.plain (secondSymbol c) :: later).length + 1 := by
        simp only [List.length_cons]
        omega
      have tails := alike later _ _ shorter laterCut laterAdmitted (Or.inl rfl)
      simp only [source_cons, target_cons, Piece.source, Piece.target, List.singleton_append,
        List.head?_cons, if_true, List.tail_cons, Option.bind_some, tails]
    · rw [if_neg (mt isSource.mp head), if_neg (mt isTarget.mp head)]
      cases shortOperator? c with
      | none => rfl
      | some operator => simp only [Option.map_some, Option.bind_some, same]

theorem resume_plain_eq {c : Char} (noQuote : isQuote c = false)
    (admitted : admits first (.plain c :: rest) = true)
    (agree : Agree first second (.plain c :: rest)) :
    resume first (c :: source rest) = resume second (c :: target rest) := by
  by_cases marks : first.depth = 0 ∧ isMark c = true
  · have outside : first.next c = .outside := if_pos marks
    have secondFlat : second.depth = 0 := by
      rcases agree.of_mark marks.2 with rfl | flat
      · exact marks.1
      · exact flat.2
    rw [admits, outside] at admitted
    rw [resume_mark marks.1 marks.2, resume_mark secondFlat marks.2]
    exact resume_mark_eq areCut alike marks.2 admitted
  · have onward : first.next c = first.after c := if_neg marks
    have firstNoMark : first.depth = 0 → isMark c = false := by simpa using marks
    have secondNoMark : second.depth = 0 → isMark c = false := by
      intro flat
      cases mark : isMark c with
      | false => rfl
      | true =>
          rcases agree.of_mark mark with rfl | bothFlat
          · exact absurd ⟨flat, mark⟩ marks
          · exact absurd ⟨bothFlat.1, mark⟩ marks
    rw [admits, onward] at admitted
    rw [resume_plain first noQuote firstNoMark, resume_plain second noQuote secondNoMark]
    exact alike rest _ _ (Nat.lt_succ_self _) areCut admitted agree.after_plain

theorem resume_put_eq {run : List Char} {found : Value} (notEmpty : run ≠ [])
    (plain : ∀ c ∈ run, isQuote c = false)
    (ends : isBoundary run.getLast? (source rest).head? = true)
    (admitted : admits first (.put run found :: rest) = true)
    (agree : Agree first second (.put run found :: rest)) :
    resume first (run ++ source rest) = resume second (literal found ++ target rest) := by
  rw [admits] at admitted
  split at admitted
  · rename_i next reached
    simp only [Bool.and_eq_true, beq_iff_eq, Bool.or_eq_true, bne_iff_ne, ne_eq,
      Bool.not_eq_true'] at admitted
    obtain ⟨⟨level, closed⟩, admitted⟩ := admitted
    have closes_of_flat : first.depth = 0 → found.isEnclosed = true →
        closes 0 rest = true := by
      intro flat enclosed
      simpa [flat, enclosed] using closed
    obtain ⟨secondNext, reachedToo, agree⟩ :=
      agree.after_put reached level notEmpty ends closes_of_flat
    rw [Mode.resume_over reached plain, reachedToo]
    exact alike rest _ _ (Nat.lt_succ_self _) areCut admitted agree
  · cases admitted

end

/-- From two modes that agree, a condition that admits values and what it is filled to have the same
operators and parentheses. -/
theorem resume_eq {pieces : List Piece} (areCut : AreCut pieces) {first second : Mode}
    (admitted : admits first pieces = true) (agree : Agree first second pieces) :
    resume first (source pieces) = resume second (target pieces) := by
  -- By the number of pieces, since two of them can make one operator.
  induction length : pieces.length using Nat.strongRecOn generalizing pieces first second with
  | _ _ inductionHypothesis =>
      subst length
      have alike : ReadsAlike pieces.length := by
        intro rest first second shorter areCut admitted agree
        exact inductionHypothesis rest.length shorter areCut admitted agree rfl
      cases areCut with
      | nil =>
          rcases agree with rfl | ⟨depth, closed, firstBound, secondBound⟩
          · rfl
          · cases depth with
            | zero =>
                rw [source_nil, target_nil, resume_nil (Nat.le_zero.mp firstBound),
                  resume_nil (Nat.le_zero.mp secondBound)]
            | succ depth => cases closed
      | @quoted c body rest quote quotes areCut =>
          simp only [source_cons, target_cons, Piece.source, Piece.target, List.cons_append]
          rw [resume_quote first quote, resume_quote second quote, quotes.scan, quotes.scan]
          exact alike rest _ _ (Nat.lt_succ_self _) areCut admitted agree.after_quoted
      | @plain c rest noQuote areCut =>
          rw [source_cons, target_cons]
          exact resume_plain_eq areCut alike noQuote admitted agree
      | @put run found rest notEmpty plain ends areCut =>
          rw [source_cons, target_cons]
          exact resume_put_eq areCut alike notEmpty plain ends admitted agree

/-- A condition that admits values and what it is filled to have the same operators and
parentheses. -/
theorem marks?_eq {pieces : List Piece} (areCut : AreCut pieces)
    (admitted : admits .outside pieces = true) :
    marks? (source pieces) = marks? (target pieces) :=
  resume_eq areCut admitted (Or.inl (rfl : Mode.outside = .outside))

end Automation.Condition
