import Automation.Proofs.Lexing.Chunks
import Automation.Proofs.Substitution.Spans
import Automation.Proofs.Text.Classes

/-!
The words of a condition.

Words stand outside of quoted text, between blanks, parentheses and operators. A condition whose
quotes are all closed is made of quoted texts, gaps and its words, one after the other. Blanks
around it are part of a gap, so they can be dropped.
-/

namespace Automation.Condition

/-- The words of a text without quotes. -/
def wordsBetween (text : List Char) : List (List Char) :=
  (text.splitOnP endsWord).filter (!·.isEmpty)

/-- The words of a condition. -/
def words (text : List Char) : List (List Char) :=
  (spans text).flatMap fun
    | .plain between => wordsBetween between
    | .quoted _ => []

/-- Words are split where one ends. -/
theorem wordsBetween_append {c : Char} (ends : endsWord c = true) (front rest : List Char) :
    wordsBetween (front ++ c :: rest) = wordsBetween front ++ wordsBetween rest := by
  rw [wordsBetween, List.splitOnP_append_cons front rest ends, List.filter_append]
  rfl

theorem wordsBetween_cons {c : Char} (ends : endsWord c = true) (rest : List Char) :
    wordsBetween (c :: rest) = wordsBetween rest :=
  wordsBetween_append ends [] rest

theorem wordsBetween_word {word rest : List Char} (notEmpty : word ≠ [])
    (inside : ∀ c ∈ word, endsWord c = false) (ends : EndsWord rest) :
    wordsBetween (word ++ rest) = word :: wordsBetween rest := by
  have alone : wordsBetween word = [word] := by
    rw [wordsBetween, List.splitOnP_eq_singleton inside]
    simp [notEmpty]
  cases rest with
  | nil => rw [List.append_nil, alone]; rfl
  | cons c others =>
      rw [wordsBetween_append (ends c rfl), wordsBetween_cons (ends c rfl), alone]
      rfl

theorem words_eq {text : List Char} (closed : Closed text) :
    words text = wordsBetween (untilQuote text) ++ words (fromQuote text) := by
  by_cases empty : untilQuote text = []
  · rw [empty, fromQuote_eq_self empty]
    rfl
  · rw [words, spans_of_closed closed empty]
    rfl

theorem words_quoted {c : Char} (quote : isQuote c = true) {body : List Char}
    (quotes : Quotes c body) (rest : List Char) : words (c :: body ++ rest) = words rest := by
  rw [words, spans_quoted quote quotes]
  rfl

theorem isQuote_of_isGap {c : Char} (gap : isGap c = true) : isQuote c = false := by
  simp only [isGap, Bool.and_eq_true, Bool.not_eq_true'] at gap
  exact gap.2

theorem endsWord_of_isGap {c : Char} (gap : isGap c = true) : endsWord c = true := by
  simp only [isGap, Bool.and_eq_true] at gap
  exact gap.1

theorem isQuote_of_endsWord {c : Char} (inside : endsWord c = false) : isQuote c = false := by
  simp only [endsWord_eq, Bool.or_eq_false_iff] at inside
  exact inside.1.1.1.2

theorem words_gap {gap rest : List Char} (inside : ∀ c ∈ gap, isGap c = true)
    (closed : Closed rest) : words (gap ++ rest) = words rest := by
  have plain : ∀ c ∈ gap, isQuote c = false := fun c member => isQuote_of_isGap (inside c member)
  have between : wordsBetween (gap ++ untilQuote rest) = wordsBetween (untilQuote rest) := by
    clear plain
    induction gap with
    | nil => rfl
    | cons c others inductionHypothesis =>
        rw [List.cons_append, wordsBetween_cons (endsWord_of_isGap (inside c List.mem_cons_self))]
        apply inductionHypothesis
        intro d member
        exact inside d (List.mem_cons_of_mem c member)
  rw [words_eq ((Closed.of_plain plain).append closed), untilQuote_append plain,
    fromQuote_append plain, between, ← words_eq closed]

theorem EndsWord.untilQuote {rest : List Char} (ends : EndsWord rest) :
    EndsWord (untilQuote rest) :=
  fun c head => ends c (head?_of_untilQuote c head)

theorem words_word {word rest : List Char} (notEmpty : word ≠ [])
    (inside : ∀ c ∈ word, endsWord c = false) (ends : EndsWord rest) (closed : Closed rest) :
    words (word ++ rest) = word :: words rest := by
  have plain : ∀ c ∈ word, isQuote c = false :=
    fun c member => isQuote_of_endsWord (inside c member)
  rw [words_eq ((Closed.of_plain plain).append closed), untilQuote_append plain,
    fromQuote_append plain, wordsBetween_word notEmpty inside ends.untilQuote, List.cons_append,
    ← words_eq closed]

/-- A gap is taken as far as it goes. -/
theorem exists_gap {c : Char} {rest : List Char} (gap : isGap c = true)
    (closed : Closed (c :: rest)) : ∃ front last, c :: rest = front ++ last ∧ front ≠ [] ∧
      (∀ d ∈ front, isGap d = true) ∧ EndsOperator last ∧ Closed last := by
  have split : c :: rest = (c :: rest).takeWhile isGap ++ (c :: rest).dropWhile isGap :=
    List.takeWhile_append_dropWhile.symm
  have inside : ∀ d ∈ (c :: rest).takeWhile isGap, isGap d = true :=
    fun d member => Text.mem_takeWhile member
  refine ⟨_, _, split, by simp [gap], inside, ?_, ?_⟩
  · intro d head
    have noGap := Text.head?_dropWhile d head
    cases symbol : isSymbol d with
    | false => rfl
    | true =>
        have noQuote : isQuote d = false := by
          cases quote : isQuote d with
          | false => rfl
          | true => simpa [isMark, symbol] using isMark_of_isQuote quote
        simp [isGap, endsWord_eq, symbol, noQuote] at noGap
  · exact Closed.of_append (fun d member => isQuote_of_isGap (inside d member)) (split ▸ closed)

/-- A word is taken as far as it goes. -/
theorem exists_word {c : Char} {rest : List Char} (inWord : endsWord c = false)
    (closed : Closed (c :: rest)) : ∃ front last, c :: rest = front ++ last ∧ front ≠ [] ∧
      (∀ d ∈ front, endsWord d = false) ∧ EndsWord last ∧ Closed last := by
  have split : c :: rest =
      (c :: rest).takeWhile (!endsWord ·) ++ (c :: rest).dropWhile (!endsWord ·) :=
    List.takeWhile_append_dropWhile.symm
  have inside : ∀ d ∈ (c :: rest).takeWhile (!endsWord ·), endsWord d = false := by
    intro d member
    simpa using Text.mem_takeWhile member
  refine ⟨_, _, split, by simp [inWord], inside, ?_, ?_⟩
  · intro d head
    simpa using Text.head?_dropWhile d head
  · exact Closed.of_append (fun d member => isQuote_of_endsWord (inside d member)) (split ▸ closed)

/-- The last character of a text in two parts is that of the second one, or there is none. -/
theorem last_cases {text front rest : List Char} {c : Char} (whole : text ++ [c] = front ++ rest) :
    (rest = [] ∧ front = text ++ [c]) ∨
      ∃ shorter, rest = shorter ++ [c] ∧ text = front ++ shorter := by
  rcases List.append_eq_append_iff.mp whole with
    ⟨between, isFront, isLast⟩ | ⟨shorter, isText, isRest⟩
  · cases between with
    | nil => exact Or.inr ⟨[], by simpa using isLast.symm, by simpa using isFront.symm⟩
    | cons d others =>
        simp only [List.cons_append, List.cons.injEq, List.nil_eq, List.append_eq_nil_iff] at isLast
        obtain ⟨rfl, rfl, rfl⟩ := isLast
        exact Or.inl ⟨rfl, isFront⟩
  · exact Or.inr ⟨shorter, isRest, isText⟩

/-- A condition that is made of quoted texts, gaps and accepted words. -/
inductive Chunked (accepts : List Char → Prop) : List Char → Prop where
  | nil : Chunked accepts []
  | gap {gap rest} : (∀ c ∈ gap, isGap c = true) → EndsOperator rest → Chunked accepts rest →
      Chunked accepts (gap ++ rest)
  | quoted {c body rest} : isQuote c = true → Quotes c body → Chunked accepts rest →
      Chunked accepts (c :: body ++ rest)
  | word {word rest} : word ≠ [] → (∀ c ∈ word, endsWord c = false) → accepts word →
      EndsWord rest → Chunked accepts rest → Chunked accepts (word ++ rest)

namespace Chunked

variable {accepts : List Char → Prop} {text : List Char}

theorem closed (chunked : Chunked accepts text) : Closed text := by
  induction chunked with
  | nil => exact .nil
  | gap inside _ _ inductionHypothesis =>
      exact (Closed.of_plain fun c member => isQuote_of_isGap (inside c member)).append
        inductionHypothesis
  | quoted quote quotes _ inductionHypothesis => exact .quoted quote quotes inductionHypothesis
  | word _ inside _ _ _ inductionHypothesis =>
      exact (Closed.of_plain fun c member => isQuote_of_endsWord (inside c member)).append
        inductionHypothesis

/-- A condition whose quotes are all closed is made of its words. -/
theorem of_words (closed : Closed text) (accepted : ∀ word ∈ words text, accepts word) :
    Chunked accepts text := by
  induction h : text.length using Nat.strongRecOn generalizing text with
  | _ length inductionHypothesis =>
      subst h
      have further {front last : List Char} (split : text = front ++ last) (notEmpty : front ≠ [])
          (closed : Closed last) (accepted : ∀ word ∈ words last, accepts word) :
          Chunked accepts last := by
        have positive : 0 < front.length := List.length_pos_iff.mpr notEmpty
        exact inductionHypothesis last.length (by simp [split]; omega) closed accepted rfl
      cases text with
      | nil => exact .nil
      | cons c rest =>
          by_cases gap : isGap c = true
          · obtain ⟨front, last, split, notEmpty, inside, ends, closedLast⟩ := exists_gap gap closed
            rw [split, words_gap inside closedLast] at accepted
            rw [split]
            exact .gap inside ends (further split notEmpty closedLast accepted)
          · by_cases inWord : endsWord c = false
            · obtain ⟨front, last, split, notEmpty, inside, ends, closedLast⟩ :=
                exists_word inWord closed
              rw [split, words_word notEmpty inside ends closedLast] at accepted
              rw [split]
              refine .word notEmpty inside (accepted front List.mem_cons_self) ends ?_
              apply further split notEmpty closedLast
              intro word member
              exact accepted word (List.mem_cons_of_mem front member)
            · cases closed with
              | plain noQuote _ => simp [isGap, noQuote, inWord] at gap
              | @quoted _ body last quote quotes closedLast =>
                  refine .quoted quote quotes
                    (further (show c :: body ++ last = c :: body ++ last from rfl)
                      (List.cons_ne_nil c body) closedLast ?_)
                  rw [← words_quoted quote quotes last]
                  exact accepted

/-- A blank in front of a condition belongs to a gap. -/
theorem of_blank_cons {c : Char} (blank : Text.isBlank c = true)
    (chunked : Chunked accepts (c :: text)) : Chunked accepts text := by
  generalize whole : c :: text = condition at chunked
  induction chunked with
  | nil => cases whole
  | @gap gap rest inside ends further inductionHypothesis =>
      cases gap with
      | nil => exact inductionHypothesis whole
      | cons d others =>
          cases whole
          exact .gap (fun e member => inside e (List.mem_cons_of_mem c member)) ends further
  | quoted quote =>
      cases whole
      rw [isBlank_eq_false_of_isQuote quote] at blank
      cases blank
  | @word word rest notEmpty inside =>
      obtain ⟨d, others, rfl⟩ := List.exists_cons_of_ne_nil notEmpty
      cases whole
      have inWord := inside c List.mem_cons_self
      simp [endsWord_eq, blank] at inWord

/-- A blank at the end of a condition belongs to a gap. -/
theorem of_append_blank {c : Char} (blank : Text.isBlank c = true)
    (chunked : Chunked accepts (text ++ [c])) : Chunked accepts text := by
  generalize whole : text ++ [c] = condition at chunked
  induction chunked generalizing text with
  | nil => simp at whole
  | @gap gap rest inside ends further inductionHypothesis =>
      rcases last_cases whole with ⟨rfl, rfl⟩ | ⟨shorter, rfl, rfl⟩
      · have gapAlone : Chunked accepts (text ++ []) :=
          .gap (fun d member => inside d (List.mem_append_left [c] member)) nofun .nil
        rwa [List.append_nil] at gapAlone
      · exact .gap inside (Text.forall_head?_of_append ends) (inductionHypothesis rfl)
  | @quoted d body rest quote quotes further inductionHypothesis =>
      rcases last_cases whole with ⟨rfl, isQuoted⟩ | ⟨shorter, rfl, rfl⟩
      · have last := congrArg List.getLast? isQuoted
        rw [List.getLast?_cons, quotes.getLast?] at last
        simp only [List.getLast?_append, List.getLast?_singleton, Option.some_or, Option.getD_some,
          Option.some.injEq] at last
        rw [← last, isBlank_eq_false_of_isQuote quote] at blank
        cases blank
      · exact .quoted quote quotes (inductionHypothesis rfl)
  | @word word rest notEmpty inside accepted ends further inductionHypothesis =>
      rcases last_cases whole with ⟨rfl, rfl⟩ | ⟨shorter, rfl, rfl⟩
      · have inWord := inside c (List.mem_append_right text List.mem_cons_self)
        simp [endsWord_eq, blank] at inWord
      · exact .word notEmpty inside accepted (Text.forall_head?_of_append ends)
          (inductionHypothesis rfl)

/-- The lexemes of a condition do not depend on blanks after it. -/
theorem lexemes?_append_blank (lexes : ∀ word, accepts word → LexesTo (.word word) word)
    {c : Char} (blank : Text.isBlank c = true) (chunked : Chunked accepts text) :
    lexemes? (text ++ [c]) = lexemes? text := by
  have endsWord : EndsWord [c] := by
    intro d head
    cases head
    simp [endsWord_eq, blank]
  have endsOperator : EndsOperator [c] := by
    intro d head
    cases head
    cases symbol : isSymbol c with
    | false => rfl
    | true =>
        rw [isBlank_eq_false_of_isMark (by simp [isMark, symbol])] at blank
        cases blank
  induction chunked with
  | nil => exact lexemes?_blank blank []
  | gap inside ends _ inductionHypothesis =>
      have endsBoth := Text.forall_head?_append ends endsOperator
      rw [List.append_assoc, joins_gap inside endsBoth, inductionHypothesis, joins_gap inside ends]
  | quoted quote quotes _ inductionHypothesis =>
      rw [List.append_assoc, lexemes?_quoted quote quotes.scan, inductionHypothesis,
        lexemes?_quoted quote quotes.scan]
  | word _ _ accepted ends _ inductionHypothesis =>
      have endsBoth := Text.forall_head?_append ends endsWord
      rw [List.append_assoc, lexes _ accepted _ endsBoth, inductionHypothesis,
        lexes _ accepted _ ends]

/-- A condition is made of its words without the blanks around it, and has the same lexemes. -/
theorem trim (lexes : ∀ word, accepts word → LexesTo (.word word) word)
    (chunked : Chunked accepts text) :
    Chunked accepts (Text.trim text) ∧ lexemes? (Text.trim text) = lexemes? text := by
  refine Text.trim_induction (p := fun shorter => Chunked accepts shorter ∧
    lexemes? shorter = lexemes? text) ?_ ?_ ⟨chunked, rfl⟩
  · intro c rest blank ⟨chunked, same⟩
    exact ⟨chunked.of_blank_cons blank, by rw [← same, lexemes?_blank blank]⟩
  · intro c front blank ⟨chunked, same⟩
    have shorter := chunked.of_append_blank blank
    exact ⟨shorter, by rw [← same, shorter.lexemes?_append_blank lexes blank]⟩

end Chunked

end Automation.Condition
