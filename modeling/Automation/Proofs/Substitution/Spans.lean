import Automation.Condition.Substitution
import Automation.Proofs.Fallible
import Automation.Proofs.Lexing.Lexemes
import Automation.Proofs.Text.Runs
import Automation.Proofs.Value.Path

/-!
Substitution, one character after the other.

A condition whose quotes are all closed is a sequence of quoted texts and of characters between
them. `Closed` says so step by step. On such a condition `fill` puts in variables from a place on,
given the character before it, and it obeys one equation for each of the things that can stand at
that place: the end, a quoted text, a name with a path, and any other character.
-/

namespace Automation.Condition

theorem closeQuote_cons {quote c : Char} (notBackslash : c ≠ '\\') (rest : List Char) :
    closeQuote quote (c :: rest) = if c = quote then some ([c], rest)
      else (closeQuote quote rest).map fun found => (c :: found.1, found.2) := by
  rw [closeQuote]
  · exact fun backslash => absurd backslash notBackslash
  · exact fun _ _ backslash => absurd backslash notBackslash

/-- A quoted text that substitution finds is one that the tokenizer finds, and what follows it does
not matter. -/
theorem closeQuote_found {quote : Char} {text body after : List Char}
    (found : closeQuote quote text = some (body, after)) :
    text = body ++ after ∧ body.getLast? = some quote ∧
      ∀ rest, closeQuote quote (body ++ rest) = some (body, rest) ∧
        scanQuoted quote (body ++ rest) = some (body, rest) := by
  induction text using closeQuote.induct quote generalizing body after with
  | case1 | case2 => cases found
  | case3 rest => simp [closeQuote] at found
  | case4 escaped rest notLineEnd inductionHypothesis =>
      simp only [closeQuote, if_neg notLineEnd, Option.map_eq_some_iff, Prod.mk.injEq] at found
      obtain ⟨⟨inside, last⟩, inner, rfl, rfl⟩ := found
      obtain ⟨isText, isLast, closes⟩ := inductionHypothesis inner
      refine ⟨by simp [isText], by simp [List.getLast?_cons, isLast], fun further => ?_⟩
      simp [closeQuote, scanQuoted, notLineEnd, (closes further).1, (closes further).2]
  | case5 rest notAlone notEscape =>
      have notBackslash := ne_backslash notAlone notEscape
      rw [closeQuote_cons notBackslash, if_pos rfl] at found
      cases found
      refine ⟨rfl, rfl, fun further => ?_⟩
      rw [List.singleton_append, closeQuote_cons notBackslash, scanQuoted_cons notBackslash]
      simp
  | case6 c rest notAlone notEscape noQuote inductionHypothesis =>
      have notBackslash := ne_backslash notAlone notEscape
      simp only [closeQuote_cons notBackslash, if_neg noQuote, Option.map_eq_some_iff,
        Prod.mk.injEq] at found
      obtain ⟨⟨inside, last⟩, inner, rfl, rfl⟩ := found
      obtain ⟨isText, isLast, closes⟩ := inductionHypothesis inner
      refine ⟨by simp [isText], by simp [List.getLast?_cons, isLast], fun further => ?_⟩
      rw [List.cons_append, closeQuote_cons notBackslash, scanQuoted_cons notBackslash]
      simp [noQuote, (closes further).1, (closes further).2]

/-- A text that runs up to the quote that closes it. -/
def Quotes (quote : Char) (body : List Char) : Prop :=
  ∀ rest, closeQuote quote (body ++ rest) = some (body, rest)

theorem Quotes.scan {quote : Char} {body : List Char} (quotes : Quotes quote body)
    (rest : List Char) : scanQuoted quote (body ++ rest) = some (body, rest) :=
  ((closeQuote_found (quotes rest)).2.2 rest).2

theorem Quotes.getLast? {quote : Char} {body : List Char} (quotes : Quotes quote body) :
    body.getLast? = some quote :=
  (closeQuote_found (quotes [])).2.1

/-- A condition whose quotes are all closed: quoted texts and other characters. -/
inductive Closed : List Char → Prop where
  | nil : Closed []
  | plain {c rest} : isQuote c = false → Closed rest → Closed (c :: rest)
  | quoted {c body rest} : isQuote c = true → Quotes c body → Closed rest →
      Closed (c :: body ++ rest)

theorem Closed.append {first second : List Char} (closedFirst : Closed first)
    (closedSecond : Closed second) : Closed (first ++ second) := by
  induction closedFirst with
  | nil => exact closedSecond
  | plain noQuote _ inductionHypothesis => exact .plain noQuote inductionHypothesis
  | quoted quote quotes _ inductionHypothesis =>
      rw [List.append_assoc]
      exact .quoted quote quotes inductionHypothesis

theorem Closed.of_append {run rest : List Char} (noQuote : ∀ c ∈ run, isQuote c = false)
    (closed : Closed (run ++ rest)) : Closed rest := by
  induction run with
  | nil => exact closed
  | cons c others inductionHypothesis =>
      apply inductionHypothesis fun other member => noQuote other (List.mem_cons_of_mem c member)
      generalize text : c :: others ++ rest = whole at closed
      cases closed with
      | nil => cases text
      | plain _ closed => cases text; exact closed
      | quoted quote =>
          simp only [List.cons_append, List.cons.injEq] at text
          rw [← text.1, noQuote c List.mem_cons_self] at quote
          cases quote

theorem Closed.of_plain {run : List Char} (noQuote : ∀ c ∈ run, isQuote c = false) :
    Closed run := by
  induction run with
  | nil => exact .nil
  | cons c others inductionHypothesis =>
      exact .plain (noQuote c List.mem_cons_self)
        (inductionHypothesis fun other member => noQuote other (List.mem_cons_of_mem c member))

theorem spansWithin_eq_spans {fuel : Nat} {text : List Char} (enough : text.length ≤ fuel) :
    spansWithin fuel text = spans text := by
  induction h : text.length using Nat.strongRecOn generalizing text fuel with
  | _ length inductionHypothesis =>
      subst h
      cases text with
      | nil => cases fuel <;> rfl
      | cons c rest =>
          cases fuel with
          | zero => simp at enough
          | succ fuel =>
              simp only [List.length_cons] at enough inductionHypothesis
              have same : spansWithin fuel rest = spans rest :=
                inductionHypothesis rest.length (by omega) (by omega) rfl
              simp only [spans, List.length_cons, spansWithin]
              split
              · cases found : closeQuote c rest with
                | none => rw [same]; rfl
                | some quoted =>
                    have shorter := congrArg List.length (closeQuote_found found).1
                    simp only [List.length_append] at shorter
                    simp only
                    rw [inductionHypothesis quoted.2.length (by omega) (by omega) rfl,
                      inductionHypothesis quoted.2.length (by omega) (by omega) rfl]
              · rw [same]; rfl

theorem spans_cons (c : Char) (rest : List Char) : spans (c :: rest) =
    if isQuote c then
      match closeQuote c rest with
      | some (text, after) => .quoted (c :: text) :: spans after
      | none => consPlain c (spans rest)
    else consPlain c (spans rest) := by
  rw [spans, List.length_cons, spansWithin]
  split
  · cases found : closeQuote c rest with
    | none => rfl
    | some quoted =>
        have shorter := congrArg List.length (closeQuote_found found).1
        simp only [List.length_append] at shorter
        simp only
        rw [spansWithin_eq_spans (by omega)]
  · rfl

theorem spans_quoted {c : Char} (quote : isQuote c = true) {body : List Char}
    (quotes : Quotes c body) (rest : List Char) :
    spans (c :: body ++ rest) = .quoted (c :: body) :: spans rest := by
  rw [List.cons_append, spans_cons]
  simp [quote, quotes rest]

theorem spans_plain {c : Char} (noQuote : isQuote c = false) (rest : List Char) :
    spans (c :: rest) = consPlain c (spans rest) := by
  rw [spans_cons]
  simp [noQuote]

/-- Whether every quote of a condition is closed: none is left between the quoted texts. -/
def quotesClosed (text : List Char) : Bool :=
  (spans text).all fun
    | .plain between => !between.any isQuote
    | .quoted _ => true

theorem all_consPlain (isClosed : Span → Bool) (c : Char)
    (consClosed : ∀ text, isClosed (.plain (c :: text)) =
      (isClosed (.plain [c]) && isClosed (.plain text))) (spans : List Span) :
    (consPlain c spans).all isClosed = (isClosed (.plain [c]) && spans.all isClosed) := by
  match spans with
  | [] => simp [consPlain]
  | .plain text :: rest => simp [consPlain, consClosed text, Bool.and_assoc]
  | .quoted text :: rest => simp [consPlain]

theorem quotesClosed_consPlain (c : Char) (rest : List Char)
    (isPlain : spans (c :: rest) = consPlain c (spans rest)) :
    quotesClosed (c :: rest) = (!isQuote c && quotesClosed rest) := by
  rw [quotesClosed, isPlain, all_consPlain _ c fun text => by simp]
  simp [quotesClosed]

theorem quotesClosed_quoted {c : Char} (quote : isQuote c = true) {body : List Char}
    (quotes : Quotes c body) (rest : List Char) :
    quotesClosed (c :: body ++ rest) = quotesClosed rest := by
  rw [quotesClosed, spans_quoted quote quotes]
  simp [quotesClosed]

theorem quotesClosed_iff {text : List Char} : quotesClosed text = true ↔ Closed text := by
  constructor
  · intro closed
    -- By length, since a quoted text is passed as a whole.
    induction h : text.length using Nat.strongRecOn generalizing text with
    | _ length inductionHypothesis =>
        subst h
        cases text with
        | nil => exact .nil
        | cons c rest =>
            simp only [List.length_cons] at inductionHypothesis
            cases quote : isQuote c with
            | false =>
                rw [quotesClosed_consPlain c rest (spans_plain quote rest), quote] at closed
                have restClosed : quotesClosed rest = true := by simpa using closed
                exact .plain quote (inductionHypothesis rest.length (by omega) restClosed rfl)
            | true =>
                cases found : closeQuote c rest with
                | none =>
                    rw [quotesClosed_consPlain c rest (by simp [spans_cons, quote, found]), quote]
                      at closed
                    simp at closed
                | some quoted =>
                    obtain ⟨body, after⟩ := quoted
                    obtain ⟨rfl, -, closes⟩ := closeQuote_found found
                    have quotes : Quotes c body := fun further => (closes further).1
                    rw [← List.cons_append, quotesClosed_quoted quote quotes] at closed
                    simp only [List.length_append] at inductionHypothesis
                    exact .quoted quote quotes
                      (inductionHypothesis after.length (by omega) closed rfl)
  · intro closed
    induction closed with
    | nil => rfl
    | plain noQuote _ inductionHypothesis =>
        rw [quotesClosed_consPlain _ _ (spans_plain noQuote _), noQuote, inductionHypothesis]
        rfl
    | quoted quote quotes _ inductionHypothesis =>
        rw [quotesClosed_quoted quote quotes, inductionHypothesis]

theorem dropWord?_eq_some_iff {word text rest : List Char} :
    Json.dropWord? word text = some rest ↔ text = word ++ rest := by
  induction word generalizing text with
  | nil => simp [Json.dropWord?, eq_comm]
  | cons w word inductionHypothesis =>
      cases text with
      | nil => simp [Json.dropWord?]
      | cons c tail =>
          by_cases same : w = c
          · simp [Json.dropWord?, same, inductionHypothesis]
          · simp [Json.dropWord?, same, Ne.symm same]

theorem matchName?_eq_some {names : List (List Char × Value)} {text name after : List Char}
    {value : Value} (found : matchName? names text = some (name, value, after)) :
    (name, value) ∈ names ∧ text = name ++ after ∧
      isBoundary name.getLast? after.head? = true := by
  unfold matchName? at found
  obtain ⟨⟨candidate, held⟩, member, matches_⟩ := List.exists_of_findSome?_eq_some found
  simp only at matches_
  split at matches_
  · rename_i rest isRest
    split at matches_
    · rename_i boundary
      simp only [Option.some.injEq, Prod.mk.injEq] at matches_
      obtain ⟨rfl, rfl, rfl⟩ := matches_
      exact ⟨member, dropWord?_eq_some_iff.mp isRest, boundary⟩
    · cases matches_
  · cases matches_

theorem takePath_eq_append {fuel : Nat} {text last : List Char} {parts : List (List Char)}
    (taken : takePath fuel text = (parts, last)) :
    text = pathText parts ++ last ∧ ∀ part ∈ parts, part ≠ [] ∧ part.all Text.isWord = true := by
  induction fuel generalizing text last parts with
  | zero =>
      cases taken
      simp [pathText]
  | succ fuel inductionHypothesis =>
      unfold takePath at taken
      split at taken
      · rename_i rest equal
        cases equal
        split at taken
        · cases taken
          simp [pathText]
        · rename_i part notEmpty
          cases further : takePath fuel (rest.dropWhile Text.isWord) with
          | mk parts' last' =>
              rw [further] at taken
              cases taken
              obtain ⟨isText, valid⟩ := inductionHypothesis further
              constructor
              · have whole : rest = rest.takeWhile Text.isWord ++ (pathText parts' ++ last) := by
                  rw [← isText, List.takeWhile_append_dropWhile]
                calc '.' :: rest
                    = '.' :: (rest.takeWhile Text.isWord ++ (pathText parts' ++ last)) :=
                      congrArg _ whole
                  _ = pathText (rest.takeWhile Text.isWord :: parts') ++ last := by
                      simp [pathText]
              · intro part member
                rcases List.mem_cons.mp member with rfl | inRest
                · exact ⟨notEmpty, List.all_takeWhile⟩
                · exact valid part inRest
      · cases taken
        simp [pathText]

theorem length_le_length_pathText (parts : List (List Char)) :
    parts.length ≤ (pathText parts).length := by
  induction parts with
  | nil => exact Nat.le_refl 0
  | cons part parts inductionHypothesis =>
      have shown : pathText (part :: parts) = '.' :: (part ++ pathText parts) := by simp [pathText]
      simp only [shown, List.length_cons, List.length_append]
      omega

/-- A path is taken as far as it goes. -/
theorem takePath_pathText {fuel : Nat} {parts : List (List Char)} {rest : List Char}
    (enough : parts.length ≤ fuel)
    (valid : ∀ part ∈ parts, part ≠ [] ∧ part.all Text.isWord = true)
    (noPoint : rest.head? ≠ some '.') (ends : ∀ c ∈ rest.head?, Text.isWord c = false) :
    takePath fuel (pathText parts ++ rest) = (parts, rest) := by
  induction parts generalizing fuel with
  | nil =>
      cases rest with
      | nil => cases fuel <;> rfl
      | cons c after =>
          have different : c ≠ '.' := by simpa using noPoint
          cases fuel <;> simp [takePath, pathText, different]
  | cons part parts inductionHypothesis =>
      cases fuel with
      | zero => simp at enough
      | succ fuel =>
          obtain ⟨notEmpty, isWord⟩ := valid part List.mem_cons_self
          have stops : ∀ c ∈ (pathText parts ++ rest).head?, Text.isWord c = false := by
            cases parts with
            | nil => exact ends
            | cons next others =>
                intro c head
                cases head
                rfl
          have further := inductionHypothesis (by simpa using enough)
            (fun other member => valid other (List.mem_cons_of_mem part member))
          have text : pathText (part :: parts) ++ rest =
              '.' :: (part ++ (pathText parts ++ rest)) := by simp [pathText]
          have inside := List.all_eq_true.mp isWord
          rw [text, takePath, Text.takeWhile_run inside stops, Text.dropWhile_run inside stops]
          split
          · exact absurd rfl notEmpty
          · rw [further]

/-- What stands for a name and a path is the literal of what the path leads to, or both as they are
written. -/
theorem replacement_eq {name : List Char} {parts : List (List Char)} {value : Value}
    (checked : Json.checkWritable value = .ok ()) :
    replacement name value parts =
      (fun found => (found.map literal).getD (name ++ pathText parts)) <$> value.follow? parts := by
  cases follows : value.follow? parts with
  | error failure => simp [replacement, follows]
  | ok found =>
      cases found with
      | none => simp [replacement, follows]
      | some inner =>
          simp [replacement, follows, Json.checkWritable_of_follow? checked follows]

/-- A name that a condition can hold: it is not empty. -/
def Named (names : List (List Char × Value)) : Prop := ∀ entry ∈ names, entry.1 ≠ []

theorem named_namesLongestFirst (scope : Fields) : Named (namesLongestFirst scope) := by
  intro entry member
  simp only [namesLongestFirst, List.mem_mergeSort, List.mem_map, List.mem_filter] at member
  obtain ⟨field, ⟨_, notEmpty⟩, rfl⟩ := member
  simpa using notEmpty

theorem exists_name_of_mem {scope : Fields} {name : List Char} {value : Value}
    (member : (name, value) ∈ namesLongestFirst scope) :
    ∃ key : String, key.toList = name ∧ (key, value) ∈ scope := by
  simp only [namesLongestFirst, List.mem_mergeSort, List.mem_map, List.mem_filter] at member
  obtain ⟨⟨key, held⟩, ⟨inVariables, -⟩, same⟩ := member
  cases same
  exact ⟨key, rfl, inVariables⟩

section

variable {names : List (List Char × Value)}

/-- What follows a match and its path is shorter than the text that they stand in. -/
theorem length_last_le (named : Named names) {c : Char} {text name after last : List Char}
    {value : Value} {parts : List (List Char)}
    (found : matchName? names (c :: text) = some (name, value, after))
    (taken : takePath after.length after = (parts, last)) : last.length ≤ text.length := by
  obtain ⟨member, isText, -⟩ := matchName?_eq_some found
  have lengths := congrArg List.length isText
  have path := congrArg List.length (takePath_eq_append taken).1
  have positive : 0 < name.length := List.length_pos_iff.mpr (named _ member)
  simp only [List.length_cons, List.length_append] at lengths path
  omega

theorem substitutePlain_eq (named : Named names) (fuel fuel' : Nat) {before : Option Char}
    {text : List Char} (enough : text.length ≤ fuel) (enough' : text.length ≤ fuel') :
    substitutePlain names fuel before text = substitutePlain names fuel' before text := by
  induction fuel generalizing fuel' before text with
  | zero =>
      have empty : text = [] := List.eq_nil_of_length_eq_zero (by omega)
      subst empty
      cases fuel' <;> rfl
  | succ fuel inductionHypothesis =>
      cases text with
      | nil => cases fuel' <;> rfl
      | cons c rest =>
          simp only [List.length_cons] at enough enough'
          cases fuel' with
          | zero => omega
          | succ fuel' =>
              simp only [substitutePlain]
              split
              · rename_i name value after found
                split at found
                · cases taken : takePath after.length after with
                  | mk parts last =>
                      have shorter := length_last_le named found taken
                      simp only
                      rw [inductionHypothesis fuel' (by omega) (by omega)]
                · cases found
              · rw [inductionHypothesis fuel' (by omega) (by omega)]

/-- The text up to the next quote. -/
def untilQuote (text : List Char) : List Char := text.takeWhile (!isQuote ·)

/-- The text from the next quote on. -/
def fromQuote (text : List Char) : List Char := text.dropWhile (!isQuote ·)

theorem untilQuote_append_fromQuote (text : List Char) : untilQuote text ++ fromQuote text = text :=
  List.takeWhile_append_dropWhile

theorem fromQuote_eq_self {text : List Char} (empty : untilQuote text = []) :
    fromQuote text = text := by
  have whole := untilQuote_append_fromQuote text
  rwa [empty] at whole

theorem isQuote_of_mem_untilQuote {text : List Char} :
    ∀ c ∈ untilQuote text, isQuote c = false := by
  intro c member
  simpa using Text.mem_takeWhile member

theorem isQuote_of_head?_fromQuote {text : List Char} :
    ∀ c ∈ (fromQuote text).head?, isQuote c = true := by
  intro c head
  simpa using Text.head?_dropWhile c head

theorem head?_of_untilQuote {text : List Char} :
    ∀ c ∈ (untilQuote text).head?, c ∈ text.head? := by
  intro c head
  cases text with
  | nil => cases head
  | cons d others =>
      simp only [untilQuote, List.takeWhile_cons] at head
      split at head <;> cases head
      rfl

theorem untilQuote_cons {c : Char} (noQuote : isQuote c = false) (rest : List Char) :
    untilQuote (c :: rest) = c :: untilQuote rest := by
  simp [untilQuote, noQuote]

theorem fromQuote_cons {c : Char} (noQuote : isQuote c = false) (rest : List Char) :
    fromQuote (c :: rest) = fromQuote rest := by
  simp [fromQuote, noQuote]

theorem untilQuote_append {front : List Char} (plain : ∀ c ∈ front, isQuote c = false)
    (rest : List Char) : untilQuote (front ++ rest) = front ++ untilQuote rest :=
  List.takeWhile_append_of_pos fun c member => by simp [plain c member]

theorem fromQuote_append {front : List Char} (plain : ∀ c ∈ front, isQuote c = false)
    (rest : List Char) : fromQuote (front ++ rest) = fromQuote rest :=
  List.dropWhile_append_of_pos fun c member => by simp [plain c member]

theorem untilQuote_of_plain {text : List Char} (plain : ∀ c ∈ text, isQuote c = false) :
    untilQuote text = text :=
  Text.takeWhile_of_all fun c member => by simp [plain c member]

/-- Put in variables from a place on, given the character before it. -/
def fill (names : List (List Char × Value)) (before : Option Char) (text : List Char) :
    Except Failure (List Char) := do
  let front ← substitutePlain names (untilQuote text).length before (untilQuote text)
  let further ← substituteSpans names (spans (fromQuote text))
  .ok (front ++ further)

theorem spans_of_untilQuote_eq_nil {text : List Char} (closed : Closed text)
    (empty : untilQuote text = []) (c : Char) :
    consPlain c (spans text) = .plain [c] :: spans text := by
  cases closed with
  | nil => rfl
  | plain noQuote _ => simp [untilQuote, noQuote] at empty
  | quoted quote quotes _ => rw [spans_quoted quote quotes]; rfl

theorem spans_of_closed {text : List Char} (closed : Closed text)
    (notEmpty : untilQuote text ≠ []) :
    spans text = .plain (untilQuote text) :: spans (fromQuote text) := by
  induction closed with
  | nil => exact absurd rfl notEmpty
  | @plain c rest noQuote closedRest inductionHypothesis =>
      rw [spans_plain noQuote, untilQuote_cons noQuote, fromQuote_cons noQuote]
      by_cases empty : untilQuote rest = []
      · rw [spans_of_untilQuote_eq_nil closedRest empty, empty, fromQuote_eq_self empty]
      · rw [inductionHypothesis empty]
        rfl
  | quoted quote _ _ => simp [untilQuote, quote] at notEmpty

theorem substituteSpans_eq_fill (names : List (List Char × Value)) {text : List Char}
    (closed : Closed text) : substituteSpans names (spans text) = fill names none text := by
  by_cases empty : untilQuote text = []
  · rw [fill, empty, fromQuote_eq_self empty]
    cases substituteSpans names (spans text) <;> rfl
  · rw [spans_of_closed closed empty]
    rfl

theorem fill_nil (names : List (List Char × Value)) (before : Option Char) :
    fill names before [] = .ok [] := rfl

theorem fill_quoted (names : List (List Char × Value)) (before : Option Char) {c : Char}
    (quote : isQuote c = true) {body : List Char} (quotes : Quotes c body) {rest : List Char}
    (closed : Closed rest) :
    fill names before (c :: body ++ rest) = (c :: body ++ ·) <$> fill names none rest := by
  have front : untilQuote (c :: body ++ rest) = [] := by simp [untilQuote, quote]
  have back : fromQuote (c :: body ++ rest) = c :: body ++ rest := by simp [fromQuote, quote]
  rw [fill, front, back, spans_quoted quote quotes, substituteSpans,
    substituteSpans_eq_fill names closed]
  cases fill names none rest <;> rfl

/-- A character that no name starts at stays. -/
theorem fill_keep {before : Option Char} {c : Char} (noQuote : isQuote c = false)
    {rest : List Char}
    (noName : isBoundary before (some c) = true →
      matchName? names (c :: untilQuote rest) = none) :
    fill names before (c :: rest) = (c :: ·) <$> fill names (some c) rest := by
  have nothing : (if isBoundary before (some c) then matchName? names (c :: untilQuote rest)
      else none) = none := by
    split
    · exact noName ‹_›
    · rfl
  simp only [fill, untilQuote_cons noQuote, fromQuote_cons noQuote, List.length_cons,
    substitutePlain, nothing]
  cases substitutePlain names (untilQuote rest).length (some c) (untilQuote rest) with
  | error failure => rfl
  | ok kept => cases substituteSpans names (spans (fromQuote rest)) <;> rfl

/-- A name gives way, with the path after it, to what stands for them. -/
theorem fill_put (named : Named names) {before : Option Char} {c : Char}
    (noQuote : isQuote c = false) {rest : List Char} (starts : isBoundary before (some c) = true)
    {name after last : List Char} {value : Value} {parts : List (List Char)}
    (found : matchName? names (c :: untilQuote rest) = some (name, value, after))
    (taken : takePath after.length after = (parts, last)) :
    fill names before (c :: rest) = (do
      let put ← replacement name value parts
      let further ← fill names ((name ++ pathText parts).getLast?) (last ++ fromQuote rest)
      .ok (put ++ further)) := by
  obtain ⟨-, isText, -⟩ := matchName?_eq_some found
  have isAfter := (takePath_eq_append taken).1
  have inside : ∀ d ∈ last, (!isQuote d) = true := by
    intro d inLast
    have inFront : d ∈ c :: untilQuote rest := by
      rw [isText, isAfter]
      simp [inLast]
    rcases List.mem_cons.mp inFront with rfl | inRest
    · simp [noQuote]
    · simp [isQuote_of_mem_untilQuote d inRest]
  have ends : ∀ d ∈ (fromQuote rest).head?, (!isQuote d) = false := by
    intro d head
    simp [isQuote_of_head?_fromQuote d head]
  have lastFront : untilQuote (last ++ fromQuote rest) = last := Text.takeWhile_run inside ends
  have lastBack : fromQuote (last ++ fromQuote rest) = fromQuote rest :=
    Text.dropWhile_run inside ends
  simp only [fill, untilQuote_cons noQuote, fromQuote_cons noQuote, List.length_cons,
    substitutePlain, starts, if_true, found, taken, lastFront, lastBack]
  rw [substitutePlain_eq named _ last.length (length_last_le named found taken) (Nat.le_refl _)]
  cases replacement name value parts with
  | error failure => rfl
  | ok put =>
      cases substitutePlain names last.length _ last with
      | error failure => rfl
      | ok kept =>
          cases substituteSpans names (spans (fromQuote rest)) with
          | error failure => rfl
          | ok further => simp

end

end Automation.Condition
