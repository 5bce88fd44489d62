import Automation.Proofs.Lexing.Modes
import Automation.Proofs.Substitution.Spans

/-!
A condition in pieces.

`cut` takes a condition apart before anything is put in: into quoted texts and characters that stay,
and runs that give way to the value of a variable. The pieces are the condition again if each run
is read (`source_of_cut`), and they are what it is filled to if each value is written
(`substitute_eq_cut`). `AreCut` is what the proofs know of the pieces of a condition.
-/

namespace Automation.Condition

/-- A piece of a condition: a quoted text or another character that stays, or a name with a path
that gives way to a value. -/
inductive Piece where
  | quoted (text : List Char)
  | plain (c : Char)
  | put (run : List Char) (found : Value)

namespace Piece

/-- What a piece is in the condition. -/
def source : Piece → List Char
  | .quoted text => text
  | .plain c => [c]
  | .put run _ => run

/-- What a piece becomes. -/
def target : Piece → List Char
  | .quoted text => text
  | .plain c => [c]
  | .put _ found => literal found

end Piece

/-- A condition from its pieces. -/
def source (pieces : List Piece) : List Char := pieces.flatMap Piece.source

/-- What a condition is filled to, from its pieces. -/
def target (pieces : List Piece) : List Char := pieces.flatMap Piece.target

@[simp]
theorem source_nil : source [] = [] := rfl

@[simp]
theorem target_nil : target [] = [] := rfl

@[simp]
theorem source_cons (piece : Piece) (pieces : List Piece) :
    source (piece :: pieces) = piece.source ++ source pieces := rfl

@[simp]
theorem target_cons (piece : Piece) (pieces : List Piece) :
    target (piece :: pieces) = piece.target ++ target pieces := rfl

@[simp]
theorem source_append (first second : List Piece) :
    source (first ++ second) = source first ++ source second := by
  simp [source]

@[simp]
theorem target_append (first second : List Piece) :
    target (first ++ second) = target first ++ target second := by
  simp [target]

@[simp]
theorem source_plain (text : List Char) : source (text.map .plain) = text := by
  simp [source, List.flatMap_map, Piece.source]

@[simp]
theorem target_plain (text : List Char) : target (text.map .plain) = text := by
  simp [target, List.flatMap_map, Piece.target]

/-- A name with a path, cut by what the path leads to. -/
def cutRun (run : List Char) : Option Value → List Piece
  | some found => [.put run found]
  | none => run.map .plain

/-- The pieces of plain text. `before` is the character in front of the text. -/
def cutPlain (names : List (List Char × Value)) :
    (fuel : Nat) → (before : Option Char) → List Char → Except Failure (List Piece)
  | _, _, [] => .ok []
  | 0, _, text => .ok (text.map .plain)
  | fuel + 1, before, c :: rest =>
      match if isBoundary before (some c) then matchName? names (c :: rest) else none with
      | some (name, value, after) => do
          let (parts, last) := takePath after.length after
          let found ← value.follow? parts
          let further ← cutPlain names fuel (name ++ pathText parts).getLast? last
          .ok (cutRun (name ++ pathText parts) found ++ further)
      | none => do
          let further ← cutPlain names fuel (some c) rest
          .ok (.plain c :: further)

/-- The pieces of a span. -/
def cutSpan (names : List (List Char × Value)) : Span → Except Failure (List Piece)
  | .plain text => cutPlain names text.length none text
  | .quoted text => .ok [.quoted text]

/-- The pieces of spans. -/
def cutSpans (names : List (List Char × Value)) : List Span → Except Failure (List Piece)
  | [] => .ok []
  | span :: rest => do
      let pieces ← cutSpan names span
      let further ← cutSpans names rest
      .ok (pieces ++ further)

/-- The pieces of a condition. -/
def cut (scope : Fields) (text : List Char) : Except Failure (List Piece) :=
  cutSpans (namesLongestFirst scope) (spans text)

section

variable {names : List (List Char × Value)}

theorem target_cutRun (run : List Char) (found : Option Value) :
    target (cutRun run found) = (found.map literal).getD run := by
  cases found with
  | none => exact target_plain run
  | some value => simp [cutRun, Piece.target]

theorem source_cutRun (run : List Char) (found : Option Value) :
    source (cutRun run found) = run := by
  cases found with
  | none => exact source_plain run
  | some value => simp [cutRun, Piece.source]

theorem substitutePlain_eq_cutPlain
    (renderable : ∀ entry ∈ names, Json.checkWritable entry.2 = .ok ()) (fuel : Nat)
    (before : Option Char) (text : List Char) :
    substitutePlain names fuel before text = target <$> cutPlain names fuel before text := by
  induction fuel generalizing before text with
  | zero =>
      cases text with
      | nil => rfl
      | cons c rest => exact congrArg Except.ok (target_plain (c :: rest)).symm
  | succ fuel inductionHypothesis =>
      cases text with
      | nil => rfl
      | cons c rest =>
          cases found : (if isBoundary before (some c) then matchName? names (c :: rest)
              else none) with
          | none =>
              simp only [substitutePlain, cutPlain, found, inductionHypothesis]
              cases cutPlain names fuel (some c) rest <;> simp [Piece.target]
          | some held =>
              obtain ⟨name, value, after⟩ := held
              have member : (name, value) ∈ names := by
                split at found
                · exact (matchName?_eq_some found).1
                · cases found
              cases taken : takePath after.length after with
              | mk parts last =>
                  simp only [substitutePlain, cutPlain, found, taken,
                    replacement_eq (renderable _ member), inductionHypothesis]
                  cases value.follow? parts with
                  | error failure => rfl
                  | ok inner =>
                      cases cutPlain names fuel (name ++ pathText parts).getLast? last with
                      | error failure => rfl
                      | ok pieces => simp [target_cutRun]

theorem substituteSpans_eq_cutSpans
    (renderable : ∀ entry ∈ names, Json.checkWritable entry.2 = .ok ()) (spans : List Span) :
    substituteSpans names spans = target <$> cutSpans names spans := by
  induction spans with
  | nil => rfl
  | cons span rest inductionHypothesis =>
      have first : substituteSpan names span = target <$> cutSpan names span := by
        cases span with
        | plain text => exact substitutePlain_eq_cutPlain renderable text.length none text
        | quoted text => simp [substituteSpan, cutSpan, Piece.target]
      rw [substituteSpans, cutSpans, first, inductionHypothesis]
      cases cutSpan names span with
      | error failure => rfl
      | ok pieces => cases cutSpans names rest <;> simp

/-- A condition is filled to what its pieces put in. -/
theorem substitute_eq_cut {scope : Fields}
    (renderable : ∀ entry ∈ scope, Json.checkWritable entry.2 = .ok ()) (text : List Char) :
    substitute scope text = target <$> cut scope text := by
  apply substituteSpans_eq_cutSpans
  intro entry member
  obtain ⟨key, -, inVariables⟩ := exists_name_of_mem member
  exact renderable _ inVariables

theorem failsOnly_cutPlain (fuel : Nat) (before : Option Char) (text : List Char) :
    FailsOnly Failure.IsUnreadable (cutPlain names fuel before text) := by
  induction fuel generalizing before text with
  | zero => cases text <;> exact .ok _
  | succ fuel inductionHypothesis =>
      cases text with
      | nil => exact .ok _
      | cons c rest =>
          rw [cutPlain]
          split
          · rename_i name value after _
            apply (Value.failsOnly_follow? value _).bind
            intro found
            exact (inductionHypothesis _ _).bind fun _ => .ok _
          · exact (inductionHypothesis (some c) rest).bind fun _ => .ok _

/-- Only a position that is not read keeps a condition from being taken apart. -/
theorem failsOnly_cut (scope : Fields) (text : List Char) :
    FailsOnly Failure.IsUnreadable (cut scope text) := by
  unfold cut
  induction spans text with
  | nil => exact .ok _
  | cons span rest inductionHypothesis =>
      have first : FailsOnly Failure.IsUnreadable (cutSpan (namesLongestFirst scope) span) := by
        cases span with
        | plain text => exact failsOnly_cutPlain text.length none text
        | quoted text => exact .ok _
      exact first.bind fun _ => inductionHypothesis.bind fun _ => .ok _

/-- The path after a name is taken as far as it goes. -/
theorem endsRun_of_takePath {fuel : Nat} {text last : List Char} {parts : List (List Char)}
    (taken : takePath fuel text = (parts, last)) (notEmpty : parts ≠ []) :
    ∀ c ∈ last.head?, Text.isWord c = false := by
  induction fuel generalizing text parts with
  | zero =>
      cases taken
      exact absurd rfl notEmpty
  | succ fuel inductionHypothesis =>
      unfold takePath at taken
      split at taken
      · rename_i rest equal
        cases equal
        split at taken
        · cases taken
          exact absurd rfl notEmpty
        · cases further : takePath fuel (rest.dropWhile Text.isWord) with
          | mk others last' =>
              rw [further] at taken
              cases taken
              by_cases none : others = []
              · subst none
                have same := (takePath_eq_append further).1
                rw [pathText, List.flatMap_nil, List.nil_append] at same
                exact same ▸ Text.head?_dropWhile
              · exact inductionHypothesis further none
      · cases taken
        exact absurd rfl notEmpty

end

/-- What the pieces of a condition with closed quotes are: quoted texts that close, other characters
that are no quotes, and runs that end where a word starts or ends. -/
inductive AreCut : List Piece → Prop where
  | nil : AreCut []
  | quoted {c body rest} : isQuote c = true → Quotes c body → AreCut rest →
      AreCut (.quoted (c :: body) :: rest)
  | plain {c rest} : isQuote c = false → AreCut rest → AreCut (.plain c :: rest)
  | put {run found rest} : run ≠ [] → (∀ c ∈ run, isQuote c = false) →
      isBoundary run.getLast? (source rest).head? = true → AreCut rest →
      AreCut (.put run found :: rest)

theorem AreCut.plains {text : List Char} (plain : ∀ c ∈ text, isQuote c = false)
    {rest : List Piece} (areCut : AreCut rest) : AreCut (text.map .plain ++ rest) := by
  induction text with
  | nil => exact areCut
  | cons c others inductionHypothesis =>
      exact .plain (plain c List.mem_cons_self)
        (inductionHypothesis fun d member => plain d (List.mem_cons_of_mem c member))

section

variable {names : List (List Char × Value)} {before : Option Char} {name after last : List Char}
  {parts : List (List Char)}

/-- A word starts or ends behind a name and its path. -/
theorem isBoundary_of_takePath (ends : isBoundary name.getLast? after.head? = true)
    (taken : takePath after.length after = (parts, last)) {later : List Char}
    (head : ∀ c ∈ later.head?, isQuote c = true) :
    isBoundary (name ++ pathText parts).getLast? (last ++ later).head? = true := by
  have same : (last ++ later).head?.any Text.isWord = last.head?.any Text.isWord := by
    cases last with
    | cons c rest => rfl
    | nil =>
        cases later with
        | nil => rfl
        | cons c rest => exact isWord_of_isQuote (head c rfl)
  obtain ⟨isAfter, valid⟩ := takePath_eq_append taken
  by_cases none : parts = []
  · subst none
    rw [pathText, List.flatMap_nil, List.nil_append] at isAfter
    rw [isBoundary, same, ← isAfter]
    simpa [isBoundary, pathText] using ends
  · have stops : last.head?.any Text.isWord = false := by
      have noWord := endsRun_of_takePath taken none
      cases isHead : last.head? with
      | none => rfl
      | some c => exact noWord c isHead
    obtain ⟨front, part, isParts⟩ := (List.eq_nil_or_concat parts).resolve_left none
    rw [List.concat_eq_append] at isParts
    subst isParts
    obtain ⟨notEmpty, word⟩ := valid part (by simp)
    obtain ⟨d, isLast⟩ := Option.isSome_iff_exists.mp (List.getLast?_isSome.mpr notEmpty)
    have lastWord := List.all_eq_true.mp word d (List.mem_of_getLast? isLast)
    have run : (name ++ pathText (front ++ [part])).getLast? = some d := by
      simp [pathText, List.getLast?_append, List.getLast?_cons, isLast]
    rw [isBoundary, same, stops, run]
    simp [lastWord]

theorem areCut_cutRun {run : List Char} (notEmpty : run ≠ [])
    (plain : ∀ c ∈ run, isQuote c = false) (found : Option Value) {rest : List Piece}
    (ends : isBoundary run.getLast? (source rest).head? = true) (areCut : AreCut rest) :
    AreCut (cutRun run found ++ rest) := by
  cases found with
  | none => exact areCut.plains plain
  | some value => exact .put notEmpty plain ends areCut

/-- The pieces of plain text are that text, and pieces of a condition if what follows them is. -/
theorem areCut_cutPlain (named : Named names) {fuel : Nat} {text : List Char}
    (enough : text.length ≤ fuel) (plain : ∀ c ∈ text, isQuote c = false) {pieces : List Piece}
    (isCut : cutPlain names fuel before text = .ok pieces) :
    source pieces = text ∧ ∀ later, AreCut later →
      (∀ c ∈ (source later).head?, isQuote c = true) → AreCut (pieces ++ later) := by
  induction fuel generalizing before text pieces with
  | zero =>
      have empty : text = [] := List.eq_nil_of_length_eq_zero (by omega)
      subst empty
      cases isCut
      exact ⟨rfl, fun later areCut _ => areCut⟩
  | succ fuel inductionHypothesis =>
      cases text with
      | nil =>
          cases isCut
          exact ⟨rfl, fun later areCut _ => areCut⟩
      | cons c rest =>
          rw [cutPlain] at isCut
          split at isCut
          · rename_i name value after found
            have isMatch : matchName? names (c :: rest) = some (name, value, after) := by
              split at found
              · exact found
              · cases found
            obtain ⟨member, isText, ends⟩ := matchName?_eq_some isMatch
            cases taken : takePath after.length after with
            | mk parts last =>
                simp only [taken, bind_eq_ok_iff, Except.ok.injEq] at isCut
                obtain ⟨inner, -, further, isFurther, rfl⟩ := isCut
                have isAfter := (takePath_eq_append taken).1
                have whole : c :: rest = name ++ pathText parts ++ last := by
                  rw [isText, isAfter, List.append_assoc]
                have shorter := length_last_le named isMatch taken
                obtain ⟨isLast, areCut⟩ := inductionHypothesis (by simp at enough; omega)
                  (fun d inLast => plain d (by simp [whole, inLast])) isFurther
                refine ⟨by rw [source_append, source_cutRun, isLast, whole], ?_⟩
                intro later laterCut head
                rw [List.append_assoc]
                apply areCut_cutRun
                · simp [named _ member]
                · intro d inRun
                  apply plain
                  simp only [whole, List.mem_append, inRun, true_or]
                · rw [source_append, isLast]
                  exact isBoundary_of_takePath ends taken head
                · exact areCut later laterCut head
          · simp only [bind_eq_ok_iff, Except.ok.injEq] at isCut
            obtain ⟨further, isFurther, rfl⟩ := isCut
            obtain ⟨isRest, areCut⟩ := inductionHypothesis (by simpa using enough)
              (fun d member => plain d (List.mem_cons_of_mem c member)) isFurther
            refine ⟨by simp [Piece.source, isRest], fun later laterCut head => ?_⟩
            exact .plain (plain c List.mem_cons_self) (areCut later laterCut head)

theorem areCut_cutSpans (named : Named names) {text : List Char} (closed : Closed text)
    {pieces : List Piece} (isCut : cutSpans names (spans text) = .ok pieces) :
    source pieces = text ∧ AreCut pieces := by
  -- By length, since a span is passed as a whole.
  induction length : text.length using Nat.strongRecOn generalizing text pieces with
  | _ _ inductionHypothesis =>
      subst length
      by_cases empty : untilQuote text = []
      · cases closed with
        | nil =>
            cases isCut
            exact ⟨rfl, .nil⟩
        | plain noQuote _ => simp [untilQuote, noQuote] at empty
        | @quoted c body rest quote quotes closed =>
            simp only [spans_quoted quote quotes, cutSpans, cutSpan, ok_bind, bind_eq_ok_iff,
              Except.ok.injEq] at isCut
            obtain ⟨further, isFurther, rfl⟩ := isCut
            have shorter : rest.length < (c :: body ++ rest).length := by
              simp only [List.length_cons, List.length_append]
              omega
            obtain ⟨isRest, areCut⟩ :=
              inductionHypothesis rest.length shorter closed isFurther rfl
            exact ⟨by simp [Piece.source, isRest], .quoted quote quotes areCut⟩
      · have whole := untilQuote_append_fromQuote text
        simp only [spans_of_closed closed empty, cutSpans, cutSpan, bind_eq_ok_iff,
          Except.ok.injEq] at isCut
        obtain ⟨front, isFront, back, isBack, rfl⟩ := isCut
        have closedBack : Closed (fromQuote text) :=
          Closed.of_append isQuote_of_mem_untilQuote (whole.symm ▸ closed)
        have shorter : (fromQuote text).length < text.length := by
          have lengths := congrArg List.length whole
          have positive := List.length_pos_iff.mpr empty
          simp only [List.length_append] at lengths
          omega
        obtain ⟨sourceFront, cutFront⟩ :=
          areCut_cutPlain named (Nat.le_refl _) isQuote_of_mem_untilQuote isFront
        obtain ⟨sourceBack, cutBack⟩ := inductionHypothesis _ shorter closedBack isBack rfl
        refine ⟨by rw [source_append, sourceFront, sourceBack, whole], cutFront back cutBack ?_⟩
        rw [sourceBack]
        exact isQuote_of_head?_fromQuote

/-- The pieces of a condition are the condition. -/
theorem source_of_cut {scope : Fields} {text : List Char} (closed : Closed text)
    {pieces : List Piece} (isCut : cut scope text = .ok pieces) : source pieces = text :=
  (areCut_cutSpans (named_namesLongestFirst scope) closed isCut).1

theorem areCut_of_cut {scope : Fields} {text : List Char} (closed : Closed text)
    {pieces : List Piece} (isCut : cut scope text = .ok pieces) : AreCut pieces :=
  (areCut_cutSpans (named_namesLongestFirst scope) closed isCut).2

end

end Automation.Condition
