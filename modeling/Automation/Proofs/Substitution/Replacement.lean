import Automation.Proofs.Lexing.Modes
import Automation.Proofs.Substitution.Spans

/-!
Variables in the place of whole words.

Names that are runs of word characters match whole runs only. So a run that is no name stays, a name
gives way with the path after it, and everything else stays. `FillsTo` says so of a rest of a
condition, whatever stands before it, as long as no word is cut in two there.
-/

namespace Automation.Condition

/-- Names that are runs of word characters. -/
def AreRuns (names : List (List Char × Value)) : Prop :=
  ∀ entry ∈ names, entry.1 ≠ [] ∧ ∀ c ∈ entry.1, Text.isWord c = true

/-- What may follow a run of word characters: nothing that the run could go on with. -/
def EndsRun (rest : List Char) : Prop := ∀ c ∈ rest.head?, Text.isWord c = false

/-- From a place in a condition on, the variables are put in like this, if no word is cut in two
there. -/
def FillsTo (names : List (List Char × Value)) (text filled : List Char) : Prop :=
  ∀ before : Option Char,
    (∀ c ∈ text.head?, Text.isWord c = true → before.any Text.isWord = false) →
    fill names before text = .ok filled

theorem EndsRun.untilQuote {rest : List Char} (ends : EndsRun rest) :
    EndsRun (untilQuote rest) :=
  fun c head => ends c (head?_of_untilQuote c head)

/-- A word ends where a run of word characters ends. -/
theorem EndsRun.isBoundary {run rest : List Char} (ends : EndsRun rest) (notEmpty : run ≠ [])
    (word : ∀ c ∈ run.getLast?, Text.isWord c = true) :
    isBoundary run.getLast? rest.head? = true := by
  obtain ⟨last, isLast⟩ := List.getLast?_isSome.mpr notEmpty |> Option.isSome_iff_exists.mp
  have lastWord : Text.isWord last = true := word last isLast
  rw [isLast]
  cases head : rest.head? with
  | none => simp [Condition.isBoundary, lastWord]
  | some c => simp [Condition.isBoundary, lastWord, ends c head]

theorem EndsRun.path {rest : List Char} (ends : EndsRun rest) (parts : List (List Char)) :
    EndsRun (pathText parts ++ rest) := by
  cases parts with
  | nil => exact ends
  | cons part parts =>
      intro c head
      cases head
      rfl

theorem isQuote_of_mem_pathText {parts : List (List Char)}
    (valid : ∀ part ∈ parts, part ≠ [] ∧ part.all Text.isWord = true) {c : Char}
    (member : c ∈ pathText parts) : isQuote c = false := by
  obtain ⟨part, inParts, inside⟩ := List.mem_flatMap.mp member
  rcases List.mem_cons.mp inside with rfl | inPart
  · rfl
  · exact isQuote_of_isWord (List.all_eq_true.mp (valid part inParts).2 c inPart)

theorem FillsTo.of_endsRun {names : List (List Char × Value)} {rest filled : List Char}
    (fills : FillsTo names rest filled) (ends : EndsRun rest) (before : Option Char) :
    fill names before rest = .ok filled := by
  apply fills before
  intro c head word
  rw [ends c head] at word
  cases word

section

variable {names : List (List Char × Value)} {run rest filled : List Char}

/-- A name that is found where a run of word characters stands is that run. -/
theorem eq_run_of_matchName? (areRuns : AreRuns names) (word : ∀ c ∈ run, Text.isWord c = true)
    (ends : EndsRun rest) {name after : List Char} {value : Value}
    (found : matchName? names (run ++ rest) = some (name, value, after)) :
    (run, value) ∈ names ∧ name = run ∧ after = rest := by
  obtain ⟨member, isText, boundary⟩ := matchName?_eq_some found
  obtain ⟨notEmpty, nameWord⟩ := areRuns _ member
  have afterEnds : EndsRun after := by
    intro c head
    obtain ⟨last, isLast⟩ := List.getLast?_isSome.mpr notEmpty |> Option.isSome_iff_exists.mp
    have lastWord : Text.isWord last = true := nameWord last (List.mem_of_getLast? isLast)
    rw [isLast, Option.mem_def.mp head] at boundary
    simpa [isBoundary, lastWord] using boundary
  have same : name = run := by
    have front := congrArg (List.takeWhile Text.isWord) isText
    rw [Text.takeWhile_run word ends, Text.takeWhile_run nameWord afterEnds] at front
    exact front.symm
  subst same
  exact ⟨member, rfl, (List.append_cancel_left isText).symm⟩

theorem matchName?_eq_none (areRuns : AreRuns names) (word : ∀ c ∈ run, Text.isWord c = true)
    (ends : EndsRun rest) (noName : ∀ value, (run, value) ∉ names) :
    matchName? names (run ++ rest) = none := by
  cases found : matchName? names (run ++ rest) with
  | none => rfl
  | some held => exact absurd (eq_run_of_matchName? areRuns word ends found).1 (noName held.2.1)

/-- A run of word characters that is a name is found. -/
theorem matchName?_eq_some_of_mem (areRuns : AreRuns names) {value : Value}
    (member : (run, value) ∈ names) (unique : ∀ other, (run, other) ∈ names → other = value)
    (ends : EndsRun rest) : matchName? names (run ++ rest) = some (run, value, rest) := by
  obtain ⟨notEmpty, word⟩ := areRuns _ member
  cases found : matchName? names (run ++ rest) with
  | some held =>
      obtain ⟨name, other, after⟩ := held
      obtain ⟨inNames, rfl, rfl⟩ := eq_run_of_matchName? areRuns word ends found
      rw [unique other inNames]
  | none =>
      have noMatch := List.findSome?_eq_none_iff.mp found _ member
      have dropped : Json.dropWord? run (run ++ rest) = some rest := dropWord?_eq_some_iff.mpr rfl
      have boundary := ends.isBoundary notEmpty fun c last => word c (List.mem_of_getLast? last)
      simp [dropped, boundary] at noMatch

namespace FillsTo

theorem nil : FillsTo names [] [] := fun before _ => fill_nil names before

/-- A character that no name starts with stays. -/
theorem keep (areRuns : AreRuns names) {c : Char} (noQuote : isQuote c = false)
    (noWord : Text.isWord c = false) (fills : FillsTo names rest filled) :
    FillsTo names (c :: rest) (c :: filled) := by
  intro before _
  have noName : ∀ value, ([], value) ∉ names := fun value member => (areRuns _ member).1 rfl
  have ends : EndsRun (c :: untilQuote rest) := by
    intro d head
    cases head
    exact noWord
  have noMatch := @matchName?_eq_none names [] _ areRuns nofun ends noName
  rw [fill_keep noQuote fun _ => noMatch, fills (some c) fun d _ _ => noWord]
  rfl

/-- Inside of a run of word characters no name starts. -/
theorem inside (word : ∀ c ∈ run, Text.isWord c = true) (ends : EndsRun rest)
    (fills : FillsTo names rest filled) {before : Char} (beforeWord : Text.isWord before = true) :
    fill names (some before) (run ++ rest) = .ok (run ++ filled) := by
  induction run generalizing before with
  | nil => exact fills.of_endsRun ends (some before)
  | cons c others inductionHypothesis =>
      have isWord := word c List.mem_cons_self
      have further := inductionHypothesis
        (fun d member => word d (List.mem_cons_of_mem c member)) isWord
      rw [List.cons_append, fill_keep (isQuote_of_isWord isWord), further]
      · rfl
      · intro boundary
        simp [isBoundary, beforeWord, isWord] at boundary

/-- A run of word characters that is no name stays. -/
theorem segment (areRuns : AreRuns names) (notEmpty : run ≠ [])
    (word : ∀ c ∈ run, Text.isWord c = true) (noName : ∀ value, (run, value) ∉ names)
    (ends : EndsRun rest) (fills : FillsTo names rest filled) :
    FillsTo names (run ++ rest) (run ++ filled) := by
  intro before _
  obtain ⟨c, others, rfl⟩ := List.exists_cons_of_ne_nil notEmpty
  have isWord := word c List.mem_cons_self
  have othersWord : ∀ d ∈ others, Text.isWord d = true :=
    fun d member => word d (List.mem_cons_of_mem c member)
  have plain : ∀ d ∈ others, isQuote d = false :=
    fun d member => isQuote_of_isWord (othersWord d member)
  have noMatch := matchName?_eq_none areRuns word ends.untilQuote noName
  rw [List.cons_append, ← untilQuote_append plain] at noMatch
  rw [List.cons_append, fill_keep (isQuote_of_isWord isWord) fun _ => noMatch,
    fills.inside othersWord ends isWord]
  rfl

/-- A dotted path with no name in it stays. -/
theorem path (areRuns : AreRuns names) {parts : List (List Char)}
    (valid : ∀ part ∈ parts, part ≠ [] ∧ part.all Text.isWord = true)
    (noName : ∀ part ∈ parts, ∀ value, (part, value) ∉ names) (ends : EndsRun rest)
    (fills : FillsTo names rest filled) :
    FillsTo names (pathText parts ++ rest) (pathText parts ++ filled) := by
  induction parts with
  | nil => exact fills
  | cons part parts inductionHypothesis =>
      obtain ⟨notEmpty, word⟩ := valid part List.mem_cons_self
      have further := inductionHypothesis
        (fun other member => valid other (List.mem_cons_of_mem part member))
        (fun other member => noName other (List.mem_cons_of_mem part member))
      have shown : ∀ after, pathText (part :: parts) ++ after =
          '.' :: (part ++ (pathText parts ++ after)) := by simp [pathText]
      rw [shown, shown]
      exact keep areRuns rfl rfl (segment areRuns notEmpty (List.all_eq_true.mp word)
        (noName part List.mem_cons_self) (ends.path parts) further)

/-- A quoted text stays. -/
theorem quoted {c : Char} (quote : isQuote c = true) {body : List Char} (quotes : Quotes c body)
    (closed : Closed rest) (fills : FillsTo names rest filled) :
    FillsTo names (c :: body ++ rest) (c :: body ++ filled) := by
  intro before _
  rw [fill_quoted names before quote quotes closed, fills none fun _ _ _ => rfl]
  rfl

/-- A name and the path after it give way to what stands for them. -/
theorem put (areRuns : AreRuns names) {name : List Char} {value : Value}
    (member : (name, value) ∈ names) (unique : ∀ other, (name, other) ∈ names → other = value)
    {parts : List (List Char)} (valid : ∀ part ∈ parts, part ≠ [] ∧ part.all Text.isWord = true)
    (ends : EndsRun rest) (noPoint : rest.head? ≠ some '.') {put : List Char}
    (replaced : replacement name value parts = .ok put) (fills : FillsTo names rest filled) :
    FillsTo names (name ++ (pathText parts ++ rest)) (put ++ filled) := by
  intro before clear
  obtain ⟨notEmpty, word⟩ := areRuns _ member
  obtain ⟨c, others, rfl⟩ := List.exists_cons_of_ne_nil notEmpty
  have isWord : Text.isWord c = true := word c List.mem_cons_self
  have starts : isBoundary before (some c) = true := by
    simp [isBoundary, clear c rfl isWord, isWord]
  have plainOthers : ∀ d ∈ others, isQuote d = false :=
    fun d inOthers => isQuote_of_isWord (word d (List.mem_cons_of_mem c inOthers))
  have plainPath : ∀ d ∈ pathText parts, isQuote d = false :=
    fun d inPath => isQuote_of_mem_pathText valid inPath
  have front : untilQuote (others ++ (pathText parts ++ rest)) =
      others ++ (pathText parts ++ untilQuote rest) := by
    rw [untilQuote_append plainOthers, untilQuote_append plainPath]
  have found := matchName?_eq_some_of_mem areRuns member unique (ends.untilQuote.path parts)
  rw [List.cons_append, ← front] at found
  have taken : takePath (pathText parts ++ untilQuote rest).length
      (pathText parts ++ untilQuote rest) = (parts, untilQuote rest) := by
    refine takePath_pathText ?_ valid ?_ ends.untilQuote
    · have shorter := length_le_length_pathText parts
      rw [List.length_append]
      omega
    · exact fun point => noPoint (head?_of_untilQuote '.' point)
  rw [List.cons_append, fill_put (fun entry inNames => (areRuns entry inNames).1)
    (isQuote_of_isWord isWord) starts found taken, replaced, fromQuote_append plainOthers,
    fromQuote_append plainPath, untilQuote_append_fromQuote, ok_bind, fills.of_endsRun ends]
  rfl

end FillsTo

end

end Automation.Condition
