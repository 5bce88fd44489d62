import Automation.Text.Character

/-!
Runs of characters at the front of a text, and the parts of a text between separators.

A run is characters of one class, and it ends before the first character that is not of it.
Trimming takes the runs of blanks away from both ends of a text. A text that is split has at least
one part, and no part has the separator in it.
-/

namespace Automation.Text

variable {isMember : Char → Bool} {run rest front core behind : List Char}

theorem takeWhile_run (inside : ∀ c ∈ run, isMember c = true)
    (ends : ∀ c ∈ rest.head?, isMember c = false) : (run ++ rest).takeWhile isMember = run := by
  rw [List.takeWhile_append_of_pos inside]
  cases rest with
  | nil => simp
  | cons c after => simp [ends c rfl]

theorem dropWhile_run (inside : ∀ c ∈ run, isMember c = true)
    (ends : ∀ c ∈ rest.head?, isMember c = false) : (run ++ rest).dropWhile isMember = rest := by
  rw [List.dropWhile_append_of_pos inside]
  cases rest with
  | nil => rfl
  | cons c after => simp [ends c rfl]

theorem takeWhile_of_all (inside : ∀ c ∈ run, isMember c = true) :
    run.takeWhile isMember = run := by
  simpa using @takeWhile_run isMember run [] inside nofun

theorem dropWhile_of_head (ends : ∀ c ∈ rest.head?, isMember c = false) :
    rest.dropWhile isMember = rest := by
  cases rest with
  | nil => rfl
  | cons c after => simp [ends c rfl]

theorem mem_takeWhile {c : Char} {text : List Char} (member : c ∈ text.takeWhile isMember) :
    isMember c = true :=
  List.all_eq_true.mp (List.all_takeWhile) c member

theorem head?_dropWhile {text : List Char} :
    ∀ c ∈ (text.dropWhile isMember).head?, isMember c = false := by
  intro c head
  have stops := List.head?_dropWhile_not isMember text
  rw [Option.mem_def.mp head] at stops
  simpa using stops

/-- What a text starts with has a property, and so has what follows the text if it is empty. -/
theorem forall_head?_append {p : Char → Prop} {first second : List Char}
    (inFirst : ∀ c ∈ first.head?, p c) (inSecond : ∀ c ∈ second.head?, p c) :
    ∀ c ∈ (first ++ second).head?, p c := by
  cases first with
  | nil => exact inSecond
  | cons c others => exact inFirst

theorem forall_head?_of_append {p : Char → Prop} {first second : List Char}
    (inBoth : ∀ c ∈ (first ++ second).head?, p c) : ∀ c ∈ first.head?, p c := by
  cases first with
  | nil => exact nofun
  | cons c others => exact inBoth

theorem trim_ne_nil_of_mem {c : Char} {text : List Char} (inText : c ∈ text)
    (visible : isBlank c = false) : trim text ≠ [] := by
  have dropped {text : List Char} (inText : c ∈ text) : c ∈ text.dropWhile isBlank := by
    rw [← List.takeWhile_append_dropWhile (p := isBlank) (l := text), List.mem_append] at inText
    refine inText.resolve_left fun blank => ?_
    rw [List.all_eq_true.mp List.all_takeWhile c blank] at visible
    cases visible
  have kept : c ∈ trim text := by
    simp only [trim, trimRight, trimLeft, List.mem_reverse]
    exact dropped (List.mem_reverse.mpr (dropped inText))
  exact List.ne_nil_of_mem kept

/-- Trimming stops at what is no blank. -/
theorem trim_surrounded (frontBlank : front.all isBlank = true)
    (behindBlank : behind.all isBlank = true) (first : ∃ c ∈ core.head?, isBlank c = false)
    (last : ∃ c ∈ core.getLast?, isBlank c = false) : trim (front ++ core ++ behind) = core := by
  obtain ⟨c, head, firstVisible⟩ := first
  obtain ⟨d, final, lastVisible⟩ := last
  have starts : ∀ c ∈ (core ++ behind).head?, isBlank c = false := by
    rw [List.head?_append, Option.mem_def.mp head]
    rintro c ⟨⟩
    exact firstVisible
  have ends : ∀ d ∈ core.reverse.head?, isBlank d = false := by
    rw [List.head?_reverse, Option.mem_def.mp final]
    rintro d ⟨⟩
    exact lastVisible
  rw [List.append_assoc, trim, trimLeft, dropWhile_run (List.all_eq_true.mp frontBlank) starts,
    trimRight, List.reverse_append, dropWhile_run (by simpa using behindBlank) ends,
    List.reverse_reverse]

/-- Trimming takes blanks away from both ends of a text. -/
theorem exists_append_trim (text : List Char) : ∃ front behind, front.all isBlank = true ∧
    behind.all isBlank = true ∧ text = front ++ trim text ++ behind := by
  refine ⟨text.takeWhile isBlank, ((trimLeft text).reverse.takeWhile isBlank).reverse,
    List.all_takeWhile, by simp, ?_⟩
  have right : trimRight (trimLeft text) ++
      ((trimLeft text).reverse.takeWhile isBlank).reverse = trimLeft text := by
    rw [trimRight, ← List.reverse_append, List.takeWhile_append_dropWhile, List.reverse_reverse]
  rw [List.append_assoc, trim, right, trimLeft, List.takeWhile_append_dropWhile]

theorem splitAt_ne_nil (separator : Char) (text : List Char) : splitAt separator text ≠ [] := by
  cases text with
  | nil => exact List.cons_ne_nil _ _
  | cons c rest =>
      rw [splitAt]
      split
      · exact List.cons_ne_nil _ _
      · split <;> exact List.cons_ne_nil _ _

theorem not_mem_of_mem_splitAt {separator : Char} {text part : List Char}
    (member : part ∈ splitAt separator text) : separator ∉ part := by
  induction text generalizing part with
  | nil =>
      rw [splitAt, List.mem_singleton] at member
      rw [member]
      exact List.not_mem_nil
  | cons c rest inductionHypothesis =>
      rw [splitAt] at member
      split at member
      · rcases List.mem_cons.mp member with rfl | inRest
        · exact List.not_mem_nil
        · exact inductionHypothesis inRest
      · next different =>
          split at member
          · rw [List.mem_singleton] at member
            rw [member, List.mem_singleton]
            exact Ne.symm different
          · next first others split =>
              rw [split] at inductionHypothesis
              rcases List.mem_cons.mp member with rfl | inOthers
              · rw [List.mem_cons, not_or]
                exact ⟨Ne.symm different, inductionHypothesis List.mem_cons_self⟩
              · exact inductionHypothesis (List.mem_cons_of_mem first inOthers)

theorem splitAt_of_not_mem {separator : Char} {text : List Char} (without : separator ∉ text) :
    splitAt separator text = [text] := by
  induction text with
  | nil => rfl
  | cons c rest inductionHypothesis =>
      rw [List.mem_cons, not_or] at without
      rw [splitAt, if_neg (Ne.symm without.1), inductionHypothesis without.2]

theorem splitAt_append {separator : Char} {front : List Char} (without : separator ∉ front)
    (rest : List Char) :
    splitAt separator (front ++ separator :: rest) = front :: splitAt separator rest := by
  induction front with
  | nil => rw [List.nil_append, splitAt, if_pos rfl]
  | cons c others inductionHypothesis =>
      rw [List.mem_cons, not_or] at without
      rw [List.cons_append, splitAt, if_neg (Ne.symm without.1), inductionHypothesis without.2]

end Automation.Text
