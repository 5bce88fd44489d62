import Automation.Logging.Pattern
import Automation.Proofs.Text.Classes
import Mathlib.Data.List.Chain
import Mathlib.Data.List.Infix

/-!
What patterns match.

A word matches a run if it consists of characters of its class, as many as its bounds allow. It
matches a pattern if it is made of words that match the runs, one after the other. A search takes
as many characters as it can and gives none of them back. It finds a match nevertheless wherever
there is one, provided that no run can take what the next one needs. Where a match is replaced, the
text around it stays.
-/

namespace Automation

namespace Text

/-- The characters above ASCII that stand for letters of ASCII when case is ignored. -/
def letterLike : List Char := ['İ', 'ı', 'ſ', '\u212a']

theorem toLower_of_wide {c : Char} (wide : ¬c.toNat < 128) : c.toLower = c := by
  apply dif_neg
  rintro ⟨-, upper⟩
  apply wide
  have bounded : c.toNat ≤ 'Z'.toNat := UInt32.le_iff_toNat_le.mp upper
  exact Nat.lt_of_le_of_lt bounded (by decide)

/-- What ignores case on ASCII, and on what stands for a letter of ASCII, ignores it everywhere. -/
theorem apply_fold {α : Type} [DecidableEq α] {f : Char → α}
    (ascii : ∀ code : Fin 128, f (fold (Char.ofNat code)) = f (Char.ofNat code))
    (alike : letterLike.all (fun c => f (fold c) = f c) = true) (c : Char) :
    f (fold c) = f c := by
  by_cases isAscii : c.toNat < 128
  · have same := ascii ⟨c.toNat, isAscii⟩
    rwa [Char.ofNat_toNat] at same
  · by_cases isAlike : c ∈ letterLike
    · exact of_decide_eq_true (List.all_eq_true.mp alike c isAlike)
    · -- Any other character above ASCII is folded to itself.
      have same : fold c = c := by
        simp only [letterLike, List.mem_cons, List.not_mem_nil, or_false, not_or] at isAlike
        simp only [fold, isAlike, or_self, if_false, toLower_of_wide isAscii]
      rw [same]

theorem fold_fold (c : Char) : fold (fold c) = fold c :=
  apply_fold (by decide +kernel) (by decide +kernel) c

end Text

namespace Logging

/-- A word that a run takes as a whole. -/
structure Run.Matches (run : Run) (word : List Char) : Prop where
  inside : ∀ c ∈ word, run.accepts c = true
  enough : run.least ≤ word.length
  bounded : ∀ greatest ∈ run.greatest, word.length ≤ greatest

namespace Run

/-- The part of a text that a run of bounded length can reach. -/
def reach (greatest : Option Nat) (text : List Char) : List Char :=
  match greatest with
  | none => text
  | some count => text.take count

theorem takeUpTo_eq (accepts : Char → Bool) (greatest : Option Nat) (text : List Char) :
    takeUpTo accepts greatest text =
      (((reach greatest text).takeWhile accepts).length,
        text.drop ((reach greatest text).takeWhile accepts).length) := by
  induction text generalizing greatest with
  | nil =>
      match greatest with
      | none | some 0 | some (_ + 1) => rfl
  | cons c rest inductionHypothesis =>
      match greatest with
      | some 0 => rfl
      | none =>
          have further := inductionHypothesis none
          by_cases accepted : accepts c = true
          · simp_all [takeUpTo, reach]
          · simp_all [takeUpTo, reach]
      | some (count + 1) =>
          have further := inductionHypothesis (some count)
          by_cases accepted : accepts c = true
          · simp_all [takeUpTo, reach]
          · simp_all [takeUpTo, reach]

/-- The characters that a run takes from the front of a text, if they are enough. -/
def front (run : Run) (text : List Char) : List Char :=
  (reach run.greatest text).takeWhile run.accepts

theorem takeFront?_def (run : Run) (text : List Char) : run.takeFront? text =
    if (run.front text).length < run.least then none
    else some ((run.front text).length, text.drop (run.front text).length) := by
  rw [takeFront?, takeUpTo_eq]
  rfl

theorem front_prefix (run : Run) (text : List Char) : run.front text <+: text := by
  apply (List.takeWhile_prefix run.accepts).trans
  cases run.greatest with
  | none => exact List.prefix_refl text
  | some count => exact List.take_prefix count text

theorem length_front_le (run : Run) (text : List Char) :
    ∀ greatest ∈ run.greatest, (run.front text).length ≤ greatest := by
  intro greatest bound
  rw [front, Option.mem_def.mp bound]
  apply Nat.le_trans (List.takeWhile_prefix _).length_le
  exact List.length_take_le greatest text

theorem matches_of_takeFront? {run : Run} {text after : List Char} {count : Nat}
    (taken : run.takeFront? text = some (count, after)) :
    ∃ word, text = word ++ after ∧ word.length = count ∧ run.Matches word := by
  rw [takeFront?_def] at taken
  split at taken
  · cases taken
  · next enough =>
      cases taken
      have isFront := List.prefix_iff_eq_append.mp (run.front_prefix text)
      refine ⟨run.front text, isFront.symm, rfl, ?_, Nat.not_lt.mp enough, ?_⟩
      · exact fun c member => Text.mem_takeWhile member
      · exact run.length_front_le text

theorem reach_append {greatest : Option Nat} {word : List Char}
    (bounded : ∀ count ∈ greatest, word.length ≤ count) (rest : List Char) :
    ∃ further, further <+: rest ∧ reach greatest (word ++ rest) = word ++ further ∧
      (greatest = some word.length → further = []) := by
  cases greatest with
  | none => exact ⟨rest, List.prefix_refl rest, rfl, nofun⟩
  | some count =>
      refine ⟨rest.take (count - word.length), List.take_prefix _ rest, ?_, ?_⟩
      · rw [reach, List.take_append, List.take_of_length_le (bounded count rfl)]
      · rintro ⟨⟩
        rw [Nat.sub_self, List.take_zero]

theorem Matches.exists_takeFront? {run : Run} {word : List Char} (isMatch : run.Matches word)
    (rest : List Char) :
    ∃ count after, word.length ≤ count ∧ run.takeFront? (word ++ rest) = some (count, after) := by
  obtain ⟨further, -, reached, -⟩ := reach_append isMatch.bounded rest
  have longer : word.length ≤ (run.front (word ++ rest)).length := by
    rw [front, reached, List.takeWhile_append_of_pos isMatch.inside, List.length_append]
    exact Nat.le_add_right _ _
  have enough := Nat.not_lt.mpr (Nat.le_trans isMatch.enough longer)
  exact ⟨_, _, longer, by rw [takeFront?_def, if_neg enough]⟩

/-- A run takes exactly what matches it if it may take no more or cannot go on. -/
theorem Matches.takeFront?_eq {run : Run} {word rest : List Char} (isMatch : run.Matches word)
    (stops : run.greatest = some word.length ∨ ∀ c ∈ rest.head?, run.accepts c = false) :
    run.takeFront? (word ++ rest) = some (word.length, rest) := by
  obtain ⟨further, isFurther, reached, nothing⟩ := reach_append isMatch.bounded rest
  have ends : ∀ c ∈ further.head?, run.accepts c = false := by
    intro c head
    rcases stops with exact | stops
    · rw [nothing exact] at head
      cases head
    · apply stops
      obtain ⟨others, rfl⟩ := isFurther
      obtain ⟨more, rfl⟩ := List.head?_eq_some_iff.mp head
      rfl
  have taken : run.front (word ++ rest) = word := by
    rw [front, reached]
    exact Text.takeWhile_run isMatch.inside ends
  rw [takeFront?_def, taken, if_neg (Nat.not_lt.mpr isMatch.enough), List.drop_left]

end Run

namespace Pattern

/-- A word that a pattern matches as a whole. -/
inductive Matches : Pattern → List Char → Prop where
  | nil : Matches [] []
  | cons {run : Run} {runs : Pattern} {word rest : List Char} :
      run.Matches word → Matches runs rest → Matches (run :: runs) (word ++ rest)

/-- No run of a pattern takes what the next one needs: either it takes a fixed number of
characters, or it takes none that the next run could start with. -/
def IsSeparate (pattern : Pattern) : Prop :=
  pattern.IsChain fun run next => run.greatest = some run.least ∨
    (0 < next.least ∧ ∀ c, next.accepts c = true → run.accepts c = false)

theorem takeFront?_cons (run : Run) (runs : Pattern) (text : List Char) :
    takeFront? (run :: runs) text = (run.takeFront? text).bind fun first =>
      (takeFront? runs first.2).map fun others => (first.1 + others.1, others.2) := by
  rw [takeFront?]
  cases run.takeFront? text with
  | none => rfl
  | some first => cases further : takeFront? runs first.2 <;> simp [further]

theorem matches_of_takeFront? {pattern : Pattern} {text after : List Char} {count : Nat}
    (taken : pattern.takeFront? text = some (count, after)) :
    ∃ word, text = word ++ after ∧ word.length = count ∧ pattern.Matches word := by
  induction pattern generalizing text count with
  | nil =>
      cases taken
      exact ⟨[], rfl, rfl, .nil⟩
  | cons run runs inductionHypothesis =>
      simp only [takeFront?_cons, Option.bind_eq_some_iff, Option.map_eq_some_iff,
        Prod.mk.injEq, Prod.exists] at taken
      obtain ⟨first, middle, front, others, last, further, rfl, rfl⟩ := taken
      obtain ⟨word, rfl, rfl, isMatch⟩ := Run.matches_of_takeFront? front
      obtain ⟨rest, rfl, rfl, areMatches⟩ := inductionHypothesis further
      exact ⟨word ++ rest, by rw [List.append_assoc], List.length_append, .cons isMatch areMatches⟩

/-- A separate pattern takes at least what matches it. -/
theorem Matches.exists_takeFront? {pattern : Pattern} {word : List Char}
    (isMatch : pattern.Matches word) (separate : pattern.IsSeparate) (rest : List Char) :
    ∃ count after, word.length ≤ count ∧
      pattern.takeFront? (word ++ rest) = some (count, after) := by
  induction isMatch with
  | nil => exact ⟨0, rest, Nat.le_refl 0, rfl⟩
  | @cons run runs word others front areMatches inductionHypothesis =>
      cases areMatches with
      | nil =>
          obtain ⟨count, after, longer, taken⟩ := front.exists_takeFront? rest
          refine ⟨count, after, by simpa using longer, ?_⟩
          rw [takeFront?_cons, List.append_nil, taken]
          rfl
      | @cons next further second others nextMatch areMatches =>
          obtain ⟨apart, separateOthers⟩ := List.isChain_cons_cons.mp separate
          -- The run stops where the next one starts, so the match of the next one is still there.
          have stops : run.greatest = some word.length ∨
              ∀ c ∈ (second ++ others ++ rest).head?, run.accepts c = false := by
            rcases apart with exact | ⟨nonempty, disjoint⟩
            · left
              have shorter := front.bounded run.least exact
              rw [exact, Nat.le_antisymm front.enough shorter]
            · right
              obtain ⟨d, tail, rfl⟩ := List.exists_cons_of_length_pos
                (Nat.lt_of_lt_of_le nonempty nextMatch.enough)
              rintro _ ⟨⟩
              exact disjoint d (nextMatch.inside d List.mem_cons_self)
          obtain ⟨count, after, longer, taken⟩ := inductionHypothesis separateOthers
          refine ⟨word.length + count, after, ?_, ?_⟩
          · rw [List.length_append]
            exact Nat.add_le_add_left longer word.length
          · rw [List.append_assoc, takeFront?_cons, front.takeFront?_eq stops, Option.bind_some,
              taken, Option.map_some]

theorem Matches.exists_accepts {pattern : Pattern} {word : List Char}
    (isMatch : pattern.Matches word) : ∀ c ∈ word, ∃ run ∈ pattern, run.accepts c = true := by
  induction isMatch with
  | nil => exact nofun
  | @cons run runs word rest front _ inductionHypothesis =>
      intro c member
      rcases List.mem_append.mp member with inFront | inRest
      · exact ⟨run, List.mem_cons_self, front.inside c inFront⟩
      · obtain ⟨other, inRuns, accepted⟩ := inductionHypothesis c inRest
        exact ⟨other, List.mem_cons_of_mem run inRuns, accepted⟩

theorem matches_append_iff {first second : Pattern} {word : List Char} :
    (first ++ second).Matches word ↔
      ∃ front back, word = front ++ back ∧ first.Matches front ∧ second.Matches back := by
  induction first generalizing word with
  | nil =>
      constructor
      · intro isMatch
        exact ⟨[], word, rfl, .nil, isMatch⟩
      · rintro ⟨front, back, rfl, ⟨⟩, isMatch⟩
        exact isMatch
  | cons run runs inductionHypothesis =>
      constructor
      · rintro (_ | ⟨isMatch, areMatches⟩)
        obtain ⟨front, back, rfl, isFront, isBack⟩ := inductionHypothesis.mp areMatches
        exact ⟨_ ++ front, back, by rw [List.append_assoc], .cons isMatch isFront, isBack⟩
      · rintro ⟨front, back, rfl, _ | ⟨isMatch, areMatches⟩, isBack⟩
        rw [List.append_assoc]
        exact .cons isMatch (inductionHypothesis.mpr ⟨_, back, rfl, areMatches, isBack⟩)

theorem matches_singleton_iff {run : Run} {word : List Char} :
    Matches [run] word ↔ run.Matches word := by
  constructor
  · rintro (_ | ⟨isMatch, ⟨⟩⟩)
    rwa [List.append_nil]
  · intro isMatch
    rw [← List.append_nil word]
    exact .cons isMatch .nil

/-- A pattern of characters that are given matches the text of them, in any case. -/
theorem matches_map_letter_iff {name word : List Char} :
    Matches (name.map letter) word ↔ word.map Text.fold = name.map Text.fold := by
  induction name generalizing word with
  | nil =>
      constructor
      · rintro ⟨⟩
        rfl
      · intro same
        rw [List.map_eq_nil_iff.mp same]
        exact .nil
  | cons wanted others inductionHypothesis =>
      constructor
      · rintro (_ | @⟨_, _, front, rest, isMatch, areMatches⟩)
        obtain ⟨c, rfl⟩ := List.length_eq_one_iff.mp
          (Nat.le_antisymm (isMatch.bounded 1 rfl) isMatch.enough)
        have same : Text.fold c = Text.fold wanted :=
          beq_iff_eq.mp (isMatch.inside c List.mem_cons_self)
        simp [same, inductionHypothesis.mp areMatches]
      · intro same
        obtain ⟨c, rest, rfl, first, further⟩ := List.map_eq_cons_iff.mp same
        have isMatch : (letter wanted).Matches [c] := by
          refine ⟨fun d member => ?_, Nat.le_refl 1, ?_⟩
          · rw [List.mem_singleton.mp member]
            exact beq_iff_eq.mpr first
          · rintro greatest ⟨⟩
            exact Nat.le_refl 1
        exact .cons isMatch (inductionHypothesis.mpr further)

theorem isSeparate_map_letter_append (name : List Char) {pattern : Pattern}
    (separate : pattern.IsSeparate) : IsSeparate (name.map letter ++ pattern) := by
  induction name with
  | nil => exact separate
  | cons wanted others inductionHypothesis =>
      apply List.IsChain.cons inductionHypothesis
      exact fun _ _ => Or.inl rfl

/-- No word of a text matches a pattern. -/
def IsAbsent (pattern : Pattern) (text : List Char) : Prop :=
  ∀ word, word <:+: text → ¬pattern.Matches word

theorem IsAbsent.of_infix {pattern : Pattern} {part text : List Char}
    (absent : pattern.IsAbsent text) (inside : part <:+: text) : pattern.IsAbsent part :=
  fun word stands => absent word (stands.trans inside)

/-- At the front of a text a pattern takes nothing, or no characters. -/
def TakesNothing (pattern : Pattern) (text : List Char) : Prop :=
  ∀ count after, pattern.takeFront? text = some (count, after) → count = 0

/-- Where a separate pattern takes nothing no word starts that matches it. -/
theorem TakesNothing.not_matches {pattern : Pattern} {text word : List Char}
    (nothing : pattern.TakesNothing text) (separate : pattern.IsSeparate)
    (nonempty : ¬pattern.Matches []) (front : word <+: text) : ¬pattern.Matches word := by
  intro isMatch
  obtain ⟨rest, rfl⟩ := front
  obtain ⟨count, after, longer, taken⟩ := isMatch.exists_takeFront? separate rest
  rw [nothing count after taken, Nat.le_zero, List.length_eq_zero_iff] at longer
  rw [longer] at isMatch
  exact nonempty isMatch

/-- A text and what it becomes when the matches of a pattern are replaced, from the left to the
right. -/
inductive Replaces (pattern : Pattern) (put : List Char) : List Char → List Char → Prop where
  | nil : Replaces pattern put [] []
  | keep {c : Char} {rest replaced : List Char} : pattern.TakesNothing (c :: rest) →
      Replaces pattern put rest replaced → Replaces pattern put (c :: rest) (c :: replaced)
  | put {word rest replaced : List Char} : pattern.Matches word →
      Replaces pattern put rest replaced → Replaces pattern put (word ++ rest) (put ++ replaced)

theorem replaces_replaceWithin (pattern : Pattern) (put : List Char) {fuel : Nat}
    {text : List Char} (enough : text.length ≤ fuel) :
    Replaces pattern put text (replaceWithin pattern put fuel text) := by
  induction fuel generalizing text with
  | zero =>
      rw [List.eq_nil_of_length_eq_zero (Nat.le_zero.mp enough)]
      exact .nil
  | succ fuel inductionHypothesis =>
      cases text with
      | nil => exact .nil
      | cons c rest =>
          rw [List.length_cons, Nat.add_le_add_iff_right] at enough
          rw [replaceWithin]
          split
          · next count after taken =>
              obtain ⟨word, shown, isLength, isMatch⟩ := matches_of_takeFront? taken
              have shorter : after.length ≤ fuel := by
                have lengths := congrArg List.length shown
                rw [List.length_cons, List.length_append] at lengths
                omega
              rw [shown]
              exact .put isMatch (inductionHypothesis shorter)
          · next nothing =>
              apply Replaces.keep _ (inductionHypothesis enough)
              intro count after taken
              cases count with
              | zero => rfl
              | succ count => exact absurd taken (nothing count after)

theorem replaces_replace (pattern : Pattern) (put : String) (text : List Char) :
    Replaces pattern put.toList text (pattern.replace put text) :=
  replaces_replaceWithin pattern put.toList (Nat.le_refl _)

theorem Replaces.eq_of_isAbsent {pattern : Pattern} {put text replaced : List Char}
    (replaces : Replaces pattern put text replaced) (absent : pattern.IsAbsent text) :
    replaced = text := by
  induction replaces with
  | nil => rfl
  | keep _ _ inductionHypothesis =>
      rw [inductionHypothesis (absent.of_infix (List.infix_cons (List.infix_refl _)))]
  | put isMatch _ _ => exact absurd isMatch (absent _ (List.prefix_append _ _).isInfix)

end Pattern

end Logging

end Automation
