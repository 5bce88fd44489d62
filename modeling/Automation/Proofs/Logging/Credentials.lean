import Automation.Logging.Sanitizer
import Automation.Proofs.Logging.Matching

/-!
Sanitized messages show no credentials.

What stands in the place of a match ends with a remark in brackets, which no credential holds. What
comes before the remark is the name that the match starts with, or nothing. So a credential that
starts in front of a replacement and goes on into it would have started there before, and no
replacement brings a credential into a message: neither one of its own pattern nor one of a pattern
that was dealt with earlier.
-/

namespace Automation.Logging

/-- What may stand between a name and the remark behind it. -/
def marks : List Char := [' ', '=']

/-- Patterns whose matches are credentials by their shape. They ignore case and hold no brackets,
they are found wherever they are, and a match that ends with a mark would be one without it, unless
the mark follows a blank. -/
structure IsShape (pattern : Pattern) : Prop where
  separate : pattern.IsSeparate
  nonempty : ¬pattern.Matches []
  caseless : ∀ run ∈ pattern, ∀ c, run.accepts (Text.fold c) = run.accepts c
  unbracketed : ∀ run ∈ pattern, run.accepts '[' = false ∧ run.accepts ']' = false
  unmarked : ∀ {front : List Char} {c mark : Char}, Text.isBlank c = false → mark ∈ marks →
    pattern.Matches (front ++ [c, mark]) → pattern.Matches (front ++ [c])

namespace Pattern

theorem Matches.of_fold {pattern : Pattern} {word origin : List Char}
    (caseless : ∀ run ∈ pattern, ∀ c, run.accepts (Text.fold c) = run.accepts c)
    (isMatch : pattern.Matches word) (same : word.map Text.fold = origin.map Text.fold) :
    pattern.Matches origin := by
  induction isMatch generalizing origin with
  | nil =>
      rw [List.map_eq_nil_iff.mp same.symm]
      exact .nil
  | @cons run runs word rest front _ inductionHypothesis =>
      rw [List.map_append] at same
      obtain ⟨first, others, rfl, sameFirst, sameOthers⟩ := List.map_eq_append_iff.mp same.symm
      have sameLength : first.length = word.length := by
        simpa using congrArg List.length sameFirst
      have isMatch : run.Matches first := by
        refine ⟨fun d member => ?_, sameLength ▸ front.enough, sameLength ▸ front.bounded⟩
        have folded : Text.fold d ∈ word.map Text.fold := sameFirst ▸ List.mem_map_of_mem member
        obtain ⟨c, inWord, sameLetter⟩ := List.mem_map.mp folded
        have ignoresCase := caseless run List.mem_cons_self
        rw [← ignoresCase d, ← sameLetter, ignoresCase c]
        exact front.inside c inWord
      apply Matches.cons isMatch
      apply inductionHypothesis _ sameOthers.symm
      exact fun other member => caseless other (List.mem_cons_of_mem run member)

theorem caseless_word_append (name : String) {pattern : Pattern}
    (caseless : ∀ run ∈ pattern, ∀ c, run.accepts (Text.fold c) = run.accepts c) :
    ∀ run ∈ word name ++ pattern, ∀ c, run.accepts (Text.fold c) = run.accepts c := by
  intro run member c
  rcases List.mem_append.mp member with inName | inPattern
  · obtain ⟨wanted, -, rfl⟩ := List.mem_map.mp inName
    exact congrArg (· == Text.fold wanted) (Text.fold_fold c)
  · exact caseless run inPattern c

theorem not_matches_nil {runs : Pattern} {last : Run} (positive : 0 < last.least) :
    ¬Matches (runs ++ [last]) [] := by
  intro isMatch
  obtain ⟨front, back, empty, -, isLast⟩ := matches_append_iff.mp isMatch
  rw [matches_singleton_iff, (List.append_eq_nil_iff.mp empty.symm).2] at isLast
  exact absurd isLast.enough (Nat.not_le.mpr positive)

theorem accepts_of_matches_concat {runs : Pattern} {last : Run} {front : List Char} {c : Char}
    (isMatch : Matches (runs ++ [last]) (front ++ [c])) (positive : 0 < last.least) :
    last.accepts c = true := by
  obtain ⟨first, back, shown, -, isLast⟩ := matches_append_iff.mp isMatch
  rw [matches_singleton_iff] at isLast
  have notEmpty := List.ne_nil_of_length_pos (Nat.lt_of_lt_of_le positive isLast.enough)
  obtain ⟨others, d, rfl⟩ := (List.eq_nil_or_concat' back).resolve_left notEmpty
  rw [← List.append_assoc] at shown
  obtain ⟨-, ⟨⟩⟩ := List.append_inj' shown rfl
  apply isLast.inside
  simp

end Pattern

/-- What stands in the place of a match: the name that the match starts with, perhaps a mark, and a
remark in brackets. -/
structure Mask where
  name : List Char
  mark : Option Char
  remark : List Char

def Mask.text (mask : Mask) : List Char :=
  mask.name ++ mask.mark.toList ++ '[' :: mask.remark ++ [']']

/-- A mask that hides the matches of a pattern shows no more of them than their name. -/
structure Mask.Hides (mask : Mask) (pattern : Pattern) : Prop where
  opens : ∃ further, pattern = mask.name.map Pattern.letter ++ further
  marked : ∀ mark ∈ mask.mark, mark ∈ marks ∧ ∃ c ∈ mask.name.getLast?, Text.isBlank c = false

/-- A word that was another one before a match was replaced: the same but for case, or the same with
a mark behind it. -/
inductive Recalls : List Char → List Char → Prop where
  | same {word origin : List Char} :
      word.map Text.fold = origin.map Text.fold → Recalls word origin
  | marked {front origin : List Char} {c mark : Char} : Text.isBlank c = false → mark ∈ marks →
      (front ++ [c]).map Text.fold = origin.map Text.fold → Recalls (front ++ [c, mark]) origin

theorem Recalls.cons {word origin : List Char} (recalls : Recalls word origin) (c : Char) :
    Recalls (c :: word) (c :: origin) := by
  cases recalls with
  | same alike => exact .same (by rw [List.map_cons, List.map_cons, alike])
  | @marked front _ d mark visible isMark alike =>
      have longer : (c :: front ++ [d]).map Text.fold = (c :: origin).map Text.fold := by
        rw [List.cons_append, List.map_cons, List.map_cons, alike]
      exact .marked visible isMark longer

theorem IsShape.matches_of_recalls {shape : Pattern} (isShape : IsShape shape)
    {word origin : List Char} (isMatch : shape.Matches word) (recalls : Recalls word origin) :
    shape.Matches origin := by
  cases recalls with
  | same alike => exact isMatch.of_fold isShape.caseless alike
  | marked visible isMark alike =>
      exact (isShape.unmarked visible isMark isMatch).of_fold isShape.caseless alike

theorem IsShape.not_mem_of_matches {shape : Pattern} (isShape : IsShape shape) {word : List Char}
    (isMatch : shape.Matches word) : '[' ∉ word ∧ ']' ∉ word := by
  constructor
  · intro member
    obtain ⟨run, inShape, accepted⟩ := isMatch.exists_accepts '[' member
    rw [(isShape.unbracketed run inShape).1] at accepted
    cases accepted
  · intro member
    obtain ⟨run, inShape, accepted⟩ := isMatch.exists_accepts ']' member
    rw [(isShape.unbracketed run inShape).2] at accepted
    cases accepted

theorem prefix_of_not_mem {α : Type} {word front rest : List α} {stop : α}
    (stands : word <+: front ++ stop :: rest) (without : stop ∉ word) : word <+: front := by
  induction word generalizing front with
  | nil => exact List.nil_prefix
  | cons c others inductionHypothesis =>
      rw [List.mem_cons, not_or] at without
      cases front with
      | nil => exact absurd (List.cons_prefix_cons.mp stands).1.symm without.1
      | cons d tail =>
          obtain ⟨rfl, further⟩ := List.cons_prefix_cons.mp stands
          exact List.cons_prefix_cons.mpr ⟨rfl, inductionHypothesis further without.2⟩

theorem infix_append_cases {α : Type} {word front rest : List α}
    (stands : word <:+: front ++ rest) : word <:+: rest ∨
      ∃ inner, inner ≠ [] ∧ inner <:+ front ∧ word <+: inner ++ rest := by
  induction front with
  | nil => exact Or.inl stands
  | cons c others inductionHypothesis =>
      rcases List.infix_cons_iff.mp stands with starts | further
      · exact Or.inr ⟨c :: others, List.cons_ne_nil c others, List.suffix_refl _, starts⟩
      · rcases inductionHypothesis further with behind | ⟨inner, notEmpty, isSuffix, starts⟩
        · exact Or.inl behind
        · exact Or.inr ⟨inner, notEmpty, isSuffix.trans (List.suffix_cons c others), starts⟩

namespace Mask

variable {mask : Mask} {pattern : Pattern}

/-- What a mask shows in front of its remark stands at the front of the match, up to case. -/
theorem Hides.exists_recalls (hides : mask.Hides pattern) {found word : List Char}
    (isMatch : pattern.Matches found) (front : word <+: mask.name ++ mask.mark.toList) :
    ∃ origin, origin <+: found ∧ Recalls word origin := by
  obtain ⟨further, rfl⟩ := hides.opens
  obtain ⟨first, back, rfl, isName, -⟩ := Pattern.matches_append_iff.mp isMatch
  have alike := Pattern.matches_map_letter_iff.mp isName
  have inName (inside : word <+: mask.name) :
      ∃ origin, origin <+: first ++ back ∧ Recalls word origin := by
    obtain ⟨others, shown⟩ := inside
    rw [← shown, List.map_append] at alike
    obtain ⟨origin, last, rfl, same, -⟩ := List.map_eq_append_iff.mp alike
    refine ⟨origin, ?_, .same same.symm⟩
    rw [List.append_assoc]
    exact List.prefix_append origin _
  cases isMark : mask.mark with
  | none =>
      rw [isMark, Option.toList_none, List.append_nil] at front
      exact inName front
  | some mark =>
      rw [isMark, Option.toList_some] at front
      rcases List.prefix_concat_iff.mp front with rfl | inside
      · obtain ⟨inMarks, c, isLast, visible⟩ := hides.marked mark isMark
        obtain ⟨others, isConcat⟩ := List.getLast?_eq_some_iff.mp isLast
        -- The mark is all that was put behind the name.
        refine ⟨first, List.prefix_append first back, ?_⟩
        rw [isConcat, List.append_assoc]
        apply Recalls.marked visible inMarks
        rw [← isConcat, alike]
      · exact inName inside

/-- What starts in front of a replacement and holds no bracket was there before. -/
theorem Hides.exists_recalls_of_replaces (hides : mask.Hides pattern)
    {text replaced word : List Char} (replaces : pattern.Replaces mask.text text replaced)
    (front : word <+: replaced) (plain : '[' ∉ word) :
    ∃ origin, origin <+: text ∧ Recalls word origin := by
  induction replaces generalizing word with
  | nil => exact ⟨[], List.nil_prefix, .same (by rw [List.prefix_nil.mp front])⟩
  | @keep c rest replaced _ _ inductionHypothesis =>
      rcases List.prefix_cons_iff.mp front with rfl | ⟨others, rfl, further⟩
      · exact ⟨[], List.nil_prefix, .same rfl⟩
      · rw [List.mem_cons, not_or] at plain
        obtain ⟨origin, isPrefix, recalls⟩ := inductionHypothesis further plain.2
        exact ⟨c :: origin, List.cons_prefix_cons.mpr ⟨rfl, isPrefix⟩, recalls.cons c⟩
  | @put found rest replaced isMatch _ _ =>
      have shown : mask.text ++ replaced = mask.name ++ mask.mark.toList ++
          '[' :: (mask.remark ++ [']'] ++ replaced) := by simp [Mask.text]
      rw [shown] at front
      obtain ⟨origin, isPrefix, recalls⟩ :=
        hides.exists_recalls isMatch (prefix_of_not_mem front plain)
      exact ⟨origin, isPrefix.trans (List.prefix_append found rest), recalls⟩

/-- Replacing the matches of a pattern brings no credential into a text, and it leaves none that
would have started where the pattern took nothing. -/
theorem Hides.isAbsent_of_replaces (hides : mask.Hides pattern) {shape : Pattern}
    (isShape : IsShape shape) (unshown : shape.IsAbsent mask.text) {text replaced : List Char}
    (replaces : pattern.Replaces mask.text text replaced)
    (kept : ∀ rest, rest <:+ text → pattern.TakesNothing rest →
      ∀ word, word <+: rest → ¬shape.Matches word) : shape.IsAbsent replaced := by
  induction replaces with
  | nil =>
      intro word stands
      rw [List.infix_nil.mp stands]
      exact isShape.nonempty
  | @keep c rest replaced nothing replaces inductionHypothesis =>
      intro word stands isMatch
      rcases List.infix_cons_iff.mp stands with starts | further
      · have plain := (isShape.not_mem_of_matches isMatch).1
        obtain ⟨origin, isPrefix, recalls⟩ :=
          hides.exists_recalls_of_replaces (.keep nothing replaces) starts plain
        exact kept (c :: rest) (List.suffix_refl _) nothing origin isPrefix
          (isShape.matches_of_recalls isMatch recalls)
      · apply inductionHypothesis _ word further isMatch
        intro other isSuffix
        exact kept other (isSuffix.trans (List.suffix_cons c rest))
  | @put found rest replaced _ _ inductionHypothesis =>
      intro word stands isMatch
      rcases infix_append_cases stands with further | ⟨inner, notEmpty, isSuffix, starts⟩
      · apply inductionHypothesis _ word further isMatch
        intro other inRest
        exact kept other (inRest.trans (List.suffix_append found rest))
      · -- Whatever starts in the mask ends in it, for the mask ends with a bracket.
        have plain := (isShape.not_mem_of_matches isMatch).2
        rw [Mask.text] at isSuffix
        obtain ⟨others, rfl, inMask⟩ := (List.suffix_concat_iff.mp isSuffix).resolve_left notEmpty
        rw [List.append_assoc] at starts
        apply unshown word _ isMatch
        apply (prefix_of_not_mem starts plain).isInfix.trans
        exact inMask.isInfix.trans (List.prefix_append _ [']']).isInfix

end Mask

/-- After all the patterns of a list, a credential that was absent before is still so, and one of a
pattern of the list is absent too. -/
theorem isAbsent_replaceAll {shape : Pattern} (isShape : IsShape shape)
    {patterns : List (Pattern × String)}
    (hidden : ∀ entry ∈ patterns, ∃ mask : Mask, entry.2.toList = mask.text ∧
      mask.Hides entry.1 ∧ shape.IsAbsent mask.text) (message : List Char)
    (dealt : shape.IsAbsent message ∨ ∃ put, (shape, put) ∈ patterns) :
    shape.IsAbsent (replaceAll patterns message) := by
  induction patterns generalizing message with
  | nil =>
      rcases dealt with absent | ⟨put, ⟨⟩⟩
      exact absent
  | cons entry others inductionHypothesis =>
      obtain ⟨pattern, put⟩ := entry
      rw [List.forall_mem_cons] at hidden
      obtain ⟨⟨mask, isText, hides, unshown⟩, hiddenOthers⟩ := hidden
      have replaces := pattern.replaces_replace put message
      rw [isText] at replaces
      apply inductionHypothesis hiddenOthers _
      rcases dealt with absent | ⟨other, member⟩
      · -- A credential that starts in a part that is kept was there before.
        left
        apply hides.isAbsent_of_replaces isShape unshown replaces
        intro rest isSuffix _ word isPrefix
        exact absent word (isPrefix.isInfix.trans isSuffix.isInfix)
      · rcases List.mem_cons.mp member with same | inOthers
        · -- Where the pattern itself takes nothing no credential of its shape starts.
          left
          obtain rfl : shape = pattern := congrArg Prod.fst same
          apply hides.isAbsent_of_replaces isShape unshown replaces
          intro rest _ nothing word isPrefix
          exact nothing.not_matches isShape.separate isShape.nonempty isPrefix
        · exact Or.inr ⟨other, inOthers⟩

/-- The patterns of credentials that are known by their shape: the keys of services and what a
bearer shows. -/
def credentialShapes : List Pattern := (credentialPatterns.take 5).map Prod.fst

section Classes

theorem isKeyCharacter_fold (c : Char) : isKeyCharacter (Text.fold c) = isKeyCharacter c := by
  simp only [isKeyCharacter, Text.fold_fold]

theorem isKeyAlphanumeric_fold (c : Char) :
    isKeyAlphanumeric (Text.fold c) = isKeyAlphanumeric c := by
  simp only [isKeyAlphanumeric, Text.fold_fold]

theorem isKeyPart_fold (c : Char) : isKeyPart (Text.fold c) = isKeyPart c :=
  Text.apply_fold (by decide +kernel) (by decide +kernel) c

theorem isTokenCharacter_fold (c : Char) : isTokenCharacter (Text.fold c) = isTokenCharacter c :=
  Text.apply_fold (by decide +kernel) (by decide +kernel) c

theorem isBlank_fold (c : Char) : Text.isBlank (Text.fold c) = Text.isBlank c :=
  Text.apply_fold (by decide +kernel) (by decide +kernel) c

theorem isBlank_of_isTokenCharacter {c : Char} (token : isTokenCharacter c = true) :
    Text.isBlank c = false := by
  cases blank : Text.isBlank c with
  | false => rfl
  | true =>
      by_cases ascii : c.toNat < 128
      · have all := Text.ascii_induction (p := fun c => !Text.isBlank c || !isTokenCharacter c)
          (by decide +kernel) ascii
        simp [blank, token] at all
      · have noToken : isTokenCharacter c = false :=
          Text.isMember_wideBlank (by decide +kernel) blank ascii
        rw [token] at noToken
        cases noToken

end Classes

namespace IsShape

theorem of_last (name : String) (runs : Pattern) (last : Run)
    (separate : Pattern.IsSeparate (runs ++ [last])) (positive : 0 < last.least)
    (caseless : ∀ run ∈ runs ++ [last], ∀ c, run.accepts (Text.fold c) = run.accepts c)
    (unbracketed : ∀ run ∈ Pattern.word name ++ (runs ++ [last]),
      run.accepts '[' = false ∧ run.accepts ']' = false)
    (unmarked : marks.any last.accepts = false) :
    IsShape (Pattern.word name ++ (runs ++ [last])) where
  separate := Pattern.isSeparate_map_letter_append name.toList separate
  nonempty := by
    rw [← List.append_assoc]
    exact Pattern.not_matches_nil positive
  caseless := Pattern.caseless_word_append name caseless
  unbracketed := unbracketed
  unmarked := by
    intro front c mark _ isMark isMatch
    rw [← List.append_assoc, show front ++ [c, mark] = front ++ [c] ++ [mark] by simp] at isMatch
    have accepted := Pattern.accepts_of_matches_concat isMatch positive
    have marked := List.any_eq_true.mpr ⟨mark, isMark, accepted⟩
    rw [unmarked] at marked
    cases marked

theorem of_key (name : String) {last : Run} (positive : 0 < last.least)
    (caseless : ∀ c, last.accepts (Text.fold c) = last.accepts c)
    (unbracketed : ∀ run ∈ Pattern.word name ++ [last],
      run.accepts '[' = false ∧ run.accepts ']' = false)
    (unmarked : marks.any last.accepts = false) :
    IsShape (Pattern.word name ++ [last]) := by
  apply of_last name [] last (List.isChain_singleton last) positive _ unbracketed unmarked
  simpa using caseless

theorem slackToken : IsShape (Pattern.word "xox" ++
    ([.one fun c => ['a', 'b', 'p', 'r'].contains (Text.fold c), Pattern.letter '-'] ++
      [.atLeast 10 isKeyPart])) := by
  apply of_last
  · exact .cons_cons (Or.inl rfl) (.cons_cons (Or.inl rfl) (.singleton _))
  · decide
  · simp [Run.one, Run.atLeast, Pattern.letter, isKeyPart_fold, Text.fold_fold]
  · decide
  · decide

/-- What a bearer shows stands behind blanks, so an equals sign may be all of it. -/
theorem bearer : IsShape (Pattern.word "Bearer" ++
    [.atLeast 1 Text.isBlank, .atLeast 1 isTokenCharacter]) where
  separate := by
    apply Pattern.isSeparate_map_letter_append
    apply List.IsChain.cons_cons _ (List.isChain_singleton _)
    exact Or.inr ⟨Nat.one_pos, fun _ => isBlank_of_isTokenCharacter⟩
  nonempty := by
    rw [List.append_cons]
    exact Pattern.not_matches_nil Nat.one_pos
  caseless := by
    apply Pattern.caseless_word_append
    simp [Run.atLeast, isBlank_fold, isTokenCharacter_fold]
  unbracketed := by decide
  unmarked := by
    intro front c mark visible _ isMatch
    rw [List.append_cons, Pattern.matches_append_iff] at isMatch ⊢
    obtain ⟨named, shown, isText, isNamed, isShown⟩ := isMatch
    rw [Pattern.matches_singleton_iff] at isShown
    have notEmpty : shown ≠ [] := List.ne_nil_of_length_pos isShown.enough
    obtain ⟨others, d, rfl⟩ := (List.eq_nil_or_concat' shown).resolve_left notEmpty
    rw [← List.append_assoc, List.append_cons front c [mark]] at isText
    obtain ⟨isText, -⟩ := List.append_inj' isText rfl
    cases others with
    | nil =>
        rw [List.append_nil] at isText
        rw [← isText] at isNamed
        have blank : Text.isBlank c = true :=
          Pattern.accepts_of_matches_concat isNamed Nat.one_pos
        rw [visible] at blank
        cases blank
    | cons e others =>
        refine ⟨named, e :: others, isText, isNamed, Pattern.matches_singleton_iff.mpr ?_⟩
        refine ⟨fun other member => ?_, Nat.succ_pos _, nofun⟩
        exact isShown.inside other (List.mem_append_left [d] member)

theorem of_mem : ∀ shape ∈ credentialShapes, IsShape shape := by
  have keys := isKeyCharacter_fold
  simp only [credentialShapes, credentialPatterns, List.take_succ_cons, List.take_zero,
    List.map_cons, List.map_nil, List.forall_mem_cons]
  refine ⟨?_, ?_, ?_, slackToken, bearer, nofun⟩
  · exact of_key "sk-ant-" (by decide) keys (by decide) (by decide)
  · exact of_key "sk-" (by decide) keys (by decide) (by decide)
  · exact of_key "ghp_" (by decide) isKeyAlphanumeric_fold (by decide) (by decide)

end IsShape

def credentialMasks : List Mask :=
  [⟨[], none, "REDACTED_API_KEY".toList⟩, ⟨[], none, "REDACTED_GITHUB_TOKEN".toList⟩,
    ⟨[], none, "REDACTED_SLACK_TOKEN".toList⟩, ⟨"Bearer".toList, some ' ', "REDACTED".toList⟩,
    ⟨"password".toList, some '=', "REDACTED".toList⟩, ⟨"token".toList, some '=', "REDACTED".toList⟩]

theorem exists_mask : ∀ entry ∈ credentialPatterns, ∃ mask ∈ credentialMasks,
    entry.2.toList = mask.text ∧ mask.Hides entry.1 := by
  have bare (remark : List Char) (pattern : Pattern) : Mask.Hides ⟨[], none, remark⟩ pattern :=
    ⟨⟨pattern, rfl⟩, nofun⟩
  have named {name : String} {mark : Char} (isMark : mark ∈ marks)
      (visible : name.toList.getLast?.any (!Text.isBlank ·) = true) (further : Pattern) :
      Mask.Hides ⟨name.toList, some mark, "REDACTED".toList⟩ (Pattern.word name ++ further) := by
    refine ⟨⟨further, rfl⟩, ?_⟩
    rintro _ ⟨⟩
    obtain ⟨c, isLast, visible⟩ := (Option.any_eq_true _ _).mp visible
    exact ⟨isMark, c, isLast, by simpa using visible⟩
  have inMasks (place : Fin 6) : credentialMasks[place] ∈ credentialMasks :=
    List.getElem_mem _
  simp only [credentialPatterns, List.forall_mem_cons]
  refine ⟨⟨_, inMasks 0, rfl, bare _ _⟩, ⟨_, inMasks 0, rfl, bare _ _⟩,
    ⟨_, inMasks 1, rfl, bare _ _⟩, ⟨_, inMasks 2, rfl, bare _ _⟩,
    ⟨_, inMasks 3, rfl, named (by decide) (by decide) _⟩,
    ⟨_, inMasks 4, rfl, named (by decide) (by decide) _⟩,
    ⟨_, inMasks 5, rfl, named (by decide) (by decide) _⟩, nofun⟩

theorem isAbsent_credentialMasks : ∀ shape ∈ credentialShapes, ∀ mask ∈ credentialMasks,
    shape.IsAbsent mask.text := by
  have nothing : ∀ shape ∈ credentialShapes, ∀ mask ∈ credentialMasks,
      ∀ rest ∈ mask.text.tails, (shape.takeFront? rest).isNone = true := by decide +kernel
  intro shape inShapes mask inMasks word stands isMatch
  obtain ⟨before, after, shown⟩ := stands
  have inTails : word ++ after ∈ mask.text.tails := by
    rw [List.mem_tails, ← shown, List.append_assoc]
    exact List.suffix_append before _
  obtain ⟨count, last, -, taken⟩ :=
    isMatch.exists_takeFront? (IsShape.of_mem shape inShapes).separate after
  have none := nothing shape inShapes mask inMasks _ inTails
  rw [taken] at none
  cases none

/-- A text in which a word matches one of some patterns. -/
def Shows (patterns : List Pattern) (text : List Char) : Prop :=
  ∃ pattern ∈ patterns, ∃ word, word <:+: text ∧ pattern.Matches word

theorem toList_sanitizeText (message : String) :
    (sanitizeText message).toList = replaceAll credentialPatterns message.toList := by
  simp [sanitizeText, sanitize]

theorem replaceAll_eq_self {patterns : List (Pattern × String)} {message : List Char}
    (absent : ∀ entry ∈ patterns, entry.1.IsAbsent message) :
    replaceAll patterns message = message := by
  induction patterns with
  | nil => rfl
  | cons entry others inductionHypothesis =>
      rw [List.forall_mem_cons] at absent
      have same : entry.1.replace entry.2 message = message :=
        (entry.1.replaces_replace entry.2 message).eq_of_isAbsent absent.1
      rw [replaceAll, List.foldl_cons, same]
      exact inductionHypothesis absent.2

/-- A sanitized message shows no credential, and no message is changed unless it shows a match. -/
theorem sanitizeText_shows_no_credential (message : String) :
    ¬Shows credentialShapes (sanitizeText message).toList ∧
      (sanitizeText message = message ∨
        Shows (credentialPatterns.map Prod.fst) message.toList) := by
  constructor
  · rintro ⟨shape, inShapes, word, stands, isMatch⟩
    have hidden : ∀ entry ∈ credentialPatterns, ∃ mask : Mask, entry.2.toList = mask.text ∧
        mask.Hides entry.1 ∧ shape.IsAbsent mask.text := by
      intro entry member
      obtain ⟨mask, inMasks, isText, hides⟩ := exists_mask entry member
      exact ⟨mask, isText, hides, isAbsent_credentialMasks shape inShapes mask inMasks⟩
    obtain ⟨⟨_, put⟩, inPatterns, rfl⟩ := List.mem_map.mp inShapes
    have dealt : ∃ put, (_, put) ∈ credentialPatterns := ⟨put, List.mem_of_mem_take inPatterns⟩
    have absent := isAbsent_replaceAll (IsShape.of_mem _ inShapes) hidden message.toList
      (Or.inr dealt)
    rw [toList_sanitizeText] at stands
    exact absent word stands isMatch
  · by_cases shows : Shows (credentialPatterns.map Prod.fst) message.toList
    · exact Or.inr shows
    · left
      apply String.toList_injective
      rw [toList_sanitizeText]
      apply replaceAll_eq_self
      intro entry member word stands isMatch
      exact shows ⟨entry.1, List.mem_map_of_mem member, word, stands, isMatch⟩

/-- What is left of a token stays, and a secret goes with the quotes around it. -/
example : sanitizeText "XOXB-0123456789_ Bearer  a/b= password: \"x" =
    "[REDACTED_SLACK_TOKEN]_ Bearer [REDACTED] password=[REDACTED]" := by
  decide +kernel

end Automation.Logging
