import Automation.Condition.Safety

/-!
What the safety check of conditions refuses.

A keyword stands free in a text where neither of its neighbours could continue it. The search for
keywords finds one exactly where one of them stands free, so the check refuses a condition for a
keyword of its list, for a character that is not allowed, and for nothing else. The list without
keywords is the exception: it refuses the conditions in which any two neighbours stand free.
-/

namespace Automation.Condition

variable {keywords : List String} {words : List (List Char)} {word text rest : List Char}
  {before : Option Char} {c : Char}

/-- A word stands in a text, which comes after a character, with free places on both sides. -/
def StandsFree (before : Option Char) (word text : List Char) : Prop :=
  ∃ front rest, text = front ++ word ++ rest
    ∧ isFree (front.getLast?.or before) = true ∧ isFree rest.head? = true

theorem startsWithKeyword_iff :
    startsWithKeyword text word = true ↔
      ∃ rest, text = word ++ rest ∧ isFree rest.head? = true := by
  rw [startsWithKeyword, Bool.and_eq_true, List.isPrefixOf_iff_prefix]
  constructor
  · rintro ⟨⟨rest, rfl⟩, free⟩
    exact ⟨rest, rfl, by simpa using free⟩
  · rintro ⟨rest, rfl, free⟩
    exact ⟨List.prefix_append word rest, by simpa using free⟩

/-- A word stands at the front of a text, or further on. -/
theorem standsFree_nil_iff :
    StandsFree before word [] ↔ isFree before = true ∧ startsWithKeyword [] word = true := by
  rw [startsWithKeyword_iff]
  constructor
  · rintro ⟨front, rest, split, free, freeAfter⟩
    obtain ⟨rfl, rfl, rfl⟩ := by simpa using split
    exact ⟨free, [], rfl, freeAfter⟩
  · rintro ⟨free, rest, split, freeAfter⟩
    exact ⟨[], rest, split, free, freeAfter⟩

theorem standsFree_cons_iff :
    StandsFree before word (c :: rest) ↔
      (isFree before = true ∧ startsWithKeyword (c :: rest) word = true)
        ∨ StandsFree (some c) word rest := by
  have last (front : List Char) : (c :: front).getLast?.or before = front.getLast?.or (some c) := by
    cases front <;> simp [List.getLast?_cons]
  rw [startsWithKeyword_iff]
  constructor
  · rintro ⟨front, after, split, free, freeAfter⟩
    cases front with
    | nil => exact .inl ⟨free, after, split, freeAfter⟩
    | cons d front =>
        obtain ⟨rfl, rfl⟩ := List.cons.inj split
        exact .inr ⟨front, after, by simp, last front ▸ free, freeAfter⟩
  · rintro (⟨free, after, split, freeAfter⟩ | ⟨front, after, rfl, free, freeAfter⟩)
    · exact ⟨[], after, split, free, freeAfter⟩
    · exact ⟨c :: front, after, by simp, last front ▸ free, freeAfter⟩

/-- The search of the first place finds nothing. -/
theorem front_eq_none_iff :
    (if isFree before then words.find? (startsWithKeyword text) else none) = none ↔
      ∀ word ∈ words, ¬(isFree before = true ∧ startsWithKeyword text word = true) := by
  by_cases free : isFree before = true <;> simp [free, List.find?_eq_none]

theorem of_front_eq_some
    (found : (if isFree before then words.find? (startsWithKeyword text) else none) = some word) :
    word ∈ words ∧ isFree before = true ∧ startsWithKeyword text word = true := by
  split at found
  · next free => exact ⟨List.mem_of_find?_eq_some found, free, List.find?_some found⟩
  · cases found

theorem findKeyword_cons (words : List (List Char)) (before : Option Char) (c : Char)
    (rest : List Char) :
    findKeyword words before (c :: rest) =
      (if isFree before then words.find? (startsWithKeyword (c :: rest)) else none).or
        (findKeyword words (some c) rest) := by
  rw [findKeyword]
  split
  · next found => rw [found, Option.some_or]
  · next nothing => rw [nothing, Option.none_or]

theorem findKeyword_eq_none_iff :
    findKeyword words before text = none ↔ ∀ word ∈ words, ¬StandsFree before word text := by
  induction text generalizing before with
  | nil => simp only [findKeyword, front_eq_none_iff, standsFree_nil_iff]
  | cons c rest inductionHypothesis =>
      rw [findKeyword_cons, Option.or_eq_none_iff, front_eq_none_iff, inductionHypothesis]
      simp only [standsFree_cons_iff, not_or]
      exact ⟨fun ⟨here, further⟩ word member => ⟨here word member, further word member⟩,
        fun nowhere => ⟨fun word member => (nowhere word member).1,
          fun word member => (nowhere word member).2⟩⟩

/-- A text has no keyword if no keyword starts with a character of it. -/
theorem findKeyword_eq_none (starts : ∀ word ∈ words, ∃ c rest, word = c :: rest ∧ c ∉ text)
    (before : Option Char) : findKeyword words before text = none := by
  refine findKeyword_eq_none_iff.mpr fun word member => ?_
  rintro ⟨front, after, rfl, -⟩
  obtain ⟨c, rest, rfl, absent⟩ := starts word member
  exact absent (by simp)

/-- What is found is a keyword that stands free. -/
theorem standsFree_of_findKeyword (found : findKeyword words before text = some word) :
    word ∈ words ∧ StandsFree before word text := by
  induction text generalizing before with
  | nil =>
      obtain ⟨member, starts⟩ := of_front_eq_some found
      exact ⟨member, standsFree_nil_iff.mpr starts⟩
  | cons c rest inductionHypothesis =>
      rw [findKeyword_cons, Option.or_eq_some_iff] at found
      rcases found with found | ⟨-, found⟩
      · obtain ⟨member, starts⟩ := of_front_eq_some found
        exact ⟨member, standsFree_cons_iff.mpr (.inl starts)⟩
      · obtain ⟨member, further⟩ := inductionHypothesis found
        exact ⟨member, standsFree_cons_iff.mpr (.inr further)⟩

/-- A text holds a keyword of a list as a whole word, whatever the case of its letters. -/
def HoldsKeyword (keywords : List String) (text : List Char) : Prop :=
  ∃ keyword ∈ keywords, StandsFree none (Text.lower keyword.toList) (Text.lower text)

/-- A text is refused for a keyword. Where there are none, the empty text is looked for instead. -/
def IsForbidden (keywords : List String) (text : List Char) : Prop :=
  HoldsKeyword keywords text ∨ (keywords = [] ∧ StandsFree none [] (Text.lower text))

/-- A text is empty or holds a character that a condition may not hold. -/
def IsStray (text : List Char) : Prop := text = [] ∨ ∃ c ∈ text, isAllowed c = false

instance (text : List Char) : Decidable (IsStray text) :=
  inferInstanceAs (Decidable (text = [] ∨ ∃ c ∈ text, isAllowed c = false))

theorem findKeyword_keywordTexts_eq_none_iff :
    findKeyword (keywordTexts keywords) none (Text.lower text) = none ↔
      ¬IsForbidden keywords text := by
  rw [findKeyword_eq_none_iff, IsForbidden, HoldsKeyword, not_or, not_exists]
  cases keywords with
  | nil => simp [keywordTexts]
  | cons keyword rest =>
      simp only [keywordTexts, List.forall_mem_map, not_and, reduceCtorEq, false_implies, and_true]

theorem checkText_of_isForbidden (forbidden : IsForbidden keywords text) :
    ∃ word, checkText keywords text = .error (.keyword word) := by
  rw [checkText]
  cases found : findKeyword (keywordTexts keywords) none (Text.lower text) with
  | none => exact absurd forbidden (findKeyword_keywordTexts_eq_none_iff.mp found)
  | some word => exact ⟨word, rfl⟩

theorem checkText_of_not_isForbidden (permitted : ¬IsForbidden keywords text) :
    checkText keywords text =
      if IsStray text then .error .characters else .ok (Text.trim text) := by
  have acceptable : (text ≠ [] ∧ text.all isAllowed = true) ↔ ¬IsStray text := by
    simp [IsStray, List.all_eq_true]
  rw [checkText, findKeyword_keywordTexts_eq_none_iff.mpr permitted]
  simp only [acceptable, ite_not]

theorem standsFree_of_checkText (refused : checkText keywords text = .error (.keyword word)) :
    word ∈ keywordTexts keywords ∧ StandsFree none word (Text.lower text) := by
  rw [checkText] at refused
  split at refused
  · next found =>
      obtain rfl := by simpa using refused
      exact standsFree_of_findKeyword found
  · split at refused <;> cases refused

/-- The check refuses a condition for a keyword exactly where it is forbidden, else for its
characters exactly where they are stray, and else gives it trimmed. The keyword that it names is one
of those looked for, and stands free in the condition. -/
theorem check_decides (keywords : List String) (expression : String) :
    ((∃ word, check keywords (.text expression) = .error (.keyword word)) ↔
        IsForbidden keywords expression.toList)
      ∧ (∀ word, check keywords (.text expression) = .error (.keyword word) →
          word ∈ keywordTexts keywords ∧ StandsFree none word (Text.lower expression.toList))
      ∧ (check keywords (.text expression) = .error .characters ↔
          ¬IsForbidden keywords expression.toList ∧ IsStray expression.toList)
      ∧ (∀ checked, check keywords (.text expression) = .ok checked ↔
          ¬IsForbidden keywords expression.toList ∧ ¬IsStray expression.toList
            ∧ checked = Text.trim expression.toList) := by
  have isChecked : check keywords (.text expression) = checkText keywords expression.toList := rfl
  rw [isChecked]
  generalize expression.toList = text
  refine ⟨?_, fun word => standsFree_of_checkText, ?_⟩
  · constructor
    · rintro ⟨word, refused⟩
      refine Classical.byContradiction fun permitted => ?_
      rw [checkText_of_not_isForbidden permitted] at refused
      split at refused <;> cases refused
    · exact checkText_of_isForbidden
  · by_cases forbidden : IsForbidden keywords text
    · obtain ⟨word, refused⟩ := checkText_of_isForbidden forbidden
      simp [refused, forbidden]
    · by_cases stray : IsStray text
      · simp [checkText_of_not_isForbidden, forbidden, stray]
      · simp [checkText_of_not_isForbidden, forbidden, stray, eq_comm]

/-- Without keywords a condition is refused for one all the same, and an empty condition is not
refused for its characters. -/
theorem check_without_keywords :
    (check [] (.text "(a)") = .error (.keyword []) ∧ ¬HoldsKeyword [] "(a)".toList)
      ∧ (check [] (.text "") = .error (.keyword []) ∧ ¬HoldsKeyword [] "".toList) := by
  have nothing (text : List Char) : ¬HoldsKeyword [] text := by simp [HoldsKeyword]
  exact ⟨⟨rfl, nothing _⟩, ⟨rfl, nothing _⟩⟩

end Automation.Condition
