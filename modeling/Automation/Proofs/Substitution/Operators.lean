import Automation.Condition.Evaluator
import Automation.Proofs.Condition.Keywords
import Automation.Proofs.Substitution.Simulation

/-!
Variables bring no operators into a condition.

A literal brings none, whatever its value. But a name may hold an operator that goes with it, a name
may open or close brackets, and brackets behind a name are parts of a word until the name gives way
to a text or a list. `isTame` excludes these in the places where a variable stands, and positions
that are not read. Then a condition keeps its operators and parentheses.
-/

namespace Automation.Condition

/-- Whether variables bring no operators into a condition: it can be taken apart, and it admits the
values that are put in. -/
def isTame (scope : Fields) (text : List Char) : Bool :=
  match cut scope text with
  | .ok pieces => admits .outside pieces
  | .error _ => false

/-- The operators and parentheses among tokens. -/
def marks (tokens : List Token) : List Lexeme :=
  (tokens.map Token.lexeme).filter (!·.isValue)

theorem marks?_eq_marks {text : List Char} {tokens : List Token}
    (tokenizes : tokenize text = .ok tokens) : marks? text = some (marks tokens) := by
  simp [marks?, lexemes?, tokenizes, marks]

theorem marks?_eq_none_iff {text : List Char} :
    marks? text = none ↔ ∃ refusal, tokenize text = .error refusal := by
  rw [marks?, Option.map_eq_none_iff, lexemes?_eq_none_iff]

/-- The variables can be put into a condition, which has tokens exactly where it had them before,
and the same operators and parentheses among them. -/
def KeepsMarks (scope : Fields) (text : List Char) : Prop :=
  ∃ filled, substitute scope text = .ok filled ∧
    ((∃ refusal, tokenize filled = .error refusal) ↔
      ∃ refusal, tokenize text = .error refusal) ∧
    ∀ tokens filledTokens, tokenize text = .ok tokens → tokenize filled = .ok filledTokens →
      marks filledTokens = marks tokens

theorem keepsMarks_iff {scope : Fields} {text : List Char} : KeepsMarks scope text ↔
    ∃ filled, substitute scope text = .ok filled ∧ marks? filled = marks? text := by
  constructor
  · rintro ⟨filled, isFilled, fails, keeps⟩
    refine ⟨filled, isFilled, ?_⟩
    rw [← marks?_eq_none_iff, ← marks?_eq_none_iff] at fails
    cases tokenizes : tokenize text with
    | error refusal =>
        have none := marks?_eq_none_iff.mpr ⟨refusal, tokenizes⟩
        rw [none, fails.mpr none]
    | ok tokens =>
        cases filledTokenizes : tokenize filled with
        | error refusal =>
            have none := marks?_eq_none_iff.mpr ⟨refusal, filledTokenizes⟩
            rw [none, fails.mp none]
        | ok filledTokens =>
            rw [marks?_eq_marks tokenizes, marks?_eq_marks filledTokenizes,
              keeps tokens filledTokens tokenizes filledTokenizes]
  · rintro ⟨filled, isFilled, same⟩
    refine ⟨filled, isFilled, ?_, ?_⟩
    · rw [← marks?_eq_none_iff, ← marks?_eq_none_iff, same]
    · intro tokens filledTokens tokenizes filledTokenizes
      rw [marks?_eq_marks tokenizes, marks?_eq_marks filledTokenizes, Option.some.injEq] at same
      exact same

/-- Variables bring no operators into a condition that they are tame in. -/
theorem substitute_keeps_marks {scope : Fields} {expression : String}
    (closed : quotesClosed expression.toList = true)
    (renderable : ∀ entry ∈ scope, Json.checkWritable entry.2 = .ok ())
    (tame : isTame scope expression.toList = true) : KeepsMarks scope expression.toList := by
  have isClosed := quotesClosed_iff.mp closed
  rw [isTame] at tame
  split at tame
  · rename_i pieces isCut
    refine keepsMarks_iff.mpr ⟨target pieces, ?_, ?_⟩
    · rw [substitute_eq_cut renderable, isCut, map_ok]
    · rw [← marks?_eq (areCut_of_cut isClosed isCut) tame, source_of_cut isClosed isCut]
  · cases tame

/-- A text that looks like operators brings none of them in. -/
theorem substitute_keeps_marks_of_quoted_operators :
    KeepsMarks [("&&", .int 1), ("a", .text "x' && (\""), ("b", .list [.text "||", .null])]
      "a == 'x' && (b) || a[b]".toList := by
  have names : namesLongestFirst
      [("&&", .int 1), ("a", .text "x' && (\""), ("b", .list [.text "||", .null])] =
      [("&&".toList, .int 1), ("a".toList, .text "x' && (\""),
        ("b".toList, .list [.text "||", .null])] :=
    List.mergeSort_of_pairwise (by decide)
  apply substitute_keeps_marks (by decide)
  · simp only [List.forall_mem_cons]
    exact ⟨rfl, rfl, rfl, List.forall_mem_nil _⟩
  · rw [isTame, cut, names]
    decide +kernel

/-- What is promised of a condition and its variables: the check accepts the condition, its quotes
are closed, and every value has a text. -/
def Promised (scope : Fields) (expression : String) : Prop :=
  (check forbiddenKeywords (.text expression)).isOk = true ∧
    quotesClosed expression.toList = true ∧
    ∀ entry ∈ scope, Json.checkWritable entry.2 = .ok ()

theorem changes_marks {scope : Fields} {expression : String} (filled : List Char)
    (accepted : (check forbiddenKeywords (.text expression)).isOk = true)
    (closed : quotesClosed expression.toList = true)
    (values : ∀ entry ∈ scope, Json.checkWritable entry.2 = .ok ())
    (isFilled : substitute scope expression.toList = .ok filled)
    (different : marks? filled ≠ marks? expression.toList) :
    Promised scope expression ∧ ¬KeepsMarks scope expression.toList := by
  refine ⟨⟨accepted, closed, values⟩, ?_⟩
  rw [keepsMarks_iff]
  rintro ⟨other, isOther, same⟩
  rw [isFilled, Except.ok.injEq] at isOther
  exact different (isOther ▸ same)

theorem lowerAfter_eq_self {text : List Char}
    (lower : ∀ c ∈ text, c ≠ 'Σ' ∧ Text.lowerChar c = [c]) (before : List Char) :
    Text.lowerAfter before text = text := by
  induction text generalizing before with
  | nil => rfl
  | cons c rest inductionHypothesis =>
      obtain ⟨notSigma, isLower⟩ := lower c List.mem_cons_self
      have further := inductionHypothesis
        (fun other member => lower other (List.mem_cons_of_mem c member)) (c :: before)
      simp [Text.lowerAfter, notSigma, isLower, further]

/-- A name with a path that names a position in so many digits. -/
def positionPath (count : Nat) : List Char := 'a' :: '.' :: List.replicate count '1'

theorem positionPath_cases {count : Nat} {c : Char} (member : c ∈ positionPath count) :
    c = 'a' ∨ c = '.' ∨ c = '1' := by
  rcases List.mem_cons.mp member with first | inRest
  · exact Or.inl first
  · rcases List.mem_cons.mp inRest with point | inDigits
    · exact Or.inr (Or.inl point)
    · exact Or.inr (Or.inr (List.eq_of_mem_replicate inDigits))

theorem isQuote_of_mem_positionPath {count : Nat} :
    ∀ c ∈ positionPath count, isQuote c = false := by
  intro c member
  rcases positionPath_cases member with rfl | rfl | rfl <;> rfl

theorem promised_positionPath (count : Nat) :
    Promised [("a", .list [])] (String.ofList (positionPath count)) := by
  have lower : Text.lower (positionPath count) = positionPath count :=
    lowerAfter_eq_self (fun c member => by
      rcases positionPath_cases member with rfl | rfl | rfl <;> decide) []
  have noKeyword : findKeyword (keywordTexts forbiddenKeywords) none (positionPath count) =
      none := by
    refine findKeyword_eq_none (fun keyword member => ?_) none
    have all : (keywordTexts forbiddenKeywords).all (·.head?.any
        fun c => c != 'a' && c != '.' && c != '1') = true := by decide +kernel
    have starts := List.all_eq_true.mp all keyword member
    cases keyword with
    | nil => cases starts
    | cons c rest =>
        refine ⟨c, rest, rfl, fun inPath => ?_⟩
        rcases positionPath_cases inPath with rfl | rfl | rfl <;> cases starts
  have allowed : (positionPath count).all isAllowed = true := by
    apply List.all_eq_true.mpr
    intro c member
    rcases positionPath_cases member with rfl | rfl | rfl <;> decide
  have valid : positionPath count ≠ [] ∧ (positionPath count).all isAllowed = true :=
    ⟨by simp [positionPath], allowed⟩
  refine ⟨?_, ?_, List.forall_mem_singleton.mpr rfl⟩
  · simp only [check, checkText, String.toList_ofList, lower, noKeyword, if_pos valid]
    rfl
  · rw [String.toList_ofList]
    exact quotesClosed_iff.mpr (Closed.of_plain isQuote_of_mem_positionPath)

/-- A position in too many digits is a failure where a list is asked for it. -/
theorem substitute_positionPath {count : Nat} (long : digitLimit < count) :
    substitute [("a", .list [])] (positionPath count) = .error (.tooManyDigits count) := by
  have digits : (List.replicate count '1').all Char.isDigit = true := by
    simp [show Char.isDigit '1' = true from rfl]
  have positive : count ≠ 0 := by omega
  have notEmpty : List.replicate count '1' ≠ [] := by simpa using positive
  have words : ∀ part ∈ [List.replicate count '1'],
      part ≠ [] ∧ part.all Text.isWord = true := by
    intro part member
    rw [List.mem_singleton.mp member]
    exact ⟨notEmpty, by simp [show Text.isWord '1' = true from rfl]⟩
  have isNames : namesLongestFirst [("a", .list [])] = [(['a'], .list [])] := by
    simp [namesLongestFirst]
  have plain : ∀ c ∈ '.' :: List.replicate count '1', isQuote c = false :=
    fun c member => isQuote_of_mem_positionPath c (List.mem_cons_of_mem 'a' member)
  have found :
      matchName? [(['a'], .list [])] ('a' :: untilQuote ('.' :: List.replicate count '1')) =
        some (['a'], .list [], '.' :: List.replicate count '1') := by
    rw [untilQuote_of_plain plain]
    rfl
  have taken : takePath ('.' :: List.replicate count '1').length ('.' :: List.replicate count '1') =
      ([List.replicate count '1'], []) := by
    have path : '.' :: List.replicate count '1' = pathText [List.replicate count '1'] ++ [] := by
      simp [pathText]
    rw [path]
    exact takePath_pathText (by simp [pathText]) words (by simp) (by simp)
  have refused : replacement ['a'] (.list []) [List.replicate count '1'] =
      .error (.tooManyDigits count) := by
    have selects := Value.select?_of_long [] digits (by simpa using long)
    rw [List.length_replicate] at selects
    simp [replacement, Value.follow?, selects]
  rw [substitute, substituteSpans_eq_fill _ (Closed.of_plain isQuote_of_mem_positionPath), isNames,
    positionPath, fill_put _ rfl rfl found taken, refused]
  · rfl
  · intro entry member
    rw [List.mem_singleton.mp member]
    simp

/-- What is promised does not keep the operators: a name may hold an operator, a parenthesis or a
bracket, a bracket after a name may be left open, and a position may have too many digits. -/
theorem substitute_changes_marks :
    (Promised [("a && b", .int 1)] "a && b" ∧
      ¬KeepsMarks [("a && b", .int 1)] "a && b".toList) ∧
    (Promised [("a(b", .int 1)] "a(b" ∧ ¬KeepsMarks [("a(b", .int 1)] "a(b".toList) ∧
    (Promised [("b]", .int 1)] "[b]c" ∧ ¬KeepsMarks [("b]", .int 1)] "[b]c".toList) ∧
    (Promised [("a", .text "s")] "a[" ∧ ¬KeepsMarks [("a", .text "s")] "a[".toList) ∧
    (Promised [("a", .list [])] (String.ofList (positionPath (digitLimit + 1))) ∧
      ¬KeepsMarks [("a", .list [])] (positionPath (digitLimit + 1))) := by
  refine ⟨?_, ?_, ?_, ?_, promised_positionPath _, ?_⟩
  · exact changes_marks ['1'] (by decide +kernel) (by decide) (List.forall_mem_singleton.mpr rfl)
      (toOption_eq_some_iff.mp (by decide +kernel)) (by decide)
  · exact changes_marks ['1'] (by decide +kernel) (by decide) (List.forall_mem_singleton.mpr rfl)
      (toOption_eq_some_iff.mp (by decide +kernel)) (by decide)
  · exact changes_marks "[1c".toList (by decide +kernel) (by decide)
      (List.forall_mem_singleton.mpr rfl) (toOption_eq_some_iff.mp (by decide +kernel)) (by decide)
  · exact changes_marks "\"s\"[".toList (by decide +kernel) (by decide)
      (List.forall_mem_singleton.mpr rfl) (toOption_eq_some_iff.mp (by decide +kernel)) (by decide)
  · rintro ⟨filled, isFilled, -⟩
    rw [substitute_positionPath (Nat.lt_succ_self digitLimit)] at isFilled
    cases isFilled

end Automation.Condition
