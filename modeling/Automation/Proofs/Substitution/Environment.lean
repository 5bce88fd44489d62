import Automation.Condition.Evaluator
import Automation.Proofs.Grammar.Relabeling
import Automation.Proofs.Grammar.Verdict
import Automation.Proofs.Literal.Lexeme
import Automation.Proofs.Substitution.Replacement
import Automation.Proofs.Substitution.Words
import Automation.Proofs.Value.Path

/-!
Variables as an environment.

Putting the literals of variables into the text of a condition and reading the tokens of the new
text is the same as reading the tokens of the condition itself in an environment, where a word that
starts with a variable stands for the value at the end of its path. The condition is followed chunk
by chunk: a gap and a quoted text stay, and a word gives way to one token for its value.
-/

namespace Automation

namespace Condition

/-- The parts of a word between its points. -/
def segments (word : List Char) : List (List Char) := Text.splitAt '.' word

/-- Whether a part of a word is the name of a variable. -/
def isVariable (scope : Fields) (segment : List Char) : Bool :=
  Entries.has (String.ofList segment) scope

/-- The value that a word names: what stands at the end of its path in the variable that it starts
with. -/
def lookup? (scope : Fields) (word : List Char) : Option Value :=
  match segments word with
  | [] => none
  | name :: path =>
      (Entries.get? (String.ofList name) scope).bind fun value => value.at? path

/-- The reading of tokens in which a word stands for the value that it names, and every other token
for its literal value. -/
def environment (scope : Fields) : Reading
  | .word word =>
      match lookup? scope word with
      | some value => .ok value
      | none => literalValue (.word word)
  | lexeme => literalValue lexeme

/-- The truth of a condition whose tokens stand for what a reading gives them: that of its tree, and
false where it has no tokens or no tree, or where the tree has no truth. -/
structure HasTruth (reading : Reading) (text : List Char) (truth : Bool) : Prop where
  refused : ∀ refusal, tokenize text = .error refusal → truth = false
  derived : ∀ tokens, tokenize text = .ok tokens → ∀ tree : DisjunctionTree,
    tree.lexemes = tokens.map Token.lexeme →
    truth = (tree.formula.denote reading).toOption.getD false
  underivable : ∀ tokens, tokenize text = .ok tokens →
    (∀ tree : DisjunctionTree, tree.lexemes ≠ tokens.map Token.lexeme) → truth = false

/-- A word that is a dotted sequence of runs of word characters, none of them too long. It starts
with a variable, or no part of it is one. -/
structure StandsAlone (scope : Fields) (word : List Char) : Prop where
  runs : ∀ segment ∈ segments word,
    segment ≠ [] ∧ segment.all Text.isWord = true ∧ segment.length ≤ digitLimit
  starts : (segments word).head?.any (isVariable scope) = true ∨
    ∀ segment ∈ segments word, isVariable scope segment = false

instance (scope : Fields) (word : List Char) : Decidable (StandsAlone scope word) :=
  decidable_of_iff
    ((∀ segment ∈ segments word,
        segment ≠ [] ∧ segment.all Text.isWord = true ∧ segment.length ≤ digitLimit) ∧
      ((segments word).head?.any (isVariable scope) = true ∨
        ∀ segment ∈ segments word, isVariable scope segment = false))
    ⟨fun ⟨runs, starts⟩ => ⟨runs, starts⟩, fun ⟨runs, starts⟩ => ⟨runs, starts⟩⟩

/-- Variables that are runs of word characters and have plain values. -/
structure Bindable (scope : Fields) : Prop where
  distinct : (Entries.keys scope).Nodup
  names : ∀ name ∈ Entries.keys scope, name ≠ "" ∧ name.toList.all Text.isWord = true
  values : ∀ entry ∈ scope, entry.2.isPlain = true

instance (scope : Fields) : Decidable (Bindable scope) :=
  decidable_of_iff
    ((Entries.keys scope).Nodup ∧
      (∀ name ∈ Entries.keys scope, name ≠ "" ∧ name.toList.all Text.isWord = true) ∧
      ∀ entry ∈ scope, entry.2.isPlain = true)
    ⟨fun ⟨distinct, names, values⟩ => ⟨distinct, names, values⟩,
      fun ⟨distinct, names, values⟩ => ⟨distinct, names, values⟩⟩

/-- The token that stands for a token once the variables are put in. -/
def valueLexeme (scope : Fields) : Lexeme → Lexeme
  | .word word =>
      match lookup? scope word with
      | some value => literalLexeme value
      | none => .word word
  | lexeme => lexeme

theorem keepsGrammar_valueLexeme (scope : Fields) : KeepsGrammar (valueLexeme scope) where
  isValue lexeme := by
    cases lexeme with
    | word word =>
        simp only [valueLexeme]
        split
        · exact literalLexeme_isValue _
        · rfl
    | _ => rfl
  marks lexeme noValue := by
    cases lexeme with
    | word word => cases noValue
    | _ => rfl

theorem segments_ne_nil (word : List Char) : segments word ≠ [] := Text.splitAt_ne_nil '.' word

theorem pathText_of_segments {word name : List Char} {path : List (List Char)}
    (split : segments word = name :: path) : word = name ++ pathText path := by
  induction word generalizing name path with
  | nil =>
      cases split
      rfl
  | cons c rest inductionHypothesis =>
      rw [segments, Text.splitAt] at split
      cases further : Text.splitAt '.' rest with
      | nil => exact absurd further (Text.splitAt_ne_nil '.' rest)
      | cons first others =>
          have isRest : rest = first ++ pathText others := inductionHypothesis further
          rw [further] at split
          split at split
          · rename_i point
            cases split
            simp [pathText, point, isRest]
          · cases split
            rw [isRest]
            rfl

theorem mem_namesLongestFirst {scope : Fields} {name : List Char} {value : Value}
    (found : Entries.get? (String.ofList name) scope = some value) (notEmpty : name ≠ []) :
    (name, value) ∈ namesLongestFirst scope := by
  simp only [namesLongestFirst, List.mem_mergeSort, List.mem_map, List.mem_filter]
  exact ⟨(String.ofList name, value), ⟨Entries.mem_of_get? found, by simpa using notEmpty⟩,
    by simp⟩

namespace Bindable

variable {scope : Fields} (bindable : Bindable scope)
include bindable

theorem areRuns : AreRuns (namesLongestFirst scope) := by
  rintro ⟨name, value⟩ member
  obtain ⟨key, rfl, inVariables⟩ := exists_name_of_mem member
  obtain ⟨-, word⟩ := bindable.names key (List.mem_map_of_mem inVariables)
  exact ⟨named_namesLongestFirst scope _ member, List.all_eq_true.mp word⟩

/-- A name stands for one value. -/
theorem get?_of_mem {name : List Char} {value : Value}
    (member : (name, value) ∈ namesLongestFirst scope) :
    Entries.get? (String.ofList name) scope = some value := by
  obtain ⟨key, rfl, inVariables⟩ := exists_name_of_mem member
  rw [String.ofList_toList]
  exact Entries.get?_of_mem bindable.distinct inVariables

theorem mem_of_get? {name : List Char} {value : Value}
    (found : Entries.get? (String.ofList name) scope = some value) :
    (name, value) ∈ namesLongestFirst scope := by
  obtain ⟨notEmpty, -⟩ := bindable.names _ (List.mem_map_of_mem (Entries.mem_of_get? found))
  exact mem_namesLongestFirst found (by simpa using notEmpty)

theorem not_mem_of_isVariable {segment : List Char}
    (noVariable : isVariable scope segment = false) :
    ∀ value, (segment, value) ∉ namesLongestFirst scope := by
  intro value member
  simp [isVariable, Entries.has, bindable.get?_of_mem member] at noVariable

theorem isPlain_of_get? {name : List Char} {value : Value}
    (found : Entries.get? (String.ofList name) scope = some value) : value.isPlain = true :=
  bindable.values _ (Entries.mem_of_get? found)

theorem isPlain_of_lookup? {word : List Char} {value : Value}
    (found : lookup? scope word = some value) : value.isPlain = true := by
  unfold lookup? at found
  split at found
  · cases found
  · obtain ⟨held, isHeld, follows⟩ := Option.bind_eq_some_iff.mp found
    exact Value.consistsOf_of_at? (bindable.isPlain_of_get? isHeld) follows

/-- The token for a token stands for what the token stands for in the environment. -/
theorem literalValue_valueLexeme (lexeme : Lexeme) :
    literalValue (valueLexeme scope lexeme) = environment scope lexeme := by
  cases lexeme with
  | word word =>
      simp only [valueLexeme, environment]
      cases found : lookup? scope word with
      | some value => exact literalValue_literalLexeme (bindable.isPlain_of_lookup? found)
      | none => rfl
  | _ => rfl

end Bindable

theorem EndsWord.endsRun {rest : List Char} (ends : EndsWord rest) : EndsRun rest := by
  intro c head
  cases word : Text.isWord c with
  | false => rfl
  | true =>
      have ended := ends c head
      rw [endsWord_of_isWord word] at ended
      cases ended

namespace StandsAlone

variable {scope : Fields} {word : List Char}

theorem notEmpty (alone : StandsAlone scope word) : word ≠ [] := by
  rintro rfl
  exact (alone.runs [] List.mem_cons_self).1 rfl

theorem inside (alone : StandsAlone scope word) : ∀ c ∈ word, endsWord c = false := by
  intro c member
  obtain ⟨name, path, split⟩ := List.exists_cons_of_ne_nil (segments_ne_nil word)
  have inRun : ∀ segment ∈ name :: path, c ∈ segment → endsWord c = false := by
    intro segment inSegments inSegment
    have isWord := (alone.runs segment (split ▸ inSegments)).2.1
    exact endsWord_of_isWord (List.all_eq_true.mp isWord c inSegment)
  rw [pathText_of_segments split] at member
  rcases List.mem_append.mp member with inName | inPath
  · exact inRun name List.mem_cons_self inName
  · obtain ⟨part, inParts, inPart⟩ := List.mem_flatMap.mp inPath
    rcases List.mem_cons.mp inPart with rfl | inPart
    · rfl
    · exact inRun part (List.mem_cons_of_mem name inParts) inPart

theorem lexesTo (alone : StandsAlone scope word) : LexesTo (.word word) word := by
  apply lexesTo_word alone.notEmpty alone.inside
  intro c head bracket
  obtain ⟨name, path, split⟩ := List.exists_cons_of_ne_nil (segments_ne_nil word)
  obtain ⟨nameNotEmpty, isWord, -⟩ := alone.runs name (by simp [split])
  obtain ⟨d, others, rfl⟩ := List.exists_cons_of_ne_nil nameNotEmpty
  rw [pathText_of_segments split] at head
  cases head
  have isWord_c := List.all_eq_true.mp isWord c List.mem_cons_self
  rcases bracket with rfl | rfl <;> cases isWord_c

/-- The parts of a word that stands alone in a condition are readable. -/
theorem isReadable (alone : StandsAlone scope word) (allowed : ∀ c ∈ word, isAllowed c = true)
    {name : List Char} {path : List (List Char)} (split : segments word = name :: path) :
    ∀ part ∈ path, Value.IsReadable part := by
  intro part member digits
  obtain ⟨-, -, short⟩ := alone.runs part (by simp [split, member])
  refine ⟨List.all_eq_true.mpr fun c inPart => ?_, short⟩
  refine Text.isDigit_of_isAllowed (allowed c ?_) (List.all_eq_true.mp digits c inPart)
  rw [pathText_of_segments split]
  exact List.mem_append_right name
    (List.mem_flatMap.mpr ⟨part, member, List.mem_cons_of_mem '.' inPart⟩)

theorem startsPlain (alone : StandsAlone scope word) : StartsPlain word := by
  obtain ⟨c, others, rfl⟩ := List.exists_cons_of_ne_nil alone.notEmpty
  have inWord := alone.inside c List.mem_cons_self
  simp only [endsWord_eq, Bool.or_eq_false_iff] at inWord
  exact ⟨c, others, rfl, inWord.2⟩

theorem isPath (alone : StandsAlone scope word) {name : List Char} {path : List (List Char)}
    (split : segments word = name :: path) :
    ∀ part ∈ path, part ≠ [] ∧ part.all Text.isWord = true := by
  intro part member
  obtain ⟨notEmpty, isWord, -⟩ := alone.runs part (by simp [split, member])
  exact ⟨notEmpty, isWord⟩

/-- A word that does not start with a variable stays. -/
theorem fillsTo_kept (alone : StandsAlone scope word) (bindable : Bindable scope)
    {name : List Char} {path : List (List Char)} (split : segments word = name :: path)
    (missing : Entries.get? (String.ofList name) scope = none) {rest filled : List Char}
    (ends : EndsWord rest) (fills : FillsTo (namesLongestFirst scope) rest filled) :
    FillsTo (namesLongestFirst scope) (word ++ rest) (word ++ filled) := by
  have noVariable : ∀ segment ∈ segments word, isVariable scope segment = false := by
    rcases alone.starts with startsWithVariable | noVariable
    · simp [split, isVariable, Entries.has, missing] at startsWithVariable
    · exact noVariable
  obtain ⟨notEmpty, isWord, -⟩ := alone.runs name (by simp [split])
  rw [pathText_of_segments split, List.append_assoc, List.append_assoc]
  refine .segment bindable.areRuns notEmpty (List.all_eq_true.mp isWord)
    (bindable.not_mem_of_isVariable (noVariable name (by simp [split])))
    (ends.endsRun.path path) ?_
  refine .path bindable.areRuns (alone.isPath split) (fun part member => ?_) ends.endsRun fills
  exact bindable.not_mem_of_isVariable (noVariable part (by simp [split, member]))

/-- A word that starts with a variable gives way to what stands for the variable and its path. -/
theorem fillsTo_put (alone : StandsAlone scope word) (bindable : Bindable scope)
    {name put : List Char} {path : List (List Char)} (split : segments word = name :: path)
    {value : Value} (found : Entries.get? (String.ofList name) scope = some value)
    (replaced : replacement name value path = .ok put) {rest filled : List Char}
    (ends : EndsWord rest) (fills : FillsTo (namesLongestFirst scope) rest filled) :
    FillsTo (namesLongestFirst scope) (word ++ rest) (put ++ filled) := by
  have unique : ∀ other, (name, other) ∈ namesLongestFirst scope → other = value := by
    intro other member
    have same := bindable.get?_of_mem member
    rw [found] at same
    exact (Option.some.inj same).symm
  have noPoint : rest.head? ≠ some '.' := fun point => by cases ends '.' point
  rw [pathText_of_segments split, List.append_assoc]
  exact .put bindable.areRuns (bindable.mem_of_get? found) unique (alone.isPath split)
    ends.endsRun noPoint replaced fills

/-- A word gives way to a chunk of one token, which is the token for its value. -/
theorem exists_put (alone : StandsAlone scope word) (bindable : Bindable scope)
    (allowed : ∀ c ∈ word, isAllowed c = true) :
    ∃ put, LexesTo (valueLexeme scope (.word word)) put ∧ StartsPlain put ∧
      ∀ rest filled, EndsWord rest → FillsTo (namesLongestFirst scope) rest filled →
        FillsTo (namesLongestFirst scope) (word ++ rest) (put ++ filled) := by
  obtain ⟨name, path, split⟩ := List.exists_cons_of_ne_nil (segments_ne_nil word)
  have isLookup : lookup? scope word =
      (Entries.get? (String.ofList name) scope).bind fun value => value.at? path := by
    rw [lookup?, split]
  cases found : Entries.get? (String.ofList name) scope with
  | none =>
      refine ⟨word, ?_, alone.startsPlain, fun rest filled ends fills =>
        alone.fillsTo_kept bindable split found ends fills⟩
      rw [valueLexeme, isLookup, found]
      exact alone.lexesTo
  | some value =>
      have plain := bindable.isPlain_of_get? found
      have follows := Value.follow?_eq_at? (fun _ => rfl) plain (alone.isReadable allowed split)
      rw [found, Option.bind_some] at isLookup
      cases inner : value.at? path with
      | some target =>
          have plainTarget : target.isPlain = true := Value.consistsOf_of_at? plain inner
          have checked := Json.checkWritable_of_isPlain plainTarget
          have replaced : replacement name value path = .ok (literal target) := by
            simp [replacement, follows, inner, checked]
          refine ⟨literal target, ?_, StartsPlain.literal target, fun rest filled ends fills =>
            alone.fillsTo_put bindable split found replaced ends fills⟩
          rw [valueLexeme, isLookup, inner]
          exact lexesTo_literal plainTarget
      | none =>
          -- The path leads nowhere, so the variable and its path are put in for themselves.
          have replaced : replacement name value path = .ok word := by
            simp [replacement, follows, inner, ← pathText_of_segments split]
          refine ⟨word, ?_, alone.startsPlain, fun rest filled ends fills =>
            alone.fillsTo_put bindable split found replaced ends fills⟩
          rw [valueLexeme, isLookup, inner]
          exact alone.lexesTo

end StandsAlone

/-- A condition with the variables put in has the tokens of the condition, a word replaced by the
token for its value. -/
structure Refines (scope : Fields) (text filled : List Char) : Prop where
  fills : FillsTo (namesLongestFirst scope) text filled
  endsWord : EndsWord text → EndsWord filled
  endsOperator : EndsOperator text → EndsOperator filled
  lexemes : lexemes? filled = (lexemes? text).map (·.map (valueLexeme scope))

/-- What holds of the first character after a chunk still holds with the variables put in. -/
theorem head?_append {p : Char → Bool} {value : Bool} {chunk rest filled : List Char}
    (keeps : (∀ c ∈ rest.head?, p c = value) → ∀ c ∈ filled.head?, p c = value)
    (holds : ∀ c ∈ (chunk ++ rest).head?, p c = value) :
    ∀ c ∈ (chunk ++ filled).head?, p c = value := by
  cases chunk with
  | nil => exact keeps holds
  | cons c others => exact holds

theorem map_valueLexeme_of_gap (scope : Fields) {found : List Lexeme}
    (noValue : ∀ lexeme ∈ found, lexeme.isValue = false) :
    found.map (valueLexeme scope) = found :=
  List.map_congr_left (fun lexeme member =>
    (keepsGrammar_valueLexeme scope).marks lexeme (noValue lexeme member)) |>.trans
    (List.map_id found)

namespace Refines

variable {scope : Fields} {rest filled : List Char}

theorem nil : Refines scope [] [] where
  fills := .nil
  endsWord ends := ends
  endsOperator ends := ends
  lexemes := rfl

theorem gap {gap : List Char} (bindable : Bindable scope)
    (inside : ∀ c ∈ gap, isGap c = true) (ends : EndsOperator rest)
    (refines : Refines scope rest filled) :
    Refines scope (gap ++ rest) (gap ++ filled) where
  fills := by
    clear ends
    induction gap with
    | nil => exact refines.fills
    | cons c others inductionHypothesis =>
        have isGap_c := inside c List.mem_cons_self
        have noWord : Text.isWord c = false := by
          cases word : Text.isWord c with
          | false => rfl
          | true => simp [isGap, endsWord_of_isWord word] at isGap_c
        exact .keep bindable.areRuns (isQuote_of_isGap isGap_c) noWord
          (inductionHypothesis fun d member => inside d (List.mem_cons_of_mem c member))
  endsWord := head?_append refines.endsWord
  endsOperator := head?_append refines.endsOperator
  lexemes := by
    rw [joins_gap inside (refines.endsOperator ends), joins_gap inside ends, refines.lexemes]
    cases found : lexemes? gap with
    | none => rfl
    | some front =>
        have kept := map_valueLexeme_of_gap scope (isValue_of_gap inside found)
        cases lexemes? rest <;> simp [kept]

theorem quoted {c : Char} (quote : isQuote c = true) {body : List Char} (quotes : Quotes c body)
    (closed : Closed rest) (refines : Refines scope rest filled) :
    Refines scope (c :: body ++ rest) (c :: body ++ filled) where
  fills := .quoted quote quotes closed refines.fills
  endsWord := head?_append refines.endsWord
  endsOperator := head?_append refines.endsOperator
  lexemes := by
    rw [lexemes?_quoted quote quotes.scan, lexemes?_quoted quote quotes.scan, refines.lexemes]
    cases lexemes? rest <;> rfl

theorem word {word put : List Char} (alone : StandsAlone scope word) (ends : EndsWord rest)
    (lexesToPut : LexesTo (valueLexeme scope (.word word)) put) (startsPlain : StartsPlain put)
    (fills : FillsTo (namesLongestFirst scope) (word ++ rest) (put ++ filled))
    (refines : Refines scope rest filled) :
    Refines scope (word ++ rest) (put ++ filled) where
  fills := fills
  endsWord endsFront := by
    obtain ⟨c, others, rfl⟩ := List.exists_cons_of_ne_nil alone.notEmpty
    have ended := endsFront c rfl
    rw [alone.inside c List.mem_cons_self] at ended
    cases ended
  endsOperator _ := by
    obtain ⟨c, others, rfl, noSymbol⟩ := startsPlain
    intro d head
    cases head
    exact noSymbol
  lexemes := by
    rw [lexesToPut filled (refines.endsWord ends), alone.lexesTo rest ends, refines.lexemes]
    cases lexemes? rest <;> rfl

end Refines

/-- The variables can be put into a condition, and it is refined by what comes of it. -/
theorem Chunked.exists_refines {scope : Fields} {text : List Char}
    (bindable : Bindable scope) (chunked : Chunked (StandsAlone scope) text)
    (allowed : ∀ c ∈ text, isAllowed c = true) : ∃ filled, Refines scope text filled := by
  induction chunked with
  | nil => exact ⟨[], .nil⟩
  | gap inside ends _ inductionHypothesis =>
      obtain ⟨filled, refines⟩ :=
        inductionHypothesis fun c member => allowed c (List.mem_append_right _ member)
      exact ⟨_, refines.gap bindable inside ends⟩
  | quoted quote quotes further inductionHypothesis =>
      obtain ⟨filled, refines⟩ :=
        inductionHypothesis fun c member => allowed c (List.mem_append_right _ member)
      exact ⟨_, refines.quoted quote quotes further.closed⟩
  | word _ _ alone ends _ inductionHypothesis =>
      obtain ⟨filled, refines⟩ :=
        inductionHypothesis fun c member => allowed c (List.mem_append_right _ member)
      obtain ⟨put, lexesToPut, startsPlain, puts⟩ := alone.exists_put bindable
        fun c member => allowed c (List.mem_append_left _ member)
      exact ⟨put ++ filled, refines.word alone ends lexesToPut startsPlain
        (puts _ filled ends refines.fills)⟩

/-- One truth is that of a condition if it is true just where the tree of the condition is. -/
theorem HasTruth.of_iff {reading : Reading} {text : List Char} {truth : Bool}
    (same : truth = true ↔ ∃ tokens, tokenize text = .ok tokens ∧ ∃ tree : DisjunctionTree,
      tree.lexemes = tokens.map Token.lexeme ∧ tree.formula.denote reading = .ok true) :
    HasTruth reading text truth := by
  constructor
  · intro refusal refused
    apply Bool.eq_false_iff.mpr
    intro isTrue
    obtain ⟨tokens, tokenized, -⟩ := same.mp isTrue
    rw [refused] at tokenized
    cases tokenized
  · intro tokens tokenized tree derives
    cases truth with
    | true =>
        obtain ⟨others, otherTokenized, other, otherDerives, denotes⟩ := same.mp rfl
        rw [tokenized] at otherTokenized
        cases otherTokenized
        rw [DisjunctionTree.lexemes_injective (derives.trans otherDerives.symm), denotes]
        rfl
    | false =>
        cases denotes : tree.formula.denote reading with
        | error failure => rfl
        | ok value =>
            cases value with
            | false => rfl
            | true => exact same.mpr ⟨tokens, tokenized, tree, derives, denotes⟩
  · intro tokens tokenized underivable
    apply Bool.eq_false_iff.mpr
    intro isTrue
    obtain ⟨others, otherTokenized, tree, derives, -⟩ := same.mp isTrue
    rw [tokenized] at otherTokenized
    cases otherTokenized
    exact underivable tree derives

theorem truth_evaluate_iff {keywords : List String} {expression : Value} {scope : Fields} :
    (evaluate keywords expression scope).truth = true ↔
      Condition.decide keywords expression scope = .ok true := by
  unfold evaluate
  cases decided : Condition.decide keywords expression scope with
  | ok truth => simp
  | error failure =>
      split
      · cases ‹_›
      · split <;> simp
      · simp

/-- The verdict on relabeled tokens is that of the tree of the tokens, read as relabeled. -/
theorem verdict_relabeled_iff {relabel : Lexeme → Lexeme} (keeps : KeepsGrammar relabel)
    {reading : Reading} {tokens relabeled : List Token} {truth : Bool}
    (same : (tokens.map Token.lexeme).map relabel = relabeled.map Token.lexeme) :
    verdict reading relabeled = .ok truth ↔
      ∃ tree : DisjunctionTree, tree.lexemes = tokens.map Token.lexeme ∧
        tree.formula.denote (fun lexeme => reading (relabel lexeme)) = .ok truth := by
  rw [verdict_eq_ok_iff]
  constructor
  · rintro ⟨formula, derived, denotes⟩
    obtain ⟨original, originalDerived, rfl⟩ := derived.of_map keeps same
    obtain ⟨tree, derives, rfl⟩ := originalDerived.exists_tree
    rw [Formula.denote_map] at denotes
    exact ⟨tree, derives, denotes⟩
  · rintro ⟨tree, derives, denotes⟩
    have derived : Disjunction (tokens.map Token.lexeme) tree.formula := derives ▸ tree.derives
    rw [← same]
    exact ⟨_, derived.map keeps, by rw [Formula.denote_map, denotes]⟩

/-- A text whose tokens are those of another one, relabeled, has the truth of that other one. -/
theorem hasTruth_relabeled_iff {relabel : Lexeme → Lexeme} (keeps : KeepsGrammar relabel)
    {text filled : List Char} (relabeled : lexemes? filled = (lexemes? text).map (·.map relabel)) :
    (tokens filled >>= verdict literalValue) = .ok true ↔
      ∃ tokens, tokenize text = .ok tokens ∧ ∃ tree : DisjunctionTree,
        tree.lexemes = tokens.map Token.lexeme ∧
          tree.formula.denote (fun lexeme => literalValue (relabel lexeme)) = .ok true := by
  cases tokenized : tokenize text with
  | error refusal =>
      have noTokens : lexemes? text = none := lexemes?_eq_none_iff.mpr ⟨refusal, tokenized⟩
      rw [noTokens] at relabeled
      obtain ⟨other, refused⟩ := lexemes?_eq_none_iff.mp relabeled
      simp [tokens, refused, refuse]
  | ok found =>
      have isSome : lexemes? text = some (found.map Token.lexeme) :=
        lexemes?_eq_some_iff.mpr ⟨found, tokenized, rfl⟩
      rw [isSome] at relabeled
      obtain ⟨others, otherTokenized, same⟩ := lexemes?_eq_some_iff.mp relabeled
      simp only [tokens, otherTokenized, ok_bind, verdict_relabeled_iff keeps same.symm,
        Except.ok.injEq, exists_eq_left']

/-- Putting the variables into the text of a condition refines reading its words in the environment
of the variables. -/
theorem evaluate_refines_environment {keywords : List String} {expression : String}
    {checked : List Char} {scope : Fields}
    (accepted : check keywords (.text expression) = .ok checked)
    (closed : quotesClosed expression.toList = true)
    (alone : ∀ word ∈ words expression.toList, StandsAlone scope word)
    (bindable : Bindable scope) :
    HasTruth (environment scope) expression.toList
      (evaluate keywords (.text expression) scope).truth := by
  obtain ⟨isChecked, allowed⟩ := isAllowed_of_check accepted
  have chunked := Chunked.of_words (quotesClosed_iff.mp closed) alone
  obtain ⟨chunkedChecked, sameLexemes⟩ := chunked.trim fun word alone => alone.lexesTo
  have allowedChecked : ∀ c ∈ Text.trim expression.toList, isAllowed c = true := by
    refine Text.trim_induction (p := fun text => ∀ c ∈ text, isAllowed c = true) ?_ ?_ allowed
    · exact fun c rest _ allowed d member => allowed d (List.mem_cons_of_mem c member)
    · exact fun c front _ allowed d member => allowed d (List.mem_append_left [c] member)
  obtain ⟨filled, refines⟩ := chunkedChecked.exists_refines bindable allowedChecked
  have substituted : substitute scope checked = .ok filled := by
    rw [substitute, isChecked, substituteSpans_eq_fill _ chunkedChecked.closed]
    exact refines.fills none fun _ _ _ => rfl
  have decided : Condition.decide keywords (.text expression) scope =
      (tokens filled >>= verdict literalValue) := by
    simp only [Condition.decide, accepted, substituted, ok_bind]
  have relabeled := refines.lexemes
  rw [sameLexemes] at relabeled
  have reading : (fun lexeme => literalValue (valueLexeme scope lexeme)) =
      environment scope := funext bindable.literalValue_valueLexeme
  apply HasTruth.of_iff
  rw [truth_evaluate_iff, decided,
    hasTruth_relabeled_iff (keepsGrammar_valueLexeme scope) relabeled, reading]

theorem evaluate_refines_environment_of_path :
    let scope : Fields :=
      [("order", .object [("lines", .list [.text "a\"b", .int 12])]), ("limit", .int 10)]
    let expression := "order.lines.1 > limit && (order.name == 'order.name' || !x)"
    check forbiddenKeywords (.text expression) = .ok expression.toList ∧
      quotesClosed expression.toList = true ∧
      (∀ word ∈ words expression.toList, StandsAlone scope word) ∧ Bindable scope ∧
      HasTruth (environment scope) expression.toList
        (evaluate forbiddenKeywords (.text expression) scope).truth := by
  intro scope expression
  have accepted : check forbiddenKeywords (.text expression) = .ok expression.toList :=
    toOption_eq_some_iff.mp (by decide +kernel)
  have closed : quotesClosed expression.toList = true := by decide +kernel
  have alone : ∀ word ∈ words expression.toList, StandsAlone scope word := by decide +kernel
  have bindable : Bindable scope := by decide +kernel
  exact ⟨accepted, closed, alone, bindable,
    evaluate_refines_environment accepted closed alone bindable⟩

end Condition

end Automation
