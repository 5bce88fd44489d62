import Automation.Proofs.Substitution.Environment
import Automation.Proofs.Variables.Lookup

/-!
A dotted path as a condition of its own.

A placeholder looks a path up in the variables: the variable of exactly that name, else what the
parts of the path lead to. A condition that is the path takes the name that stands first in it, the
longest where there are several, and puts in what the path behind that name leads to. The two find
the same where that name is the path itself or its first part. A longer name at its front, or a
name further on, is found by the condition alone.
-/

namespace Automation

theorem Variables.get?_eq_named (scope : Variables) (name : String) :
    scope.get? name = Entries.get? name scope.named :=
  Bindings.get?_text_eq name scope.bindings

namespace Condition

/-- A path of runs of word characters between points. -/
def IsDotted (path : List Char) : Prop :=
  ∀ segment ∈ segments path, segment ≠ [] ∧ segment.all Text.isWord = true

instance (path : List Char) : Decidable (IsDotted path) :=
  inferInstanceAs
    (Decidable (∀ segment ∈ segments path, segment ≠ [] ∧ segment.all Text.isWord = true))

/-- A name between two texts is a whole word. -/
structure StandsBetween (front name rest : List Char) : Prop where
  notEmpty : name ≠ []
  starts : isBoundary front.getLast? name.head? = true
  ends : isBoundary name.getLast? rest.head? = true

/-- A name stands in a text as a whole word, after a front of the text. -/
def StandsAfter (front name text : List Char) : Prop :=
  ∃ rest, text = front ++ (name ++ rest) ∧ StandsBetween front name rest

instance (front name rest : List Char) : Decidable (StandsBetween front name rest) :=
  decidable_of_iff (name ≠ [] ∧ isBoundary front.getLast? name.head? = true ∧
      isBoundary name.getLast? rest.head? = true)
    ⟨fun ⟨notEmpty, starts, ends⟩ => ⟨notEmpty, starts, ends⟩,
      fun ⟨notEmpty, starts, ends⟩ => ⟨notEmpty, starts, ends⟩⟩

theorem standsAfter_iff {front name text : List Char} :
    StandsAfter front name text ↔
      ∃ rest ∈ Json.dropWord? (front ++ name) text, StandsBetween front name rest := by
  simp [StandsAfter, dropWord?_eq_some_iff]

instance (front name text : List Char) : Decidable (StandsAfter front name text) :=
  decidable_of_iff _ standsAfter_iff.symm

/-- That nothing stands before a place is seen from the fronts that are shorter. -/
theorem forall_standsAfter_iff {name text : List Char} {place : Nat} :
    (∀ before, StandsAfter before name text → place ≤ before.length) ↔
      ∀ count < place, ¬StandsAfter (text.take count) name text := by
  constructor
  · intro first count early stands
    have later := first _ stands
    rw [List.length_take] at later
    omega
  · intro none before stands
    refine Nat.le_of_not_lt fun early => none _ early ?_
    obtain ⟨rest, rfl, -⟩ := id stands
    rwa [List.take_left]

instance (name text : List Char) (place : Nat) :
    Decidable (∀ before, StandsAfter before name text → place ≤ before.length) :=
  decidable_of_iff _ forall_standsAfter_iff.symm

/-- A variable whose name is the first of all that stand in a path, and the longest of those that
stand there, with the parts of the path behind it. -/
structure StandsFirst (scope : Fields) (path front name : List Char) (value : Value)
    (parts : List (List Char)) : Prop where
  isVariable : Entries.get? (String.ofList name) scope = some value
  isPath : path = front ++ (name ++ pathText parts)
  stands : StandsBetween front name (pathText parts)
  areRuns : ∀ part ∈ parts, part ≠ [] ∧ part.all Text.isWord = true
  first : ∀ other ∈ Entries.keys scope, ∀ before, StandsAfter before other.toList path →
    front.length ≤ before.length
  longest : ∀ other ∈ Entries.keys scope, StandsAfter front other.toList path →
    other.toList.length ≤ name.length

/-- A path is a variable, or its first part is one and no longer name stands at its front. -/
inductive IsLed (scope : Fields) (path : List Char) : Prop where
  | whole : isVariable scope path = true → IsLed scope path
  | first {name parts} : segments path = name :: parts → isVariable scope name = true →
      (∀ other ∈ Entries.keys scope, StandsAfter [] other.toList path →
        other.toList.length ≤ name.length) → IsLed scope path

/-- No name stands in a path, or there is no value at the path behind the name that stands
first. -/
inductive PutsNothing (scope : Fields) (path : List Char) : Prop where
  | absent : (∀ other ∈ Entries.keys scope, ∀ front, ¬StandsAfter front other.toList path) →
      PutsNothing scope path
  | unresolved {front name value parts} : StandsFirst scope path front name value parts →
      value.follow? parts = .ok none → PutsNothing scope path

/-- A condition that is a path becomes the literal of the value that a placeholder finds at the
path, and stays as it is written where a placeholder finds nothing. -/
def ResolvesAlike (scope : Variables) (path : List Char) : Prop :=
  (∀ value, scope.lookup? path = .ok (some value) →
    substitute scope.named path = .ok (literal value)) ∧
  (scope.lookup? path = .ok none → substitute scope.named path = .ok path)

section

variable {scope : Fields} {front text name other after rest : List Char} {value held : Value}

theorem pairwise_namesLongestFirst (scope : Fields) :
    (namesLongestFirst scope).Pairwise fun left right => right.1.length ≤ left.1.length := by
  have sorted : (namesLongestFirst scope).Pairwise fun left right =>
      Decidable.decide (right.1.length ≤ left.1.length) = true :=
    List.pairwise_mergeSort
      (fun first second third => by simpa using fun left right => Nat.le_trans right left)
      (fun first second => by simpa using Nat.le_total second.1.length first.1.length) _
  simpa only [decide_eq_true_eq] using sorted

/-- The name that is found is one of the longest that stand there. -/
theorem length_le_of_matchName?
    (found : matchName? (namesLongestFirst scope) text = some (name, value, after))
    (member : (other, held) ∈ namesLongestFirst scope) (isText : text = other ++ rest)
    (ends : isBoundary other.getLast? rest.head? = true) : other.length ≤ name.length := by
  have sorted := pairwise_namesLongestFirst scope
  obtain ⟨before, ⟨key, bound⟩, behind, split, isFound, noneBefore⟩ :=
    List.findSome?_eq_some_iff.mp found
  have isKey : key = name := by
    simp only at isFound
    split at isFound
    · split at isFound
      · cases isFound
        rfl
      · cases isFound
    · cases isFound
  rw [split] at sorted member
  rcases List.mem_append.mp member with inBefore | inBehind
  · have noMatch := noneBefore _ inBefore
    simp [dropWord?_eq_some_iff.mpr isText, ends] at noMatch
  · rcases List.mem_cons.mp inBehind with same | further
    · cases same
      exact Nat.le_of_eq (congrArg List.length isKey)
    · have ordered := (List.pairwise_cons.mp (List.pairwise_append.mp sorted).2.1).1 _ further
      rwa [isKey] at ordered

/-- A name that stands somewhere, and than which no longer one stands there, is found. -/
theorem matchName?_eq_some_of_longest (distinct : (Entries.keys scope).Nodup)
    (isVariable : Entries.get? (String.ofList name) scope = some value)
    (stands : StandsBetween front name rest)
    (longest : ∀ other ∈ Entries.keys scope,
      StandsAfter front other.toList (front ++ (name ++ rest)) →
        other.toList.length ≤ name.length) :
    matchName? (namesLongestFirst scope) (name ++ rest) = some (name, value, rest) := by
  have member := mem_namesLongestFirst isVariable stands.notEmpty
  cases found : matchName? (namesLongestFirst scope) (name ++ rest) with
  | none =>
      have noMatch := List.findSome?_eq_none_iff.mp found _ member
      simp [dropWord?_eq_some_iff.mpr (rfl : name ++ rest = name ++ rest), stands.ends] at noMatch
  | some held =>
      obtain ⟨key, other, after⟩ := held
      have atLeast := length_le_of_matchName? found member rfl stands.ends
      obtain ⟨inNames, isText, ends⟩ := matchName?_eq_some found
      obtain ⟨key, rfl, inVariables⟩ := exists_name_of_mem inNames
      have atMost : key.toList.length ≤ name.length := by
        have notEmpty : key.toList ≠ [] := named_namesLongestFirst scope _ inNames
        obtain ⟨c, others, isCons⟩ := List.exists_cons_of_ne_nil notEmpty
        obtain ⟨d, more, isName⟩ := List.exists_cons_of_ne_nil stands.notEmpty
        obtain rfl : d = c := by simpa [isName, isCons] using congrArg List.head? isText
        have starts : isBoundary front.getLast? key.toList.head? = true := by
          simpa [isName, isCons] using stands.starts
        exact longest key (List.mem_map_of_mem inVariables)
          ⟨after, by rw [isText], notEmpty, starts, ends⟩
      obtain ⟨rfl, rfl⟩ := List.append_inj isText (Nat.le_antisymm atLeast atMost)
      have same := Entries.get?_of_mem distinct inVariables
      rw [String.ofList_toList, same] at isVariable
      cases isVariable
      rfl

end

section

variable {names : List (List Char × Value)}

/-- A name with the path behind it gives way as a whole. -/
theorem fill_variable (named : Named names) {before : Option Char} {name : List Char}
    {value : Value} {parts : List (List Char)} (starts : isBoundary before name.head? = true)
    (plain : ∀ c ∈ name, isQuote c = false)
    (areRuns : ∀ part ∈ parts, part ≠ [] ∧ part.all Text.isWord = true)
    (found : matchName? names (name ++ pathText parts) = some (name, value, pathText parts)) :
    fill names before (name ++ pathText parts) = replacement name value parts := by
  obtain ⟨c, others, rfl⟩ := List.exists_cons_of_ne_nil (named _ (matchName?_eq_some found).1)
  have plainRest : ∀ d ∈ others ++ pathText parts, isQuote d = false := by
    intro d member
    rcases List.mem_append.mp member with inOthers | inPath
    · exact plain d (List.mem_cons_of_mem c inOthers)
    · exact isQuote_of_mem_pathText areRuns inPath
  have nothing : fromQuote (others ++ pathText parts) = [] := by
    rw [← List.append_nil (others ++ pathText parts), fromQuote_append plainRest]
    rfl
  have taken : takePath (pathText parts).length (pathText parts) = (parts, []) := by
    have all : takePath (pathText parts).length (pathText parts ++ []) = (parts, []) :=
      takePath_pathText (length_le_length_pathText parts) areRuns nofun nofun
    rwa [List.append_nil] at all
  rw [List.cons_append] at found ⊢
  rw [← untilQuote_of_plain plainRest] at found
  rw [fill_put named (plain c List.mem_cons_self) starts found taken, nothing]
  cases replacement (c :: others) value parts with
  | error failure => rfl
  | ok put => simp [fill_nil]

/-- Up to the first place where a name stands, a text stays. -/
theorem fill_append {before front rest : List Char} (named : Named names)
    (plain : ∀ c ∈ front ++ rest, isQuote c = false)
    (first : ∀ entry ∈ names, ∀ between, StandsAfter between entry.1 (before ++ (front ++ rest)) →
      (before ++ front).length ≤ between.length) :
    fill names before.getLast? (front ++ rest) =
      (front ++ ·) <$> fill names (before ++ front).getLast? rest := by
  induction front generalizing before with
  | nil => simp
  | cons c front inductionHypothesis =>
      have plainRest : ∀ d ∈ front ++ rest, isQuote d = false :=
        fun d member => plain d (List.mem_cons_of_mem c member)
      have noName : isBoundary before.getLast? (some c) = true →
          matchName? names (c :: untilQuote (front ++ rest)) = none := by
        intro starts
        rw [untilQuote_of_plain plainRest]
        cases found : matchName? names (c :: (front ++ rest)) with
        | none => rfl
        | some held =>
            obtain ⟨name, value, after⟩ := held
            obtain ⟨member, isText, ends⟩ := matchName?_eq_some found
            have notEmpty : name ≠ [] := named _ member
            obtain ⟨d, others, rfl⟩ := List.exists_cons_of_ne_nil notEmpty
            obtain ⟨rfl, -⟩ := List.cons.inj isText
            have further := first _ member before
              ⟨after, by rw [List.cons_append, isText], notEmpty, starts, ends⟩
            simp only [List.length_append, List.length_cons] at further
            omega
      have further := @inductionHypothesis (before ++ [c]) plainRest (by simpa using first)
      rw [List.getLast?_concat] at further
      rw [List.cons_append, fill_keep (plain c List.mem_cons_self) noName, further,
        List.append_assoc, List.singleton_append]
      cases fill names (before ++ c :: front).getLast? rest <;> rfl

/-- Where no name stands, a text stays. -/
theorem fill_of_absent {text : List Char} (named : Named names)
    (plain : ∀ c ∈ text, isQuote c = false)
    (absent : ∀ entry ∈ names, ∀ front, ¬StandsAfter front entry.1 text) :
    fill names none text = .ok text := by
  have stays := @fill_append names [] text [] named (by simpa using plain)
    fun entry member front stands => absurd (by simpa using stands) (absent entry member front)
  rw [List.append_nil, fill_nil] at stays
  simpa using stays

end

/-- In a path the name that stands first gives way, with the path behind it, and what is before it
stays. -/
theorem StandsFirst.substitute_eq {scope : Fields} {path front name : List Char} {value : Value}
    {parts : List (List Char)} (stands : StandsFirst scope path front name value parts)
    (distinct : (Entries.keys scope).Nodup)
    (renderable : ∀ entry ∈ scope, Json.checkWritable entry.2 = .ok ())
    (plain : ∀ c ∈ path, isQuote c = false) :
    substitute scope path =
      (fun found => front ++ (found.map literal).getD (name ++ pathText parts)) <$>
        value.follow? parts := by
  obtain ⟨bound, rfl, between, areRuns, first, longest⟩ := stands
  have named := named_namesLongestFirst scope
  have found := matchName?_eq_some_of_longest distinct bound between longest
  have before := @fill_append (namesLongestFirst scope) [] front (name ++ pathText parts) named
    plain fun entry member earlier standsEarlier => by
      obtain ⟨key, isKey, inVariables⟩ := exists_name_of_mem member
      exact first key (List.mem_map_of_mem inVariables) earlier (isKey ▸ standsEarlier)
  rw [substitute, substituteSpans_eq_fill _ (Closed.of_plain plain)]
  refine before.trans ?_
  rw [List.nil_append, fill_variable named between.starts
    (fun c member => plain c (by simp [member])) areRuns found,
    replacement_eq (renderable _ (Entries.mem_of_get? bound)), Functor.map_map]

section

variable {scope : Fields} {path name : List Char} {parts : List (List Char)} {value : Value}

/-- A text with word characters at both ends. -/
structure IsWhole (text : List Char) : Prop where
  notEmpty : text ≠ []
  starts : ∀ c ∈ text.head?, Text.isWord c = true
  ends : ∀ c ∈ text.getLast?, Text.isWord c = true

namespace IsWhole

theorem of_run (notEmpty : name ≠ []) (word : ∀ c ∈ name, Text.isWord c = true) :
    IsWhole name where
  notEmpty := notEmpty
  starts c head := word c (List.mem_of_mem_head? head)
  ends c last := word c (List.mem_of_getLast? last)

theorem append_pathText (whole : IsWhole name)
    (areRuns : ∀ part ∈ parts, part ≠ [] ∧ part.all Text.isWord = true) :
    IsWhole (name ++ pathText parts) := by
  induction parts generalizing name with
  | nil => simpa [pathText] using whole
  | cons part parts inductionHypothesis =>
      obtain ⟨notEmpty, word⟩ := areRuns part List.mem_cons_self
      have further : IsWhole (part ++ pathText parts) :=
        inductionHypothesis (.of_run notEmpty (List.all_eq_true.mp word))
          fun other member => areRuns other (List.mem_cons_of_mem part member)
      have shown : name ++ pathText (part :: parts) = name ++ '.' :: (part ++ pathText parts) := by
        simp [pathText]
      obtain ⟨c, others, rfl⟩ := List.exists_cons_of_ne_nil whole.notEmpty
      obtain ⟨d, later, isCons⟩ := List.exists_cons_of_ne_nil further.notEmpty
      rw [shown]
      refine ⟨by simp, fun e head => whole.starts e head, fun e last => further.ends e ?_⟩
      rw [isCons] at last ⊢
      simpa [List.getLast?_append, List.getLast?_cons] using last

/-- Such a text stands as a whole word at the front of every path that goes on with it. -/
theorem standsBetween (whole : IsWhole name) (parts : List (List Char)) :
    StandsBetween [] name (pathText parts) := by
  have nothing : EndsRun [] := fun c head => by cases head
  have endsRun : EndsRun (pathText parts) := by
    have ends := nothing.path parts
    rwa [List.append_nil] at ends
  refine ⟨whole.notEmpty, ?_, endsRun.isBoundary whole.notEmpty whole.ends⟩
  obtain ⟨c, others, rfl⟩ := List.exists_cons_of_ne_nil whole.notEmpty
  simp [isBoundary, whole.starts c rfl]

end IsWhole

/-- A name at the front of a path, and than which no longer one stands there, stands first. -/
theorem StandsFirst.of_front (bound : Entries.get? (String.ofList name) scope = some value)
    (isPath : path = name ++ pathText parts) (whole : IsWhole name)
    (areRuns : ∀ part ∈ parts, part ≠ [] ∧ part.all Text.isWord = true)
    (longest : ∀ other ∈ Entries.keys scope, StandsAfter [] other.toList path →
      other.toList.length ≤ name.length) : StandsFirst scope path [] name value parts where
  isVariable := bound
  isPath := isPath
  stands := whole.standsBetween parts
  areRuns := areRuns
  first _ _ before _ := Nat.zero_le before.length
  longest := longest

end

namespace IsDotted

variable {path name : List Char} {parts : List (List Char)}

theorem areRuns (dotted : IsDotted path) (split : segments path = name :: parts) :
    ∀ part ∈ parts, part ≠ [] ∧ part.all Text.isWord = true :=
  fun part member => dotted part (by simp [split, member])

theorem isWhole_first (dotted : IsDotted path) (split : segments path = name :: parts) :
    IsWhole name := by
  obtain ⟨notEmpty, word⟩ := dotted name (by simp [split])
  exact .of_run notEmpty (List.all_eq_true.mp word)

theorem isWhole (dotted : IsDotted path) : IsWhole path := by
  obtain ⟨name, parts, split⟩ := List.exists_cons_of_ne_nil (segments_ne_nil path)
  rw [pathText_of_segments split]
  exact (dotted.isWhole_first split).append_pathText (dotted.areRuns split)

theorem isPlain (dotted : IsDotted path) : ∀ c ∈ path, isQuote c = false := by
  obtain ⟨name, parts, split⟩ := List.exists_cons_of_ne_nil (segments_ne_nil path)
  intro c member
  rw [pathText_of_segments split] at member
  rcases List.mem_append.mp member with inName | inPath
  · exact isQuote_of_isWord (List.all_eq_true.mp (dotted name (by simp [split])).2 c inName)
  · exact isQuote_of_mem_pathText (dotted.areRuns split) inPath

end IsDotted

section

variable {scope : Variables} {path name : List Char} {parts : List (List Char)} {value : Value}

/-- A lookup of a variable finds its value. -/
theorem lookup?_of_whole (bound : Entries.get? (String.ofList path) scope.named = some value) :
    scope.lookup? path = .ok (some value) := by
  rw [Variables.lookup?, Variables.get?_eq_named, bound]

/-- A lookup of a path that is no variable follows its further parts into the variable that its
first part names. -/
theorem lookup?_of_split (split : segments path = name :: parts)
    (noVariable : Entries.get? (String.ofList path) scope.named = none)
    (bound : Entries.get? (String.ofList name) scope.named = some value) :
    scope.lookup? path = value.follow? parts := by
  rw [Variables.lookup?, Variables.get?_eq_named, noVariable]
  simp [show Text.splitAt '.' path = name :: parts from split, Value.follow?, Value.select?, bound]

theorem exists_of_isVariable {fields : Fields} (bound : isVariable fields name = true) :
    ∃ value, Entries.get? (String.ofList name) fields = some value :=
  Option.isSome_iff_exists.mp bound

/-- A condition that is a path led by its own name or by its first part is filled as a placeholder
with the path is, and fails with it. -/
theorem IsLed.substitute_eq (led : IsLed scope.named path)
    (distinct : (Entries.keys scope.named).Nodup)
    (renderable : ∀ entry ∈ scope.named, Json.checkWritable entry.2 = .ok ())
    (dotted : IsDotted path) :
    substitute scope.named path =
      (fun found => (found.map literal).getD path) <$> scope.lookup? path := by
  cases whole : Entries.get? (String.ofList path) scope.named with
  | some value =>
      have isWhole : path = path ++ pathText [] := (List.append_nil path).symm
      have first : StandsFirst scope.named path [] path value [] := by
        refine .of_front whole isWhole dotted.isWhole nofun ?_
        rintro other - ⟨rest, isText, -⟩
        simp [isText]
      rw [first.substitute_eq distinct renderable dotted.isPlain, lookup?_of_whole whole]
      rfl
  | none =>
      cases led with
      | whole bound => simp [isVariable, Entries.has, whole] at bound
      | first split bound longest =>
          obtain ⟨value, held⟩ := exists_of_isVariable bound
          have isPath := pathText_of_segments split
          have first := StandsFirst.of_front held isPath (dotted.isWhole_first split)
            (dotted.areRuns split) longest
          rw [first.substitute_eq distinct renderable dotted.isPlain,
            lookup?_of_split split whole held]
          simp only [List.nil_append, ← isPath]

/-- A condition that is a path in which nothing is put in stays. -/
theorem PutsNothing.substitute_eq {fields : Fields} (nothing : PutsNothing fields path)
    (distinct : (Entries.keys fields).Nodup)
    (renderable : ∀ entry ∈ fields, Json.checkWritable entry.2 = .ok ())
    (dotted : IsDotted path) : substitute fields path = .ok path := by
  cases nothing with
  | absent absent =>
      rw [substitute, substituteSpans_eq_fill _ (Closed.of_plain dotted.isPlain)]
      refine fill_of_absent (named_namesLongestFirst fields) dotted.isPlain ?_
      rintro ⟨other, held⟩ member
      obtain ⟨key, rfl, inVariables⟩ := exists_name_of_mem member
      exact absent key (List.mem_map_of_mem inVariables)
  | unresolved first nowhere =>
      rw [first.substitute_eq distinct renderable dotted.isPlain, nowhere, first.isPath]
      rfl

/-- A condition that is a path becomes the literal of what a placeholder finds there, where the
path is led by its own name or by its first part. Where a placeholder finds nothing there, it stays
as it is written if it is led so, and also if the name that stands first in it leads nowhere. -/
theorem substitute_path (distinct : (Entries.keys scope.named).Nodup)
    (renderable : ∀ entry ∈ scope.named, Json.checkWritable entry.2 = .ok ())
    (dotted : IsDotted path) :
    (∀ value, scope.lookup? path = .ok (some value) → IsLed scope.named path →
      substitute scope.named path = .ok (literal value)) ∧
    (scope.lookup? path = .ok none → IsLed scope.named path ∨ PutsNothing scope.named path →
      substitute scope.named path = .ok path) := by
  refine ⟨fun value found led => ?_, fun missing filled => ?_⟩
  · rw [led.substitute_eq distinct renderable dotted, found]
    rfl
  · rcases filled with led | nothing
    · rw [led.substitute_eq distinct renderable dotted, missing]
      rfl
    · exact nothing.substitute_eq distinct renderable dotted

theorem substitute_path_of_order :
    let scope : Variables := ⟨[(.text "order", .object [("lines", .list [.null, .object
      [("sku", .int 7)]])]), (.text "order.total", .int 12), (.text "lines", .object []),
      (.text "1", .bool true)]⟩
    let path := "order.lines.1.sku".toList
    let other := "cart.lines.1".toList
    ((Entries.keys scope.named).Nodup ∧
      ∀ entry ∈ scope.named, Json.checkWritable entry.2 = .ok ()) ∧
    (IsDotted path ∧ IsLed scope.named path ∧ scope.lookup? path = .ok (some (.int 7)) ∧
      substitute scope.named path = .ok (literal (.int 7))) ∧
    (IsDotted other ∧ PutsNothing scope.named other ∧ scope.lookup? other = .ok none ∧
      substitute scope.named other = .ok other) := by
  intro scope path other
  have distinct : (Entries.keys scope.named).Nodup := by decide +kernel
  have renderable : ∀ entry ∈ scope.named, Json.checkWritable entry.2 = .ok () := by
    rintro _ (_ | ⟨_, _ | ⟨_, _ | ⟨_, _ | ⟨_, ⟨⟩⟩⟩⟩⟩) <;> rfl
  have dotted : IsDotted path := by decide +kernel
  have found : scope.lookup? path = .ok (some (.int 7)) := by rfl
  have led : IsLed scope.named path := by
    refine @IsLed.first _ _ "order".toList ["lines".toList, "1".toList, "sku".toList] ?_ ?_ ?_ <;>
      decide +kernel
  have otherDotted : IsDotted other := by decide +kernel
  have missing : scope.lookup? other = .ok none := by rfl
  have nothing : PutsNothing scope.named other := by
    refine @PutsNothing.unresolved _ _ "cart.".toList "lines".toList (.object []) ["1".toList]
      ⟨?_, ?_, ?_, ?_, ?_, ?_⟩ rfl <;> first | rfl | decide +kernel
  exact ⟨⟨distinct, renderable⟩,
    ⟨dotted, led, found, (substitute_path distinct renderable dotted).1 _ found led⟩,
    ⟨otherDotted, nothing, missing,
      (substitute_path distinct renderable otherDotted).2 missing (.inr nothing)⟩⟩

/-- The condition finds a later name, and a longer name at the front that the path leads on from. A
longer name that it leads nowhere from hides the value that the placeholder finds. -/
theorem not_resolvesAlike :
    let path := "a.b.c".toList
    ∀ scope ∈ [(⟨[(.text "c", .int 1)]⟩ : Variables),
        ⟨[(.text "a.b", .object [("c", .int 1)])]⟩,
        ⟨[(.text "a.b", .object []), (.text "a", .object [("b", .object [("c", .int 1)])])]⟩],
      (Entries.keys scope.named).Nodup ∧
        (∀ entry ∈ scope.named, Json.checkWritable entry.2 = .ok ()) ∧
        IsDotted path ∧ ¬ResolvesAlike scope path := by
  intro path
  have dotted : IsDotted path := by decide +kernel
  simp only [List.forall_mem_cons, List.not_mem_nil, false_implies, implies_true, and_true]
  refine ⟨⟨?_, ?_, dotted, ?later⟩, ⟨?_, ?_, dotted, ?longer⟩, ?distinct, ?renderable, dotted,
    ?hidden⟩
  case later | longer =>
    intro alike
    have same := congrArg Except.toOption (alike.2 rfl)
    revert same
    decide +kernel
  case distinct => decide +kernel
  case renderable => rintro _ (_ | ⟨_, _ | ⟨_, ⟨⟩⟩⟩) <;> rfl
  case hidden =>
    intro alike
    have nothing : PutsNothing _ path := @PutsNothing.unresolved
      [("a.b", .object []), ("a", .object [("b", .object [("c", .int 1)])])] path []
      "a.b".toList (.object []) ["c".toList] ⟨rfl, rfl, by decide +kernel, by decide +kernel,
        by decide +kernel, by decide +kernel⟩ rfl
    have stays := nothing.substitute_eq (by decide +kernel)
      (by rintro _ (_ | ⟨_, _ | ⟨_, ⟨⟩⟩⟩) <;> rfl) dotted
    have same := Except.ok.inj (stays.symm.trans (alike.1 (.int 1) rfl))
    revert same
    decide +kernel
  all_goals first | decide +kernel | rintro _ (_ | ⟨_, ⟨⟩⟩); rfl

end

end Condition

end Automation
