import Automation.Proofs.Fallible
import Automation.Proofs.Value.Path
import Automation.Proofs.Variables.Resolution

/-!
What the filling of placeholders makes of a text.

An outline is a text taken apart by hand: what stands in front, and placeholders with what stands
behind each. Reading the text from the left finds the placeholders of the outline and no others, so
an outline is filled piece by piece, from what its names lead to.
-/

namespace Automation

namespace Template

/-- A text without braces. -/
def IsPlain (text : List Char) : Prop := ∀ c ∈ text, isBrace c = false

section Reading

variable {content after rest text : List Char} {c : Char}

theorem readPlaceholder?_placeholderText (nonempty : content ≠ []) (plain : IsPlain content)
    (after : List Char) :
    readPlaceholder? (placeholderText content ++ after) = some (content, after) := by
  have inside : ∀ c ∈ content, (!isBrace c) = true := fun c member => by simp [plain c member]
  have ends : ∀ c ∈ ('\x7d' :: '\x7d' :: after).head?, (!isBrace c) = false := by
    rintro c ⟨⟩
    decide
  have written : placeholderText content ++ after =
      '\x7b' :: '\x7b' :: (content ++ '\x7d' :: '\x7d' :: after) := by
    simp [placeholderText]
  rw [written]
  simp only [readPlaceholder?, Text.takeWhile_run inside ends, Text.dropWhile_run inside ends]

theorem of_readPlaceholder? (read : readPlaceholder? text = some (content, after)) :
    content ≠ [] ∧ IsPlain content ∧ text = placeholderText content ++ after := by
  revert read
  fun_cases readPlaceholder? text
  case case2 rest after' stops nonempty =>
    rintro ⟨⟩
    refine ⟨nonempty, fun c member => ?_, ?_⟩
    · simpa using Text.mem_takeWhile member
    · simp [placeholderText, ← stops]
  all_goals exact nofun

theorem readPlaceholder?_of_not_isBrace (plain : isBrace c = false) :
    readPlaceholder? (c :: rest) = none := by
  unfold readPlaceholder?
  split
  · next same =>
      obtain ⟨rfl, -⟩ := List.cons.inj same
      cases plain
  · rfl

theorem partsWithin_plain (plain : IsPlain text) {fuel : Nat}
    (enough : (text ++ rest).length ≤ fuel) :
    partsWithin fuel (text ++ rest) =
      text.map .character ++ partsWithin (fuel - text.length) rest := by
  induction text generalizing fuel with
  | nil => simp
  | cons c others inductionHypothesis =>
      obtain ⟨cPlain, plain⟩ := List.forall_mem_cons.mp plain
      cases fuel with
      | zero => simp at enough
      | succ fuel =>
          rw [List.cons_append, partsWithin, readPlaceholder?_of_not_isBrace cPlain]
          simp only [List.map_cons, List.cons_append, List.length_cons, Nat.add_sub_add_right]
          rw [inductionHypothesis plain (by simpa using enough)]

theorem partsWithin_placeholder (nonempty : content ≠ []) (plain : IsPlain content) (fuel : Nat) :
    partsWithin (fuel + 1) (placeholderText content ++ rest) =
      .placeholder content :: partsWithin fuel rest := by
  have read := readPlaceholder?_placeholderText nonempty plain rest
  simp only [placeholderText, List.cons_append] at read ⊢
  rw [partsWithin, read]

end Reading

/-- A placeholder, and the text up to the next one. -/
structure Span where
  content : List Char
  behind : List Char
  content_ne_nil : content ≠ []
  content_plain : IsPlain content
  behind_plain : IsPlain behind

/-- A text as placeholders and the pieces of text around them. -/
structure Outline where
  front : List Char
  spans : List Span
  front_plain : IsPlain front

namespace Span

variable (span : Span)

/-- A span as it is written. -/
def text : List Char := placeholderText span.content ++ span.behind

/-- The name in a span. -/
def name : List Char := placeholderName span.content

def parts : List TemplatePart := .placeholder span.content :: span.behind.map .character

/-- The text that a placeholder becomes when its name leads to a value: nothing for null. If it
leads to none, the placeholder stays. -/
def shown : Option Value → List Char
  | none => placeholderText span.content
  | some .null => []
  | some value => value.displayed

/-- A span with its placeholder filled. -/
def filled (value : Option Value) : List Char := span.shown value ++ span.behind

/-- The name is the content without the blanks around it, unless it is all blanks. -/
theorem name_eq_trim (named : ∃ c ∈ span.content, Text.isBlank c = false) :
    span.name = Text.trim span.content := by
  obtain ⟨c, member, visible⟩ := named
  have named := Text.trim_ne_nil_of_mem member visible
  unfold name placeholderName
  split
  · next blank => exact absurd blank named
  · rfl

end Span

theorem partsWithin_spans (spans : List Span) {fuel : Nat}
    (enough : (spans.flatMap Span.text).length ≤ fuel) :
    partsWithin fuel (spans.flatMap Span.text) = spans.flatMap Span.parts := by
  induction spans generalizing fuel with
  | nil => cases fuel <;> rfl
  | cons span rest inductionHypothesis =>
      cases fuel with
      | zero => simp [Span.text, placeholderText] at enough
      | succ fuel =>
          have left : (span.behind ++ rest.flatMap Span.text).length ≤ fuel := by
            simp only [List.flatMap_cons, Span.text, placeholderText, List.length_append,
              List.length_cons] at enough ⊢
            omega
          have further : (rest.flatMap Span.text).length ≤ fuel - span.behind.length := by
            rw [List.length_append] at left
            omega
          rw [List.flatMap_cons, Span.text, List.append_assoc,
            partsWithin_placeholder span.content_ne_nil span.content_plain,
            partsWithin_plain span.behind_plain left, inductionHypothesis further,
            List.flatMap_cons, Span.parts, List.cons_append]

namespace Outline

variable (outline : Outline)

/-- An outline as it is written. -/
def text : List Char := outline.front ++ outline.spans.flatMap Span.text

def parts : List TemplatePart :=
  outline.front.map .character ++ outline.spans.flatMap Span.parts

/-- The placeholders that are found in the text of an outline are those of the outline. -/
theorem parts_text : Template.parts outline.text = outline.parts := by
  rw [Template.parts, text, partsWithin_plain outline.front_plain (Nat.le_refl _),
    partsWithin_spans _ (by simp), parts]

theorem parts_surrounded {front content behind : List Char} (nonempty : content ≠ [])
    (plain : IsPlain content) (frontPlain : IsPlain front) (behindPlain : IsPlain behind) :
    Template.parts (front ++ placeholderText content ++ behind) =
      front.map .character ++ .placeholder content :: behind.map .character := by
  have found := parts_text ⟨front, [⟨content, behind, nonempty, plain, behindPlain⟩], frontPlain⟩
  simpa [text, parts, Span.text, Span.parts] using found

/-- Whether an outline is one placeholder with nothing but blanks around it. -/
def isWhole : Bool :=
  match outline.spans with
  | [span] => outline.front.all Text.isBlank && span.behind.all Text.isBlank
  | _ => false

/-- A part of a text that is more than a blank. -/
def isMark : TemplatePart → Bool
  | .character c => !Text.isBlank c
  | .placeholder _ => true

theorem filter_characters (text : List Char) :
    (text.map TemplatePart.character).filter isMark =
      (text.filter (!Text.isBlank ·)).map .character := List.filter_map

theorem filter_of_blank {text : List Char} (blank : text.all Text.isBlank = true) :
    (text.map TemplatePart.character).filter isMark = [] := by
  rw [filter_characters, List.map_eq_nil_iff]
  simpa using blank

theorem filter_span (span : Span) : span.parts.filter isMark =
    .placeholder span.content :: (span.behind.filter (!Text.isBlank ·)).map .character := by
  rw [Span.parts, List.filter_cons_of_pos rfl, filter_characters]

theorem isWhole_of_filter (content : List Char)
    (marks : outline.parts.filter isMark = [.placeholder content]) :
    outline.isWhole = true := by
  obtain ⟨front, spans, plain⟩ := outline
  simp only [parts, List.filter_append, filter_characters] at marks
  rcases spans with _ | ⟨span, _ | ⟨other, rest⟩⟩
  · cases visible : front.filter (!Text.isBlank ·) <;> simp [visible] at marks
  · rw [List.flatMap_singleton, filter_span] at marks
    have inFront : front.filter (!Text.isBlank ·) = [] := by
      cases visible : front.filter (!Text.isBlank ·) <;> simp [visible] at marks ⊢
    rw [inFront, List.map_nil, List.nil_append, List.cons.injEq, List.map_eq_nil_iff] at marks
    simpa [isWhole] using And.intro inFront marks.2
  · have two := congrArg List.length marks
    simp only [List.flatMap_cons, List.filter_append, filter_span, List.length_append,
      List.length_cons, List.length_nil] at two
    omega

theorem isWhole_iff : outline.isWhole = true ↔ ∃ span, outline.spans = [span] ∧
    outline.front.all Text.isBlank = true ∧ span.behind.all Text.isBlank = true := by
  unfold isWhole
  split
  · next span one => simp [one]
  · next other => simpa using fun span one _ => absurd one (other span)

theorem isPlain_of_blank {text : List Char} (blank : text.all Text.isBlank = true) :
    IsPlain text := by
  intro c member
  have blank : Text.isBlank c = true := List.all_eq_true.mp blank c member
  cases brace : isBrace c with
  | false => rfl
  | true =>
      simp only [isBrace, Bool.or_eq_true, beq_iff_eq] at brace
      rcases brace with rfl | rfl <;> cases blank

/-- The name of an outline that is one placeholder as a whole. -/
theorem wholeName?_of_isWhole {span : Span} (one : outline.spans = [span])
    (whole : outline.isWhole = true) : wholeName? outline.text = some span.name := by
  obtain ⟨_, same, front, behind⟩ := outline.isWhole_iff.mp whole
  obtain rfl := List.singleton_inj.mp (one.symm.trans same)
  have trimmed : Text.trim outline.text = placeholderText span.content := by
    rw [text, one, List.flatMap_singleton, Span.text, ← List.append_assoc]
    exact Text.trim_surrounded front behind ⟨'\x7b', rfl, by decide⟩
      ⟨'\x7d', List.getLast?_append, by decide⟩
  have read := readPlaceholder?_placeholderText span.content_ne_nil span.content_plain []
  rw [List.append_nil] at read
  rw [wholeName?, trimmed, read, Span.name]

theorem wholeName?_of_not_isWhole (other : outline.isWhole = false) :
    wholeName? outline.text = none := by
  unfold wholeName?
  split
  · next content read =>
      obtain ⟨nonempty, plain, trimmed⟩ := of_readPlaceholder? read
      obtain ⟨front, behind, frontBlank, behindBlank, surrounded⟩ :=
        Text.exists_append_trim outline.text
      have found : outline.parts =
          front.map .character ++ .placeholder content :: behind.map .character := by
        rw [← outline.parts_text, surrounded, trimmed, List.append_nil,
          parts_surrounded nonempty plain (isPlain_of_blank frontBlank)
            (isPlain_of_blank behindBlank)]
      have marks : outline.parts.filter isMark = [.placeholder content] := by
        rw [found, List.filter_append, List.filter_cons_of_pos rfl, filter_of_blank frontBlank,
          filter_of_blank behindBlank, List.nil_append]
      rw [outline.isWhole_of_filter content marks] at other
      cases other
  · rfl

/-- What an outline becomes when its names lead to the given values. One placeholder as a whole
becomes its value; else the pieces are put together, and values are not looked into. -/
def filled (values : List (Option Value)) : Value :=
  if outline.isWhole then values.head?.join.getD (.ofChars outline.text)
  else .ofChars (outline.front ++ (List.zipWith Span.filled outline.spans values).flatten)

end Outline

end Template

namespace Value

mutual

/-- The texts in a value, in the order in which they stand. Names are none of them. -/
def texts : Value → List String
  | .text characters => [characters]
  | .list items => itemTexts items
  | .object fields => fieldTexts fields
  | .mapping bindings => bindingTexts bindings
  | _ => []

/-- The texts in the items of a list. -/
def itemTexts : List Value → List String
  | [] => []
  | item :: rest => item.texts ++ itemTexts rest

/-- The texts in the fields of an object. -/
def fieldTexts : List (String × Value) → List String
  | [] => []
  | (_, value) :: rest => value.texts ++ fieldTexts rest

/-- The texts in the bindings of a mapping. -/
def bindingTexts : List (Value × Value) → List String
  | [] => []
  | (_, value) :: rest => value.texts ++ bindingTexts rest

end

mutual

/-- A value with every text in it replaced. Everything else stays as it is and where it is. -/
def replaceTexts (replacement : String → Value) : Value → Value
  | .text characters => replacement characters
  | .list items => .list (replaceItems replacement items)
  | .object fields => .object (replaceFields replacement fields)
  | .mapping bindings => .mapping (replaceBindings replacement bindings)
  | value => value

/-- The items of a list with every text in them replaced. -/
def replaceItems (replacement : String → Value) : List Value → List Value
  | [] => []
  | item :: rest => item.replaceTexts replacement :: replaceItems replacement rest

/-- The fields of an object with every text in their values replaced. -/
def replaceFields (replacement : String → Value) : List (String × Value) → List (String × Value)
  | [] => []
  | (name, value) :: rest =>
      (name, value.replaceTexts replacement) :: replaceFields replacement rest

/-- The bindings of a mapping with every text in their values replaced. -/
def replaceBindings (replacement : String → Value) : List (Value × Value) → List (Value × Value)
  | [] => []
  | (name, value) :: rest =>
      (name, value.replaceTexts replacement) :: replaceBindings replacement rest

end

end Value

namespace Variables

variable (scope : Variables)

section Texts

open Template

theorem fill_characters (text : List Char) (rest : List TemplatePart) :
    scope.fill (text.map .character ++ rest) = (text ++ ·) <$> scope.fill rest := by
  induction text with
  | nil => cases filled : scope.fill rest <;> simp [filled]
  | cons c others inductionHypothesis =>
      rw [List.map_cons, List.cons_append, fill, inductionHypothesis]
      cases scope.fill rest <;> rfl

/-- The value that a name leads to, if it leads to one, where the value is to be a text. -/
def lookupPrinted? (scope : Variables) (name : List Char) : Except Failure (Option Value) := do
  match ← scope.lookup? name with
  | none => .ok none
  | some value => do
      let _ ← value.print
      .ok (some value)

/-- The value that the name of a span leads to. It is to be a text, unless the placeholder is the
outline as a whole. -/
def found? (scope : Variables) (outline : Outline) (span : Span) : Except Failure (Option Value) :=
  if outline.isWhole then scope.lookup? span.name else scope.lookupPrinted? span.name

theorem placeholderValue_eq (span : Span) :
    scope.placeholderValue span.content = span.shown <$> scope.lookupPrinted? span.name := by
  rw [placeholderValue, lookupPrinted?, Span.name]
  rcases scope.lookup? (placeholderName span.content) with failure | _ | value
  · rfl
  · rfl
  · cases value with
    | null => rfl
    | _ =>
        simp only [ok_bind, Value.print]
        split <;> simp [Span.shown, Value.display]

theorem fill_span (span : Span) (rest : List TemplatePart) :
    scope.fill (span.parts ++ rest) = scope.lookupPrinted? span.name >>= fun value =>
      (span.filled value ++ ·) <$> scope.fill rest := by
  rw [Span.parts, List.cons_append, fill, fill_characters, placeholderValue_eq]
  cases scope.lookupPrinted? span.name with
  | error failure => rfl
  | ok value => cases scope.fill rest <;> simp [Span.filled]

theorem fill_spans (spans : List Span) : scope.fill (spans.flatMap Span.parts) =
    (fun values => (List.zipWith Span.filled spans values).flatten) <$>
      spans.mapM fun span => scope.lookupPrinted? span.name := by
  induction spans with
  | nil => rfl
  | cons span rest inductionHypothesis =>
      rw [List.flatMap_cons, fill_span, inductionHypothesis, List.mapM_cons]
      cases scope.lookupPrinted? span.name with
      | error failure => rfl
      | ok value =>
          rw [ok_bind, ok_bind]
          cases rest.mapM fun span => scope.lookupPrinted? span.name <;> rfl

theorem resolveText_outline (outline : Outline) :
    scope.resolveText (String.ofList outline.text) =
      outline.filled <$> outline.spans.mapM (scope.found? outline) := by
  rw [resolveText, String.toList_ofList]
  unfold found?
  cases whole : outline.isWhole with
  | true =>
      obtain ⟨span, one, -⟩ := outline.isWhole_iff.mp whole
      rw [outline.wholeName?_of_isWhole one whole, one, List.mapM_cons, List.mapM_nil]
      simp only [if_true]
      cases scope.lookup? span.name with
      | error failure => rfl
      | ok value => simp [Outline.filled, whole, Value.ofChars]
  | false =>
      rw [outline.wholeName?_of_not_isWhole whole, outline.parts_text, Outline.parts,
        fill_characters, fill_spans]
      simp only [Bool.false_eq_true, if_false]
      cases outline.spans.mapM fun span => scope.lookupPrinted? span.name with
      | error failure => rfl
      | ok values => simp [Outline.filled, whole]

end Texts

section Values

open Value

variable {scope : Variables} {value : Value} (replacement : String → Value)

/-- A replacement that gives what texts are resolved to. -/
def Agrees (scope : Variables) (replacement : String → Value) (texts : List String) : Prop :=
  ∀ text ∈ texts, ∀ result, scope.resolveText text = .ok result → replacement text = result

theorem agrees_append {replacement : String → Value} {first second : List String} :
    scope.Agrees replacement (first ++ second) ↔
      scope.Agrees replacement first ∧ scope.Agrees replacement second :=
  List.forall_mem_append

mutual

/-- The texts of a value are resolved one after the other, and nothing else is. -/
theorem resolve_eq : (value : Value) →
    scope.Agrees replacement value.texts →
    scope.resolve value =
      (fun _ => value.replaceTexts replacement) <$> value.texts.mapM scope.resolveText
  | .text characters, same => by
      rw [resolve, texts, List.mapM_cons, List.mapM_nil]
      cases resolved : scope.resolveText characters with
      | error failure => rfl
      | ok result =>
          obtain rfl := same characters List.mem_cons_self result resolved
          rfl
  | .list items, same => by
      rw [resolve, resolveItems_eq items same, texts]
      cases (itemTexts items).mapM scope.resolveText <;> rfl
  | .object fields, same => by
      rw [resolve, resolveFields_eq fields same, texts]
      cases (fieldTexts fields).mapM scope.resolveText <;> rfl
  | .mapping bindings, same => by
      rw [resolve, resolveBindings_eq bindings same, texts]
      cases (bindingTexts bindings).mapM scope.resolveText <;> rfl
  | .null, _ | .bool _, _ | .int _, _ | .float _, _ | .foreign _ _, _ => rfl

theorem resolveItems_eq : (items : List Value) →
    scope.Agrees replacement (itemTexts items) →
    scope.resolveItems items =
      (fun _ => replaceItems replacement items) <$> (itemTexts items).mapM scope.resolveText
  | [], _ => rfl
  | item :: rest, same => by
      rw [itemTexts, agrees_append] at same
      rw [resolveItems, resolve_eq item same.1, resolveItems_eq rest same.2, itemTexts,
        List.mapM_append]
      cases item.texts.mapM scope.resolveText <;>
        cases (itemTexts rest).mapM scope.resolveText <;> rfl

theorem resolveFields_eq : (fields : List (String × Value)) →
    scope.Agrees replacement (fieldTexts fields) →
    scope.resolveFields fields =
      (fun _ => replaceFields replacement fields) <$> (fieldTexts fields).mapM scope.resolveText
  | [], _ => rfl
  | (name, value) :: rest, same => by
      rw [fieldTexts, agrees_append] at same
      rw [resolveFields, resolve_eq value same.1, resolveFields_eq rest same.2, fieldTexts,
        List.mapM_append]
      cases value.texts.mapM scope.resolveText <;>
        cases (fieldTexts rest).mapM scope.resolveText <;> rfl

theorem resolveBindings_eq : (bindings : List (Value × Value)) →
    scope.Agrees replacement (bindingTexts bindings) →
    scope.resolveBindings bindings =
      (fun _ => replaceBindings replacement bindings) <$>
        (bindingTexts bindings).mapM scope.resolveText
  | [], _ => rfl
  | (name, value) :: rest, same => by
      rw [bindingTexts, agrees_append] at same
      rw [resolveBindings, resolve_eq value same.1, resolveBindings_eq rest same.2, bindingTexts,
        List.mapM_append]
      cases value.texts.mapM scope.resolveText <;>
        cases (bindingTexts rest).mapM scope.resolveText <;> rfl

end

/-- What texts are resolved to, as far as they are. -/
def rendered (scope : Variables) (text : String) : Value :=
  (scope.resolveText text).toOption.getD (.text text)

theorem rendered_of_resolveText {text : String} {result : Value}
    (resolved : scope.resolveText text = .ok result) : scope.rendered text = result := by
  rw [rendered, resolved, toOption_ok, Option.getD_some]

theorem resolve_eq_ok_iff {result : Value} : scope.resolve value = .ok result ↔
    ∃ replacement : String → Value,
      (∀ text ∈ value.texts, scope.resolveText text = .ok (replacement text))
        ∧ result = value.replaceTexts replacement := by
  constructor
  · intro resolved
    rw [resolve_eq scope.rendered value fun _ _ _ => rendered_of_resolveText,
      map_eq_ok_iff] at resolved
    obtain ⟨values, resolved, rfl⟩ := resolved
    refine ⟨scope.rendered, fun text member => ?_, rfl⟩
    obtain ⟨result, resolved⟩ := exists_mapM_eq_ok_iff.mp ⟨values, resolved⟩ text member
    rw [rendered_of_resolveText resolved, resolved]
  · rintro ⟨replacement, each, rfl⟩
    have agrees : scope.Agrees replacement value.texts := fun text member result resolved =>
      Except.ok.inj ((each text member).symm.trans resolved)
    obtain ⟨values, resolved⟩ :=
      exists_mapM_eq_ok_iff.mpr fun text member => ⟨_, each text member⟩
    rw [resolve_eq replacement value agrees, resolved, map_ok]

theorem resolve_eq_error_iff {failure : Failure} : scope.resolve value = .error failure ↔
    ∃ earlier text later, value.texts = earlier ++ text :: later
      ∧ (∀ other ∈ earlier, ∃ result, scope.resolveText other = .ok result)
      ∧ scope.resolveText text = .error failure := by
  rw [resolve_eq scope.rendered value fun _ _ _ => rendered_of_resolveText,
    ← mapM_eq_error_iff]
  cases value.texts.mapM scope.resolveText <;> simp

end Values

theorem exists_lookup? (scope : Variables) {path : List Char}
    (names : ∀ part ∈ Text.splitAt '.' path, ∃ position, Value.position? part = .ok position) :
    ∃ found, scope.lookup? path = .ok found := by
  unfold lookup?
  split
  · exact ⟨_, rfl⟩
  · exact Value.follow?_of_position? _ names

theorem lookupPrinted?_eq_error_iff {name : List Char} {failure : Failure} :
    scope.lookupPrinted? name = .error failure ↔ scope.lookup? name = .error failure ∨
      ∃ value, scope.lookup? name = .ok (some value) ∧ value.isPrintable = false ∧
        failure = .unprintableInteger := by
  unfold lookupPrinted?
  rcases scope.lookup? name with other | _ | value
  · simp
  · simp
  · simp [bind_eq_error_iff, Value.print_eq_error_iff]

/-- A text is filled in one pass over its placeholders, and fails over the first name that cannot be
looked up or that leads to a value which is to be a text and is not printed. A name can be looked up
unless a part of it has digits only and is no integer. The texts in any other value are filled one
after the other, and nothing else of the value is changed. -/
theorem resolve_fills (scope : Variables) :
    (∀ outline : Template.Outline, scope.resolve (.text (String.ofList outline.text)) =
        outline.filled <$> outline.spans.mapM (scope.found? outline))
      ∧ (∀ span : Template.Span, (∃ c ∈ span.content, Text.isBlank c = false) →
          span.name = Text.trim span.content)
      ∧ (∀ name failure, scope.lookupPrinted? name = .error failure ↔
          scope.lookup? name = .error failure ∨ ∃ value, scope.lookup? name = .ok (some value) ∧
            value.isPrintable = false ∧ failure = .unprintableInteger)
      ∧ (∀ path, FailsOnly Failure.IsUnreadable (scope.lookup? path))
      ∧ (∀ path, (∀ part ∈ Text.splitAt '.' path, ∃ position, Value.position? part = .ok position) →
          ∃ found, scope.lookup? path = .ok found)
      ∧ (∀ value result, scope.resolve value = .ok result ↔ ∃ replacement : String → Value,
          (∀ text ∈ value.texts, scope.resolve (.text text) = .ok (replacement text))
            ∧ result = value.replaceTexts replacement)
      ∧ ∀ value failure, scope.resolve value = .error failure ↔ ∃ earlier text later,
          value.texts = earlier ++ text :: later
            ∧ (∀ other ∈ earlier, ∃ result, scope.resolve (.text other) = .ok result)
            ∧ scope.resolve (.text text) = .error failure := by
  have resolve_text (text : String) : scope.resolve (.text text) = scope.resolveText text := by
    rw [resolve]
  simp only [resolve_text]
  exact ⟨scope.resolveText_outline, Template.Span.name_eq_trim,
    fun _ _ => scope.lookupPrinted?_eq_error_iff, scope.failsOnly_lookup?,
    fun _ => scope.exists_lookup?, fun _ _ => resolve_eq_ok_iff, fun _ _ => resolve_eq_error_iff⟩

/-- A superscript is a digit and no integer, so a placeholder that asks a list for it is not left as
it is written, though it leads to nothing. -/
theorem resolve_of_superscript :
    (create [("items", .list [.int 1])] .null).resolve (.text "\x7b\x7bitems.²\x7d\x7d") =
      .error (.notAnInteger "²") := by
  rfl

end Variables

end Automation
