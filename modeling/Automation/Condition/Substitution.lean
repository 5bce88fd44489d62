import Automation.Condition.Literal
import Automation.Value.Path

/-!
Putting the values of variables into the text of a condition.

Names are whole words outside of quoted text, longer names before shorter ones. A dotted path
after a name is followed into the value; a path that leads nowhere stays as it is written. Every
value is put in as a literal.
-/

namespace Automation.Condition

/-- A part of a condition: quoted text, or text between quoted texts. -/
inductive Span where
  | plain (text : List Char)
  | quoted (text : List Char)
  deriving DecidableEq, Repr

/-- The rest of a quoted text, its closing quote included, and what follows. A backslash takes the
next character with it, which must not be a line end. -/
def closeQuote (quote : Char) : List Char → Option (List Char × List Char)
  | [] => none
  | '\\' :: [] => none
  | '\\' :: c :: rest =>
      if c = '\n' then none
      else (closeQuote quote rest).map fun found => ('\\' :: c :: found.1, found.2)
  | c :: rest =>
      if c = quote then some ([c], rest)
      else (closeQuote quote rest).map fun found => (c :: found.1, found.2)

/-- Put a character in front of the spans of a text. -/
def consPlain (c : Char) : List Span → List Span
  | .plain text :: spans => .plain (c :: text) :: spans
  | spans => .plain [c] :: spans

/-- The spans of a text. A quote that is never closed is plain text. -/
def spansWithin : (fuel : Nat) → List Char → List Span
  | _, [] => []
  | 0, _ :: _ => []
  | fuel + 1, c :: rest =>
      if isQuote c then
        match closeQuote c rest with
        | some (text, after) => .quoted (c :: text) :: spansWithin fuel after
        | none => consPlain c (spansWithin fuel rest)
      else consPlain c (spansWithin fuel rest)

/-- The spans of a text. -/
def spans (text : List Char) : List Span := spansWithin text.length text

/-- Whether a word starts or ends between two neighbours. -/
def isBoundary (before after : Option Char) : Bool :=
  before.any Text.isWord != after.any Text.isWord

/-- The dotted parts at the front of a text, and the rest. -/
def takePath : (fuel : Nat) → List Char → List (List Char) × List Char
  | fuel + 1, '.' :: rest =>
      match rest.takeWhile Text.isWord with
      | [] => ([], '.' :: rest)
      | part =>
          match takePath fuel (rest.dropWhile Text.isWord) with
          | (parts, after) => (part :: parts, after)
  | _, text => ([], text)

/-- A path as it is written. -/
def pathText (parts : List (List Char)) : List Char := parts.flatMap fun part => '.' :: part

/-- The variables of a condition, longest names first. -/
def namesLongestFirst (scope : Fields) : List (List Char × Value) :=
  ((scope.filter fun entry => entry.1 ≠ "").map fun entry =>
    (entry.1.toList, entry.2)).mergeSort fun left right => right.1.length ≤ left.1.length

/-- The variable whose name stands at the front of a text as a whole word, and what follows. -/
def matchName? (scope : List (List Char × Value)) (text : List Char) :
    Option (List Char × Value × List Char) :=
  scope.findSome? fun (name, value) =>
    match Json.dropWord? name text with
    | some after =>
        if isBoundary name.getLast? after.head? then some (name, value, after) else none
    | none => none

/-- The text that stands for a name and a path. -/
def replacement (name : List Char) (value : Value) (parts : List (List Char)) :
    Except Failure (List Char) := do
  match ← value.follow? parts with
  | some found => do
      Json.checkWritable found
      .ok (literal found)
  | none => .ok (name ++ pathText parts)

/-- Plain text with the variables put in. `before` is the character in front of the text. -/
def substitutePlain (scope : List (List Char × Value)) :
    (fuel : Nat) → (before : Option Char) → List Char → Except Failure (List Char)
  | _, _, [] => .ok []
  | 0, _, text => .ok text
  | fuel + 1, before, c :: rest =>
      match if isBoundary before (some c) then matchName? scope (c :: rest) else none with
      | some (name, value, after) => do
          let (parts, last) := takePath after.length after
          let put ← replacement name value parts
          let further ←
            substitutePlain scope fuel ((name ++ pathText parts).getLast?) last
          .ok (put ++ further)
      | none => do
          let further ← substitutePlain scope fuel (some c) rest
          .ok (c :: further)

/-- One span with the variables put in. -/
def substituteSpan (scope : List (List Char × Value)) : Span → Except Failure (List Char)
  | .plain text => substitutePlain scope text.length none text
  | .quoted text => .ok text

/-- The spans of a condition with the variables put in. -/
def substituteSpans (scope : List (List Char × Value)) :
    List Span → Except Failure (List Char)
  | [] => .ok []
  | span :: rest => do
      let text ← substituteSpan scope span
      let further ← substituteSpans scope rest
      .ok (text ++ further)

/-- A condition with the variables put in. -/
def substitute (scope : Fields) (text : List Char) : Except Failure (List Char) :=
  substituteSpans (namesLongestFirst scope) (spans text)

end Automation.Condition
