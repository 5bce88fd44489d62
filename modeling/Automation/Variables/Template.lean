import Automation.Value.Printing
import Automation.Variables.Basic

/-!
Texts with placeholders.

A placeholder is a pair of opening braces, a content without braces that is not empty, and a pair
of closing braces. Its name is the content without the blanks around it; a content of blanks only
is named by its last blank. A text that is one placeholder becomes the value of the variable, with
its type; in any other text placeholders become text. What is not found stays as it is written.
-/

namespace Automation

/-- A part of a text: a character, or a placeholder with its content. -/
inductive TemplatePart where
  | character (c : Char)
  | placeholder (content : List Char)
  deriving DecidableEq, Repr

namespace Template

/-- Braces have no place in a placeholder's content. -/
def isBrace (c : Char) : Bool := c == '\x7b' || c == '\x7d'

/-- The content of the placeholder at the front of a text, and what follows. -/
def readPlaceholder? (text : List Char) : Option (List Char × List Char) :=
  match text with
  | '\x7b' :: '\x7b' :: rest =>
      match rest.takeWhile (!isBrace ·), rest.dropWhile (!isBrace ·) with
      | [], _ => none
      | content, '\x7d' :: '\x7d' :: after => some (content, after)
      | _, _ => none
  | _ => none

/-- The parts of a text, at most `fuel` of them. -/
def partsWithin : (fuel : Nat) → List Char → List TemplatePart
  | fuel + 1, c :: rest =>
      match readPlaceholder? (c :: rest) with
      | some (content, after) => .placeholder content :: partsWithin fuel after
      | none => .character c :: partsWithin fuel rest
  | _, _ => []

/-- The parts of a text, leftmost placeholders first. -/
def parts (text : List Char) : List TemplatePart := partsWithin text.length text

/-- A placeholder as it is written. -/
def placeholderText (content : List Char) : List Char :=
  '\x7b' :: '\x7b' :: content ++ ['\x7d', '\x7d']

/-- The name in a placeholder. -/
def placeholderName (content : List Char) : List Char :=
  match Text.trim content with
  | [] => content.drop (content.length - 1)
  | name => name

/-- The name of the placeholder that a text is as a whole, blanks around it aside. -/
def wholeName? (text : List Char) : Option (List Char) :=
  match readPlaceholder? (Text.trim text) with
  | some (content, []) => some (placeholderName content)
  | _ => none

end Template

namespace Variables

/-- The text that a placeholder becomes: nothing for null. A value is printed. -/
def placeholderValue (scope : Variables) (content : List Char) :
    Except Failure (List Char) := do
  match ← scope.lookup? (Template.placeholderName content) with
  | none => .ok (Template.placeholderText content)
  | some .null => .ok []
  | some value => String.toList <$> value.print

/-- The parts of a text with the placeholders filled. -/
def fill (scope : Variables) : List TemplatePart → Except Failure (List Char)
  | [] => .ok []
  | .character c :: rest => do .ok (c :: (← fill scope rest))
  | .placeholder content :: rest => do
      let value ← placeholderValue scope content
      .ok (value ++ (← fill scope rest))

/-- A text with the placeholders filled. -/
def resolveText (scope : Variables) (text : String) : Except Failure Value :=
  match Template.wholeName? text.toList with
  | some name => do .ok ((← scope.lookup? name).getD (.text text))
  | none => Value.ofChars <$> fill scope (Template.parts text.toList)

mutual

/-- A value with the placeholders of all texts in it filled. Names of fields are left alone. -/
def resolve (scope : Variables) : Value → Except Failure Value
  | .text characters => resolveText scope characters
  | .list items => Value.list <$> resolveItems scope items
  | .object fields => Value.object <$> resolveFields scope fields
  | .mapping bindings => Value.mapping <$> resolveBindings scope bindings
  | value => .ok value

/-- The items of a list with their placeholders filled. -/
def resolveItems (scope : Variables) : List Value → Except Failure (List Value)
  | [] => .ok []
  | item :: rest => do
      let resolved ← resolve scope item
      .ok (resolved :: (← resolveItems scope rest))

/-- The fields of an object with their placeholders filled. -/
def resolveFields (scope : Variables) :
    List (String × Value) → Except Failure (List (String × Value))
  | [] => .ok []
  | (name, value) :: rest => do
      let resolved ← resolve scope value
      .ok ((name, resolved) :: (← resolveFields scope rest))

/-- The bindings of a mapping with their placeholders filled. -/
def resolveBindings (scope : Variables) :
    List (Value × Value) → Except Failure (List (Value × Value))
  | [] => .ok []
  | (name, value) :: rest => do
      let resolved ← resolve scope value
      .ok ((name, resolved) :: (← resolveBindings scope rest))

end

end Variables
end Automation
