import Automation.Text.Case
import Automation.Text.Character

/-!
Patterns of text.

A pattern is a sequence of runs. A run takes as many characters of its class as it can, within its
bounds, and gives none of them back. Patterns ignore case.
-/

namespace Automation.Logging

/-- A run of characters of one class, at least so many and at most so many. -/
structure Run where
  accepts : Char → Bool
  least : Nat
  greatest : Option Nat

/-- Runs that follow each other. -/
abbrev Pattern := List Run

namespace Run

/-- One character of a class. -/
def one (accepts : Char → Bool) : Run := ⟨accepts, 1, some 1⟩

/-- At most one character of a class. -/
def atMostOne (accepts : Char → Bool) : Run := ⟨accepts, 0, some 1⟩

/-- Any number of characters of a class. -/
def many (accepts : Char → Bool) : Run := ⟨accepts, 0, none⟩

/-- At least so many characters of a class. -/
def atLeast (least : Nat) (accepts : Char → Bool) : Run := ⟨accepts, least, none⟩

/-- Exactly so many characters of a class. -/
def exactly (count : Nat) (accepts : Char → Bool) : Run := ⟨accepts, count, some count⟩

/-- The number of characters of a class at the front of a text, up to a bound, and what follows
them. -/
def takeUpTo (accepts : Char → Bool) : (greatest : Option Nat) → List Char → Nat × List Char
  | some 0, text => (0, text)
  | greatest, c :: rest =>
      if accepts c then
        match takeUpTo accepts (greatest.map (· - 1)) rest with
        | (count, after) => (count + 1, after)
      else (0, c :: rest)
  | _, [] => (0, [])

/-- The number of characters that a run takes from the front of a text, and what follows them. -/
def takeFront? (run : Run) (text : List Char) : Option (Nat × List Char) :=
  match takeUpTo run.accepts run.greatest text with
  | (count, after) => if count < run.least then none else some (count, after)

end Run

namespace Pattern

/-- A character, in either case. -/
def letter (wanted : Char) : Run := .one fun c => Text.fold c == Text.fold wanted

/-- A word, in either case. -/
def word (wanted : String) : Pattern := wanted.toList.map letter

/-- The number of characters of a match at the front of a text, and what follows them. -/
def takeFront? : Pattern → List Char → Option (Nat × List Char)
  | [], text => some (0, text)
  | run :: runs, text => do
      let (count, after) ← run.takeFront? text
      let (others, last) ← takeFront? runs after
      some (count + others, last)

/-- A text with every match replaced, from the left to the right. A match of no characters is no
match. Every turn takes at least one character, so `fuel` may be the length of the text. -/
def replaceWithin (pattern : Pattern) (replacement : List Char) :
    (fuel : Nat) → List Char → List Char
  | fuel + 1, c :: text =>
      match takeFront? pattern (c :: text) with
      | some (_ + 1, after) => replacement ++ replaceWithin pattern replacement fuel after
      | _ => c :: replaceWithin pattern replacement fuel text
  | _, text => text

/-- A text with every match replaced. -/
def replace (pattern : Pattern) (replacement : String) (text : List Char) : List Char :=
  replaceWithin pattern replacement.toList text.length text

/-- The class of characters at the front of a pattern that is given as text, and what follows. -/
def readClass : List Char → Option ((Char → Bool) × List Char)
  | [] => none
  | '\\' :: 'd' :: rest => some (Text.isDecimal, rest)
  | '\\' :: 'w' :: rest => some (Text.isWord, rest)
  | '\\' :: 's' :: rest => some (Text.isBlank, rest)
  | '\\' :: c :: rest => some ((letter c).accepts, rest)
  | '.' :: rest => some ((· != '\n'), rest)
  | c :: rest => some ((letter c).accepts, rest)

/-- The number at the front of a text, and what follows. -/
def readCount (text : List Char) : Nat × List Char :=
  ((text.takeWhile Char.isDigit).foldl (fun count c => 10 * count + (c.toNat - '0'.toNat)) 0,
    text.dropWhile Char.isDigit)

/-- The bounds after a class, and what follows; without bounds it stands for one character. -/
def readBounds : List Char → (Nat × Option Nat) × List Char
  | '+' :: rest => ((1, none), rest)
  | '*' :: rest => ((0, none), rest)
  | '?' :: rest => ((0, some 1), rest)
  | '\x7b' :: rest =>
      match readCount rest with
      | (least, '\x7d' :: after) => ((least, some least), after)
      | (least, ',' :: '\x7d' :: after) => ((least, none), after)
      | (least, ',' :: more) =>
          match readCount more with
          | (greatest, '\x7d' :: after) => ((least, some greatest), after)
          | _ => ((1, some 1), '\x7b' :: rest)
      | _ => ((1, some 1), '\x7b' :: rest)
  | text => ((1, some 1), text)

/-- The pattern that a text denotes, of at most `fuel` runs. -/
def readWithin : (fuel : Nat) → List Char → Pattern
  | 0, _ => []
  | fuel + 1, text =>
      match readClass text with
      | none => []
      | some (accepts, rest) =>
          match readBounds rest with
          | ((least, greatest), after) => ⟨accepts, least, greatest⟩ :: readWithin fuel after

/-- The pattern that a text denotes: characters and classes of characters, each with bounds. -/
def read (text : String) : Pattern := readWithin text.length text.toList

end Pattern
end Automation.Logging
