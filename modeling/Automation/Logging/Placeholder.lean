import Automation.Text.Quoted

/-!
Placeholders of messages.

A message is a sequence of pieces: characters, and placeholders for arguments. A placeholder is a
percent sign, a name in parentheses, flags, a width, a precision after a point, a letter for the
size of a number, which has no meaning, and the letter of a conversion. Everything but the last
letter may be missing, and a star stands for an argument that gives the width or the precision. Two
percent signs are one character.
-/

namespace Automation.Logging

/-- Which argument a placeholder is for. -/
inductive Selector where
  | next
  | named (name : List Char)
  /-- A name without its closing parenthesis. -/
  | unclosed
  deriving DecidableEq, Repr

/-- A width or a precision. -/
inductive Extent where
  | unset
  | fixed (number : Nat)
  | argument
  deriving DecidableEq, Repr

/-- The flags of a placeholder: blanks go to the right, a sign or a blank stands before positive
numbers, the other form of a number, and zeros instead of blanks. -/
structure Flags where
  leftAligned : Bool
  signed : Bool
  blank : Bool
  alternate : Bool
  zeroFilled : Bool
  deriving DecidableEq, Repr

/-- A placeholder. Without a letter the message ends too early. `position` is where the letter
stands in the message. -/
structure Placeholder where
  selector : Selector
  flags : Flags
  width : Extent
  precision : Extent
  letter : Option Char
  position : Nat
  deriving DecidableEq, Repr

/-- A piece of a message. -/
inductive Piece where
  | plain (character : Char)
  | placeholder (placeholder : Placeholder)
  deriving DecidableEq, Repr

/-- The flags among characters. -/
def Flags.ofChars (characters : List Char) : Flags :=
  ⟨characters.contains '-', characters.contains '+', characters.contains ' ',
    characters.contains '#', characters.contains '0'⟩

/-- Characters that are flags. -/
def isFlag (c : Char) : Bool := ['-', '+', ' ', '#', '0'].contains c

/-- A name up to the parenthesis that closes it, and the rest; `depth` parentheses are open inside
the name. -/
def takeName? : (depth : Nat) → List Char → Option (List Char × List Char)
  | _, [] => none
  | 0, ')' :: rest => some ([], rest)
  | depth, c :: rest =>
      let inner := if c = '(' then depth + 1 else if c = ')' then depth - 1 else depth
      (takeName? inner rest).map fun (name, after) => (c :: name, after)

/-- The number that digits of ASCII denote. -/
def numberOf (digits : List Char) : Nat :=
  digits.foldl (fun value c => 10 * value + (c.toNat - '0'.toNat)) 0

/-- A width or a precision at the front of a text, and the rest. -/
def takeExtent : List Char → Extent × List Char
  | '*' :: rest => (.argument, rest)
  | text =>
      match text.takeWhile Char.isDigit with
      | [] => (.unset, text)
      | digits => (.fixed (numberOf digits), text.dropWhile Char.isDigit)

/-- A precision after its point at the front of a text, and the rest. A point alone is the
precision zero. -/
def takePrecision : List Char → Extent × List Char
  | '.' :: rest =>
      match takeExtent rest with
      | (.unset, after) => (.fixed 0, after)
      | found => found
  | text => (.unset, text)

/-- Drop the letter for the size of a number. -/
def dropSize : List Char → List Char
  | c :: rest => if c = 'h' ∨ c = 'l' ∨ c = 'L' then rest else c :: rest
  | [] => []

/-- The name of a placeholder at the front of a text, and the rest. -/
def takeSelector : List Char → Selector × List Char
  | '(' :: rest =>
      match takeName? 0 rest with
      | some (name, after) => (.named name, after)
      | none => (.unclosed, [])
  | text => (.next, text)

/-- The placeholder after a percent sign, and the rest. The message has `total` characters. -/
def Placeholder.read (total : Nat) (text : List Char) : Placeholder × List Char :=
  let (selector, afterName) := takeSelector text
  let (width, afterWidth) := takeExtent (afterName.dropWhile isFlag)
  let (precision, afterPrecision) := takePrecision afterWidth
  let last := dropSize afterPrecision
  (⟨selector, Flags.ofChars (afterName.takeWhile isFlag), width, precision, last.head?,
    total - last.length⟩, last.tail)

/-- What follows a name is shorter. -/
theorem length_takeName?_le {depth : Nat} {text name rest : List Char}
    (found : takeName? depth text = some (name, rest)) : rest.length ≤ text.length := by
  induction text generalizing depth name with
  | nil => simp [takeName?] at found
  | cons c text inductionHypothesis =>
      unfold takeName? at found
      split at found
      · contradiction
      · simp_all
      · rename_i heads
        obtain ⟨rfl, rfl⟩ := List.cons.inj heads
        obtain ⟨⟨inner, after⟩, foundInner, same⟩ := Option.map_eq_some_iff.mp found
        obtain ⟨-, rfl⟩ := Prod.mk.inj same
        exact Nat.le_succ_of_le (inductionHypothesis foundInner)

/-- What follows a selector is no longer. -/
theorem length_takeSelector_le (text : List Char) :
    (takeSelector text).2.length ≤ text.length := by
  unfold takeSelector
  split
  · split
    · rename_i found
      exact Nat.le_succ_of_le (length_takeName?_le found)
    · simp
  · simp

/-- What is left of a text without its front is no longer. -/
theorem length_dropWhile_le (test : Char → Bool) (text : List Char) :
    (text.dropWhile test).length ≤ text.length := (List.dropWhile_sublist test).length_le

/-- What follows a width is no longer. -/
theorem length_takeExtent_le (text : List Char) : (takeExtent text).2.length ≤ text.length := by
  unfold takeExtent
  split
  · simp
  · split
    · simp
    · exact length_dropWhile_le _ _

/-- What follows a precision is no longer. -/
theorem length_takePrecision_le (text : List Char) :
    (takePrecision text).2.length ≤ text.length := by
  unfold takePrecision
  split
  · rename_i rest
    have bound := length_takeExtent_le rest
    split
    · rename_i found
      rw [found] at bound
      exact Nat.le_succ_of_le bound
    · exact Nat.le_succ_of_le bound
  · simp

/-- What follows a size is no longer. -/
theorem length_dropSize_le (text : List Char) : (dropSize text).length ≤ text.length := by
  unfold dropSize
  split
  · split <;> simp
  · simp

/-- What follows a placeholder is no longer than what it was read from. -/
theorem Placeholder.length_read_le (total : Nat) (text : List Char) :
    (Placeholder.read total text).2.length ≤ text.length := by
  simp only [Placeholder.read, List.length_tail]
  have afterSize := length_dropSize_le
    (takePrecision (takeExtent ((takeSelector text).2.dropWhile isFlag)).2).2
  have afterPrecision := length_takePrecision_le
    (takeExtent ((takeSelector text).2.dropWhile isFlag)).2
  have afterWidth := length_takeExtent_le ((takeSelector text).2.dropWhile isFlag)
  have afterFlags := length_dropWhile_le isFlag (takeSelector text).2
  have afterName := length_takeSelector_le text
  omega

/-- The pieces of the rest of a message that has `total` characters. -/
def piecesOf (total : Nat) (text : List Char) : List Piece :=
  match text with
  | [] => []
  | '%' :: '%' :: rest => .plain '%' :: piecesOf total rest
  | '%' :: rest =>
      have _ := Placeholder.length_read_le total rest
      .placeholder (Placeholder.read total rest).1 :: piecesOf total (Placeholder.read total rest).2
  | c :: rest => .plain c :: piecesOf total rest
  termination_by text.length
  decreasing_by
    all_goals simp only [List.length_cons]
    all_goals omega

/-- The pieces of a message. -/
def pieces (message : List Char) : List Piece := piecesOf message.length message

end Automation.Logging
