import Automation.Failure
import Automation.Logging.Placeholder
import Automation.Number.Conversion
import Automation.Number.Precision
import Automation.Value.Printing

/-!
Messages with their arguments put in.

Arguments are taken in turn, and all of them have to be used; or they come by name. The letter of a
placeholder says how its argument is shown: as text (`s`, or `r` and `a` with texts in quotes), as
an integer (`d`, `o`, `x`), as a number of a given precision (`e`, `f`, `g`) or as one character
(`c`). A precision cuts a text off and fills an integer up with zeros.
-/

namespace Automation.Logging

/-- The arguments of a message. -/
inductive Arguments where
  | none
  | ordered (values : List Value)
  | byName (fields : Fields)
  deriving BEq, Repr, Inhabited

/-- The arguments that are left: a list, or an object of which `current` is the part in use. -/
inductive Supply where
  | inTurn (values : List Value)
  | byName (fields : Fields) (current : Option Value)
  deriving BEq, Repr

/-- A fault of a message and its arguments. -/
def mismatch (reason : String) : Failure := .messageArguments reason

/-- A fault in how a message is written. -/
def malformed (reason : String) : Failure := .raised "ValueError" reason

namespace Supply

/-- The next argument. -/
def take : Supply → Except Failure (Value × Supply)
  | .inTurn (value :: values) => .ok (value, .inTurn values)
  | .byName fields (some value) => .ok (value, .byName fields Option.none)
  | .inTurn [] | .byName _ Option.none =>
      .error (mismatch "not enough arguments for format string")

/-- Turn to the argument that a placeholder is for. -/
def select (supply : Supply) : Selector → Except Failure Supply
  | .next => .ok supply
  | selector =>
      match supply, selector with
      | .byName fields _, .named name =>
          match Entries.get? (String.ofList name) fields with
          | some value => .ok (.byName fields (some value))
          | Option.none => .error (.unknownKey (String.ofList name))
      | .byName _ _, _ => .error (malformed "incomplete format key")
      | .inTurn _, _ => .error (mismatch "format requires a mapping")

/-- An argument that stands for a width or a precision. -/
def takeInteger (supply : Supply) : Except Failure (Int × Supply) := do
  match ← supply.take with
  | (.int number, rest) => .ok (number, rest)
  | (.bool truth, rest) => .ok (if truth then 1 else 0, rest)
  | _ => .error (mismatch "* wants int")

end Supply

/-- The greatest width and the greatest precision that a message may name. -/
def widthLimit : Nat := Nat.pow 2 63 - 1
@[inherit_doc widthLimit]
def precisionLimit : Nat := Nat.pow 2 31 - 1

/-- The failure of an integer argument that is no width or precision. -/
def extentOverflow (word : String) : Failure :=
  .raised "OverflowError" s!"Python int too large to convert to C {word}"

/-- The width of a placeholder. One below zero means blanks to the right; the least one is none. -/
def widthOf (extent : Extent) (supply : Supply) : Except Failure (Option Int × Supply) := do
  match extent with
  | .unset => .ok (Option.none, supply)
  | .fixed number =>
      if number ≤ widthLimit then .ok (some number, supply) else .error (malformed "width too big")
  | .argument =>
      let (number, rest) ← supply.takeInteger
      if number = -(Nat.pow 2 63) then .ok (Option.none, rest)
      else if fitsWord number then .ok (some number, rest)
      else .error (extentOverflow "ssize_t")

/-- The precision of a placeholder. One below zero is zero. -/
def precisionOf (extent : Extent) (supply : Supply) : Except Failure (Option Nat × Supply) := do
  match extent with
  | .unset => .ok (Option.none, supply)
  | .fixed number =>
      if number ≤ precisionLimit then .ok (some number, supply)
      else .error (malformed "precision too big")
  | .argument =>
      let (number, rest) ← supply.takeInteger
      if -(precisionLimit : Int) - 1 ≤ number ∧ number ≤ precisionLimit then
        .ok (some number.toNat, rest)
      else .error (extentOverflow "int")

/-- What is shown of an argument: a sign, the mark of a base, and the rest. Zeros are filled in only
before the digits of numbers. -/
structure Shown where
  sign : List Char
  mark : List Char
  body : List Char
  isNumber : Bool
  deriving Repr

/-- An argument shown as text. -/
def Shown.text (precision : Option Nat) (text : List Char) : Shown :=
  ⟨[], [], match precision with
    | some count => text.take count
    | Option.none => text, false⟩

/-- The sign before a number. -/
def signOf (flags : Flags) (negative : Bool) : List Char :=
  if negative then ['-'] else if flags.signed then ['+'] else if flags.blank then [' '] else []

/-- A text in quotes with every character beyond ASCII escaped. -/
def asciiOnly (text : List Char) : List Char :=
  text.flatMap fun c =>
    if c.toNat < 0x80 then [c]
    else if c.toNat < 0x100 then '\\' :: 'x' :: Text.hex 2 c.toNat
    else if c.toNat < 0x10000 then '\\' :: 'u' :: Text.hex 4 c.toNat
    else '\\' :: 'U' :: Text.hex 8 c.toNat

/-- The base of an integer and the letter of its mark. -/
def baseOf (letter : Char) : Nat :=
  if letter = 'o' then 8 else if letter = 'x' ∨ letter = 'X' then 16 else 10

/-- An argument as an integer. Only the decimal form takes numbers of the other kind, whose
fraction is cut off. -/
def integerOf (letter : Char) (argument : Value) : Except Failure Int :=
  match argument with
  | .bool truth => .ok (if truth then 1 else 0)
  | .int number => .ok number
  | other =>
      if baseOf letter ≠ 10 then
        .error (mismatch s!"%{letter} format: an integer is required, not {other.kind}")
      else match other with
        | .float (.notANumber _) => .error .undefinedInteger
        | .float (.infinite _) => .error .infiniteInteger
        | .float number => .ok (number.truncate?.getD 0)
        | _ =>
            .error (mismatch s!"%{letter} format: a real number is required, not {other.kind}")

/-- Letters of ASCII in upper case where a conversion asks for it. -/
def cased (letter : Char) (text : List Char) : List Char :=
  if letter.isUpper then text.map Char.toUpper else text

/-- An integer in the base of its letter. Only its decimal digits can be too many. -/
def showInteger (flags : Flags) (precision : Option Nat) (letter : Char) (number : Int) :
    Except Failure Shown :=
  let count := precision.getD 0
  if precisionLimit - 3 < count then .error (.raised "OverflowError" "precision too large")
  else if baseOf letter = 10 && !Value.isPrintableInteger number then .error .unprintableInteger
  else
    let digits := cased letter (Nat.toDigits (baseOf letter) number.natAbs)
    let mark := if flags.alternate && baseOf letter != 10 then ['0', letter] else []
    .ok ⟨signOf flags (number < 0), mark, List.replicate (count - digits.length) '0' ++ digits,
      true⟩

/-- An argument as a double precision number. -/
def doubleOf (argument : Value) : Except Failure Binary64 :=
  match argument with
  | .bool _ | .int _ | .float _ => do
      match ← argument.toDouble? with
      | some number => .ok number
      | Option.none => .error .integerTooLarge
  | other => .error (mismatch s!"must be real number, not {other.kind}")

/-- The layout that a letter asks for. -/
def styleOf? (letter : Char) : Option PrecisionStyle :=
  if letter = 'e' ∨ letter = 'E' then some .exponential
  else if letter = 'f' ∨ letter = 'F' then some .positional
  else if letter = 'g' ∨ letter = 'G' then some .general
  else Option.none

/-- A number of a given precision, six where none is given. -/
def showDouble (flags : Flags) (precision : Option Nat) (letter : Char) (style : PrecisionStyle)
    (number : Binary64) : Shown :=
  let magnitude := if number.isNegative then number.neg else number
  ⟨signOf flags number.isNegative, [],
    cased letter (magnitude.textWithPrecision style flags.alternate (precision.getD 6)), true⟩

/-- An argument as one character: a text of one character, or the number of one. -/
def characterOf (argument : Value) : Except Failure Char :=
  let ofCode (code : Int) : Except Failure Char :=
    if 0 ≤ code ∧ code < 0x110000 then
      .ok (if 0xd800 ≤ code ∧ code < 0xe000 then '\ufffd' else Char.ofNat code.toNat)
    else .error (.raised "OverflowError" "%c arg not in range(0x110000)")
  match argument with
  | .int code => ofCode code
  | .bool truth => ofCode (if truth then 1 else 0)
  | .text characters =>
      match characters.toList with
      | [c] => .ok c
      | _ => .error (mismatch "%c requires int or char")
  | _ => .error (mismatch "%c requires int or char")

/-- The letter that a fault names: those that do not print show as a question mark. -/
def namedLetter (letter : Char) : Char :=
  if 31 ≤ letter.toNat ∧ letter.toNat ≤ 126 then letter else '?'

/-- An argument as a placeholder's letter asks for it. -/
def convert (flags : Flags) (precision : Option Nat) (letter : Char) (position : Nat)
    (argument : Value) : Except Failure Shown :=
  if letter = 's' then do .ok (Shown.text precision (← argument.print).toList)
  else if letter = 'r' then do .ok (Shown.text precision (← argument.printQuoted).toList)
  else if letter = 'a' then do
    .ok (Shown.text precision (asciiOnly (← argument.printQuoted).toList))
  else if ['d', 'i', 'u', 'o', 'x', 'X'].contains letter then do
    showInteger flags precision letter (← integerOf letter argument)
  else if letter = 'c' then do
    .ok (Shown.text Option.none [← characterOf argument])
  else
    match styleOf? letter with
    | some style => do .ok (showDouble flags precision letter style (← doubleOf argument))
    | Option.none =>
        let code := String.ofList (Nat.toDigits 16 letter.toNat)
        .error (malformed (s!"unsupported format character '{namedLetter letter}' (0x{code}) "
          ++ s!"at index {position}"))

/-- Wider than any line that memory holds. -/
def memoryLimit : Nat := Nat.pow 2 36

/-- What is shown of an argument, filled up to a width: with blanks on the right, with zeros after
the sign and the mark, or with blanks on the left. -/
def Shown.padded (flags : Flags) (width : Nat) (leftAligned : Bool) (shown : Shown) : List Char :=
  let whole := shown.sign ++ shown.mark ++ shown.body
  let missing := width - whole.length
  if leftAligned then whole ++ List.replicate missing ' '
  else if flags.zeroFilled && shown.isNumber then
    shown.sign ++ shown.mark ++ List.replicate missing '0' ++ shown.body
  else List.replicate missing ' ' ++ whole

/-- A placeholder with its argument put in, and the arguments that are left. -/
def Placeholder.fill (placeholder : Placeholder) (supply : Supply) :
    Except Failure (List Char × Supply) := do
  let selected ← supply.select placeholder.selector
  let (width, afterWidth) ← widthOf placeholder.width selected
  let (precision, afterPrecision) ← precisionOf placeholder.precision afterWidth
  match placeholder.letter with
  | Option.none => .error (malformed "incomplete format")
  | some letter =>
      let (argument, rest) ← afterPrecision.take
      let shown ← convert placeholder.flags precision letter placeholder.position argument
      let size := (width.getD 0).natAbs
      if memoryLimit ≤ size then .error (.raised "MemoryError" "")
      else
        let leftAligned := placeholder.flags.leftAligned || width.getD 0 < 0
        .ok (shown.padded placeholder.flags size leftAligned, rest)

/-- Pieces with arguments put in, and the arguments that are left. -/
def fill : List Piece → Supply → Except Failure (List Char × Supply)
  | [], supply => .ok ([], supply)
  | .plain c :: rest, supply => do
      let (text, left) ← fill rest supply
      .ok (c :: text, left)
  | .placeholder placeholder :: rest, supply => do
      let (shown, others) ← placeholder.fill supply
      let (text, left) ← fill rest others
      .ok (shown ++ text, left)

/-- A message with its arguments put in. Without arguments it stays as it is. -/
def fillMessage (message : List Char) : Arguments → Except Failure (List Char)
  | .none | .ordered [] | .byName [] => .ok message
  | .ordered arguments => do
      match ← fill (pieces message) (.inTurn arguments) with
      | (_, .inTurn (_ :: _)) =>
          .error (mismatch "not all arguments converted during string formatting")
      | (text, _) => .ok text
  | .byName fields =>
      Prod.fst <$> fill (pieces message) (.byName fields (some (.object fields)))

end Automation.Logging
