import Automation.Number.Numeral

/-!
Reading JSON text.

The grammar is strict, with three more numbers: `NaN`, `Infinity` and `-Infinity`. A number with a
point or an exponent is a double precision number, any other an integer. An object keeps the first
place and the last value of a repeated name. Every function takes the text that is left and gives
back what it leaves; `fuel` bounds the depth of calls, and twice the length of the text is enough.

Texts are sequences of characters, so a surrogate that stands alone in an escape is outside of what
they represent: it is read as the replacement character.
-/

namespace Automation.Json

/-- Blanks between tokens. -/
def isSpace (c : Char) : Bool := c == ' ' || c == '\t' || c == '\n' || c == '\r'

/-- Drop blanks at the front. -/
def skipSpace (text : List Char) : List Char := text.dropWhile isSpace

/-- The value of a hexadecimal digit. -/
def hexValue? (c : Char) : Option Nat :=
  if '0' ≤ c ∧ c ≤ '9' then some (c.toNat - '0'.toNat)
  else if 'a' ≤ c ∧ c ≤ 'f' then some (c.toNat - 'a'.toNat + 10)
  else if 'A' ≤ c ∧ c ≤ 'F' then some (c.toNat - 'A'.toNat + 10)
  else none

/-- Four hexadecimal digits at the front of a text. -/
def readUnit? : List Char → Option (Nat × List Char)
  | a :: b :: c :: d :: rest =>
      match hexValue? a, hexValue? b, hexValue? c, hexValue? d with
      | some first, some second, some third, some fourth =>
          some (((first * 16 + second) * 16 + third) * 16 + fourth, rest)
      | _, _, _, _ => none
  | _ => none

/-- The character of an escape that is one character long. -/
def simpleEscape? (c : Char) : Option Char :=
  match c with
  | '"' => some '"'
  | '\\' => some '\\'
  | '/' => some '/'
  | 'b' => some '\x08'
  | 'f' => some '\x0c'
  | 'n' => some '\n'
  | 'r' => some '\r'
  | 't' => some '\t'
  | _ => none

/-- The first unit of a pair for a character above the basic plane. -/
def isHighUnit (unit : Nat) : Bool := 0xd800 ≤ unit && unit < 0xdc00

/-- The second unit of such a pair. -/
def isLowUnit (unit : Nat) : Bool := 0xdc00 ≤ unit && unit < 0xe000

/-- The character of a unit. A surrogate that stands alone is no character and is replaced. -/
def unitChar (unit : Nat) : Char :=
  if isHighUnit unit || isLowUnit unit then '\ufffd' else Char.ofNat unit

/-- The character of a pair of units. -/
def pairChar (high low : Nat) : Char :=
  Char.ofNat (0x10000 + (high - 0xd800) * 0x400 + (low - 0xdc00))

/-- The escape after a backslash: its character and the rest. -/
def readEscape? : List Char → Option (Char × List Char)
  | 'u' :: text =>
      match readUnit? text with
      | none => none
      | some (unit, rest) =>
          match isHighUnit unit, rest with
          | true, '\\' :: 'u' :: after =>
              match readUnit? after with
              | some (low, last) =>
                  if isLowUnit low then some (pairChar unit low, last)
                  else some (unitChar unit, rest)
              | none => some (unitChar unit, rest)
          | _, _ => some (unitChar unit, rest)
  | c :: rest => (simpleEscape? c).map fun character => (character, rest)
  | [] => none

/-- The characters of a text up to its closing quote, and what follows. -/
def readCharacters? : (fuel : Nat) → List Char → Option (List Char × List Char)
  | 0, _ => none
  | _ + 1, [] => none
  | fuel + 1, c :: rest =>
      if c = '"' then some ([], rest)
      else if c = '\\' then
        match readEscape? rest with
        | none => none
        | some (character, after) =>
            (readCharacters? fuel after).map fun found => (character :: found.1, found.2)
      else if c < ' ' then none
      else (readCharacters? fuel rest).map fun found => (c :: found.1, found.2)

/-- ASCII digits at the front of a text, and the rest. -/
def takeAsciiDigits (text : List Char) : List Nat × List Char :=
  ((text.takeWhile Char.isDigit).map fun c => c.toNat - '0'.toNat, text.dropWhile Char.isDigit)

/-- The digits after a point; none where there is no point with a digit after it. -/
def readFraction : List Char → List Nat × List Char
  | '.' :: rest =>
      match takeAsciiDigits rest with
      | ([], _) => ([], '.' :: rest)
      | found => found
  | text => ([], text)

/-- The exponent of a number; none where there is no complete one. -/
def readExponentPart (text : List Char) : Option Int × List Char :=
  match text with
  | mark :: rest =>
      if mark = 'e' ∨ mark = 'E' then
        let (negative, body) := takeSign rest
        match takeAsciiDigits body with
        | ([], _) => (none, text)
        | (digits, after) =>
            (some (if negative then -(ofDigits digits : Int) else ofDigits digits), after)
      else (none, text)
  | [] => (none, [])

/-- A number after its sign. -/
def readNumber? (negative : Bool) (text : List Char) : Option (Value × List Char) :=
  match takeAsciiDigits text with
  | ([], _) => none
  | (digits, after) =>
      let (whole, rest) := match digits with
        | 0 :: _ => ([0], text.drop 1)
        | _ => (digits, after)
      let (fraction, afterFraction) := readFraction rest
      let (exponent, afterExponent) := readExponentPart afterFraction
      if fraction = [] ∧ exponent = none then
        match integerOfDigits negative whole with
        | .ok number => some (.int number, afterExponent)
        | .error _ => none
      else
        some (.float (doubleOfDigits negative whole fraction (exponent.getD 0)), afterExponent)

/-- The text after a word, if it starts with it. -/
def dropWord? : (word : List Char) → List Char → Option (List Char)
  | [], text => some text
  | w :: word, c :: rest => if w = c then dropWord? word rest else none
  | _ :: _, [] => none

/-- Names of values, and numbers. -/
def readScalar? (text : List Char) : Option (Value × List Char) :=
  let word (name : String) (value : Value) : Option (Value × List Char) :=
    (dropWord? name.toList text).map fun rest => (value, rest)
  match text with
  | 'n' :: _ => word "null" .null
  | 't' :: _ => word "true" (.bool true)
  | 'f' :: _ => word "false" (.bool false)
  | 'N' :: _ => word "NaN" (.float (.notANumber 0))
  | 'I' :: _ => word "Infinity" (.float (.infinite false))
  | '-' :: 'I' :: _ => word "-Infinity" (.float (.infinite true))
  | '-' :: rest => readNumber? true rest
  | _ => readNumber? false text

mutual

/-- A value at the front of a text. -/
def readValue? : (fuel : Nat) → List Char → Option (Value × List Char)
  | 0, _ => none
  | fuel + 1, text =>
      match text with
      | '"' :: rest =>
          (readCharacters? (rest.length + 1) rest).map fun found =>
            (Value.ofChars found.1, found.2)
      | '[' :: rest =>
          match skipSpace rest with
          | ']' :: after => some (.list [], after)
          | items => (readItems? fuel items).map fun found => (.list found.1, found.2)
      | '{' :: rest =>
          match skipSpace rest with
          | '}' :: after => some (.object [], after)
          | fields => (readFields? fuel [] fields).map fun found => (.object found.1, found.2)
      | _ => readScalar? text

/-- The items of a list up to its closing bracket. -/
def readItems? : (fuel : Nat) → List Char → Option (List Value × List Char)
  | 0, _ => none
  | fuel + 1, text =>
      match readValue? fuel text with
      | none => none
      | some (item, rest) =>
          match skipSpace rest with
          | ']' :: after => some ([item], after)
          | ',' :: after =>
              (readItems? fuel (skipSpace after)).map fun found => (item :: found.1, found.2)
          | _ => none

/-- The fields of an object up to its closing brace, added to those read before. -/
def readFields? : (fuel : Nat) → Fields → List Char → Option (Fields × List Char)
  | 0, _, _ => none
  | fuel + 1, fields, text =>
      match text with
      | '"' :: rest =>
          match readCharacters? (rest.length + 1) rest with
          | none => none
          | some (name, afterName) =>
              match skipSpace afterName with
              | ':' :: afterColon =>
                  match readValue? fuel (skipSpace afterColon) with
                  | none => none
                  | some (value, afterValue) =>
                      let extended := Entries.put (String.ofList name) value fields
                      match skipSpace afterValue with
                      | '}' :: after => some (extended, after)
                      | ',' :: after => readFields? fuel extended (skipSpace after)
                      | _ => none
              | _ => none
      | _ => none

end

/-- The value that a text denotes, with blanks around it. -/
def read? (text : List Char) : Option Value :=
  match readValue? (2 * text.length + 2) (skipSpace text) with
  | some (value, rest) => if skipSpace rest = [] then some value else none
  | none => none

end Automation.Json
