import Automation.Failure
import Automation.Number.Decimal

/-!
Numbers read from text.

`Numeral.read?` recognises the plain numerals of conditions: digits, at most one point between
digits, an optional minus sign. It is asked about words, which hold no blanks, so there is no line
end to allow for behind the digits. `readInteger` and `readDouble?` are the lenient readers for
settings of steps: they trim white space and take a sign and single underscores between digits, and
`readDouble?` also takes exponents, `inf` and `nan`. All of them take decimal digits of any script.
-/

namespace Automation

/-- The longest text of digits that an integer is read from. -/
def digitLimit : Nat := 4300

/-- Integers of 64 bits. -/
def fitsWord (number : Int) : Bool := -(Nat.pow 2 63) ≤ number && number < Nat.pow 2 63

/-- The number that a list of decimal digits denotes. -/
def ofDigits (digits : List Nat) : Nat := digits.foldl (fun value digit => 10 * value + digit) 0

/-- The digits at the front of a text, and the rest. -/
def takeDigits : List Char → List Nat × List Char
  | [] => ([], [])
  | c :: rest =>
      match Text.decimalValue? c with
      | some digit =>
          match takeDigits rest with
          | (digits, after) => (digit :: digits, after)
      | none => ([], c :: rest)

/-- An integer from its digits, unless there are too many. -/
def integerOfDigits (negative : Bool) (digits : List Nat) : Except Failure Int :=
  if digitLimit < digits.length then .error (.tooManyDigits digits.length)
  else .ok (if negative then -(ofDigits digits : Int) else ofDigits digits)

/-- A double precision number from the digits around its point. -/
def doubleOfDigits (negative : Bool) (whole fraction : List Nat) (exponent : Int) : Binary64 :=
  Binary64.ofDecimal negative (ofDigits (whole ++ fraction)) (exponent - fraction.length)

/-- A plain numeral. -/
structure Numeral where
  negative : Bool
  whole : List Nat
  fraction : Option (List Nat)
  deriving DecidableEq, Repr

namespace Numeral

/-- The numeral that a text is, unless it is none. -/
def read? (text : List Char) : Option Numeral :=
  let (negative, body) := match text with
    | '-' :: rest => (true, rest)
    | _ => (false, text)
  match takeDigits body with
  | ([], _) => none
  | (whole, []) => some ⟨negative, whole, none⟩
  | (whole, '.' :: rest) =>
      match takeDigits rest with
      | ([], _) => none
      | (fraction, []) => some ⟨negative, whole, some fraction⟩
      | _ => none
  | _ => none

/-- The value of a numeral: with a point a double precision number, without one an integer. -/
def value (numeral : Numeral) : Except Failure Value :=
  match numeral.fraction with
  | some fraction => .ok (.float (doubleOfDigits numeral.negative numeral.whole fraction 0))
  | none => Value.int <$> integerOfDigits numeral.negative numeral.whole

end Numeral

/-- The digits at the front of a text with single underscores between them, and the rest.
`afterDigit` says whether an underscore may come first. -/
def takeSpacedDigits (afterDigit : Bool) : List Char → List Nat × List Char
  | [] => ([], [])
  | c :: rest =>
      match Text.decimalValue? c with
      | some digit =>
          match takeSpacedDigits true rest with
          | (digits, after) => (digit :: digits, after)
      | none =>
          if c = '_' && afterDigit then
            match takeSpacedDigits false rest with
            | ([], _) => ([], c :: rest)
            | found => found
          else ([], c :: rest)

/-- A sign at the front of a text, and the rest. -/
def takeSign : List Char → Bool × List Char
  | '-' :: rest => (true, rest)
  | '+' :: rest => (false, rest)
  | text => (false, text)

/-- The integer that a text denotes. -/
def readInteger (text : List Char) : Except Failure Int :=
  let (negative, body) := takeSign (Text.trimSpacing text)
  match takeSpacedDigits false body with
  | ([], _) => .error (.notAnInteger (String.ofList text))
  | (digits, rest) =>
      if rest = [] ∨ digitLimit < digits.length then integerOfDigits negative digits
      else .error (.notAnInteger (String.ofList text))

/-- The exponent at the end of a number; no text is the exponent zero. -/
def readExponent? : List Char → Option Int
  | [] => some 0
  | mark :: rest =>
      if mark = 'e' ∨ mark = 'E' then
        let (negative, body) := takeSign rest
        match takeSpacedDigits false body with
        | ([], _) => none
        | (digits, []) => some (if negative then -(ofDigits digits : Int) else ofDigits digits)
        | _ => none
      else none

/-- The double precision number that a text denotes. -/
def readDouble? (text : List Char) : Option Binary64 :=
  let (negative, body) := takeSign (Text.trimSpacing text)
  let name := String.ofList (body.map Char.toLower)
  if name = "inf" ∨ name = "infinity" then some (.infinite negative)
  else if name = "nan" then some (.notANumber 0)
  else
    let (whole, afterWhole) := takeSpacedDigits false body
    let (fraction, afterFraction) := match afterWhole with
      | '.' :: rest => takeSpacedDigits false rest
      | rest => ([], rest)
    if whole = [] ∧ fraction = [] then none
    else (readExponent? afterFraction).map fun exponent =>
      doubleOfDigits negative whole fraction exponent

end Automation
