import Automation.Number.Numeral

/-!
Fields of structured data: what a field wants, and what is wrong where it gets something else.

Readers are lenient where no meaning is lost: a text of digits is an integer, an integral number is
one too, and a few words are truth values.
-/

namespace Automation

/-- What is wrong with a field. -/
inductive FieldFault where
  | missing
  | invalidValue
  | notText
  | notAnInteger
  | integerText
  | integerTooLong
  | fraction
  | notFinite
  | notADouble
  | doubleText
  | notABoolean
  | booleanText
  | notAMember
  | notAnObject
  | notAPath
  | notATime
  | timeText
  | timeNumber
  deriving DecidableEq, Repr, Inhabited

namespace FieldFault

/-- The code of a fault. -/
def code : FieldFault → String
  | .missing => "missing"
  | .invalidValue => "value_error"
  | .notText => "string_type"
  | .notAnInteger => "int_type"
  | .integerText => "int_parsing"
  | .integerTooLong => "int_parsing_size"
  | .fraction => "int_from_float"
  | .notFinite => "finite_number"
  | .notADouble => "float_type"
  | .doubleText => "float_parsing"
  | .notABoolean => "bool_type"
  | .booleanText => "bool_parsing"
  | .notAMember => "enum"
  | .notAnObject => "dict_type"
  | .notAPath => "path_type"
  | .notATime => "datetime_type"
  | .timeText => "datetime_from_date_parsing"
  | .timeNumber => "datetime_parsing"

end FieldFault

/-- The value of a field, or what is wrong with it. -/
abbrev FieldResult (α : Type) := Except FieldFault α

/-- Names of fields with what is wrong with them. -/
abbrev FieldFaults := List (String × FieldFault)

namespace FieldResult

/-- What is wrong with a field, under its name. -/
def faults {α : Type} (name : String) : FieldResult α → FieldFaults
  | .ok _ => []
  | .error fault => [(name, fault)]

end FieldResult

namespace Field

/-- A text. -/
def readText : Value → FieldResult String
  | .text characters => .ok characters
  | _ => .error .notText

/-- A text, or null. -/
def readOptionalText : Value → FieldResult (Option String)
  | .null => .ok none
  | value => some <$> readText value

/-- ASCII digits with single underscores between them. -/
def isDigitRun : (afterDigit : Bool) → List Char → Bool
  | afterDigit, [] => afterDigit
  | afterDigit, c :: rest =>
      if c.isDigit then isDigitRun true rest
      else c == '_' && afterDigit && isDigitRun false rest

/-- What follows a zero among the zeros at the front of a number: they are dropped, and underscores
with them. `last` is the character before, which stays in front of a point or of the end. -/
def skipZeros (last : Char) : List Char → Option (List Char)
  | [] => some [last]
  | c :: rest =>
      if c = '0' ∨ c = '_' then skipZeros c rest
      else if c.isDigit then some (c :: rest)
      else if c = '.' then some (last :: c :: rest)
      else none

/-- A number, which starts with a digit, without the zeros at its front. -/
def dropZeros : List Char → Option (List Char)
  | [] => none
  | c :: rest =>
      if c = '0' then skipZeros c rest else if c.isDigit then some (c :: rest) else none

/-- The digits of a number in front of its point, after which only zeros may stand, and at least
one. -/
def wholeDigits? (number : List Char) : Option (List Char) :=
  let whole := number.takeWhile (· != '.')
  let fractionIsZero := match number.dropWhile (· != '.') with
    | [] => true
    | _ :: fraction => !fraction.isEmpty && fraction.all (· == '0')
  if isDigitRun false whole && fractionIsZero then some (whole.filter Char.isDigit) else none

/-- The integer that a text denotes: digits, perhaps with a sign in front and a point and zeros
behind. Zeros at the front do not count towards its length. -/
def readIntegerText (characters : List Char) : FieldResult Int :=
  let (negative, body) := takeSign (Text.trimSpacing characters)
  match (dropZeros body).bind wholeDigits? with
  | none => .error .integerText
  | some digits =>
      if digitLimit < digits.length then .error .integerTooLong
      else
        let value := ofDigits (digits.map fun c => c.toNat - '0'.toNat)
        .ok (if negative then -(value : Int) else value)

/-- The integer that a double precision number is, within 64 bits. -/
def readIntegral (number : Binary64) : FieldResult Int :=
  match number.toRat? with
  | none => .error .notFinite
  | some value =>
      if value.den ≠ 1 then .error .fraction
      else if -(Nat.pow 2 63) < value.num ∧ value.num < Nat.pow 2 63 then .ok value.num
      else .error .integerTooLong

/-- An integer. -/
def readInteger : Value → FieldResult Int
  | .bool truth => .ok (if truth then 1 else 0)
  | .int number => .ok number
  | .float number => readIntegral number
  | .text characters => readIntegerText characters.toList
  | _ => .error .notAnInteger

/-- An integer, or null. -/
def readOptionalInteger : Value → FieldResult (Option Int)
  | .null => .ok none
  | value => some <$> readInteger value

/-- The double precision number that an ASCII text denotes. White space may stand around it, or
single underscores inside it, but not both. -/
def readDoubleText? (text : List Char) : Option Binary64 :=
  let parts := Text.splitAt '_' text
  if text.any fun c => 128 ≤ c.toNat && !Text.isSpacing c then none
  else if parts.length = 1 then readDouble? text
  else if parts.contains [] || Text.trimSpacing text ≠ text then none
  else readDouble? parts.flatten

/-- A double precision number. -/
def readDouble : Value → FieldResult Binary64
  | .bool truth => .ok (Binary64.ofNat (if truth then 1 else 0))
  | .int number =>
      match Binary64.ofInt? number with
      | some double => .ok double
      | none => .error .notADouble
  | .float number => .ok number
  | .text characters =>
      match readDoubleText? characters.toList with
      | some double => .ok double
      | none => .error .doubleText
  | _ => .error .notADouble

/-- The words that stand for truth. -/
def trueWords : List String := ["1", "on", "t", "true", "y", "yes"]

/-- The words that stand for falsehood. -/
def falseWords : List String := ["0", "off", "f", "false", "n", "no"]

/-- The truth value that an integer of 64 bits stands for. -/
def readBit (number : Int) : FieldResult Bool :=
  if number = 0 then .ok false else if number = 1 then .ok true else .error .booleanText

/-- A truth value. -/
def readBoolean : Value → FieldResult Bool
  | .bool truth => .ok truth
  | .int number => if fitsWord number then readBit number else .error .notABoolean
  | .float number =>
      match readIntegral number with
      | .ok whole => readBit whole
      | .error _ => .error .notABoolean
  | .text characters =>
      let word := String.ofList (characters.toList.map Char.toLower)
      if trueWords.contains word then .ok true
      else if falseWords.contains word then .ok false
      else .error .booleanText
  | _ => .error .notABoolean

/-- An object. -/
def readObject : Value → FieldResult Fields
  | .object fields => .ok fields
  | _ => .error .notAnObject

/-- A field that has to be there. -/
def required {α : Type} (read : Value → FieldResult α) (name : String) (fields : Fields) :
    FieldResult α :=
  match Entries.get? name fields with
  | some value => read value
  | none => .error .missing

/-- A field with a default. -/
def optional {α : Type} (read : Value → FieldResult α) (name : String) (default : α)
    (fields : Fields) : FieldResult α :=
  match Entries.get? name fields with
  | some value => read value
  | none => .ok default

end Field
end Automation
