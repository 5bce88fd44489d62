import Automation.Condition.Token
import Automation.Json.Reader
import Automation.Json.Writer
import Automation.Number.Numeral

/-!
Literals of conditions: how a value is written into a condition and how a token is read as a value.

Numbers are written positionally, because a literal has no exponent; lists and objects are written
as JSON.
-/

namespace Automation.Condition

/-- A finite number in positional notation. -/
def positionalText (negative : Bool) (magnitude : Nat) : List Char :=
  Binary64.signed negative (Decimal.positional (Binary64.decimal magnitude))

/-- A value as a literal. -/
def literal : Value → List Char
  | .float (.finite negative magnitude) => positionalText negative magnitude
  | value => Json.write value

/-- Drop the backslash before each character other than a line end. -/
def unescape : List Char → List Char
  | [] => []
  | '\\' :: c :: rest => if c = '\n' then '\\' :: unescape (c :: rest) else c :: unescape rest
  | c :: rest => c :: unescape rest

/-- A text without its first and its last character. -/
def inner (text : List Char) : List Char := (text.drop 1).dropLast

/-- The value of a word: a number, one of three names, else the word itself. -/
def wordValue (text : List Char) : Except Failure Value :=
  match Numeral.read? text with
  | some numeral => numeral.value
  | none =>
      .ok (if text = "true".toList then .bool true
        else if text = "false".toList then .bool false
        else if text = "null".toList then .null
        else Value.ofChars text)

/-- The value of a token. Text in double quotes and in brackets is JSON where it can be read so. -/
def literalValue : Lexeme → Except Failure Value
  | .quoted text =>
      .ok (match text with
        | '"' :: _ => (Json.read? text).getD (Value.ofChars (inner text))
        | _ => Value.ofChars (unescape (inner text)))
  | .bracketed text => .ok ((Json.read? text).getD (Value.ofChars text))
  | lexeme => wordValue lexeme.text

end Automation.Condition
