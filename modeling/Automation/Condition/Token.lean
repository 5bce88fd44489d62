import Automation.Text.Character

/-!
The tokens of conditions.

`tokenize` splits a text into quoted texts, bracketed JSON, words, operators and parentheses, each
with its position. Two-character operators win over one-character ones. A text has no tokens where
a quote or a bracket stays open, or where a character of an operator stands alone.
-/

namespace Automation.Condition

/-- Comparisons of two values. -/
inductive Comparison where
  | equal
  | notEqual
  | greater
  | less
  | atLeast
  | atMost
  deriving DecidableEq, Repr, Inhabited

/-- The operators of conditions. -/
inductive Operator where
  | comparison (comparison : Comparison)
  | both
  | either
  | negation
  deriving DecidableEq, Repr, Inhabited

/-- What a token is, with its text where that is not fixed. -/
inductive Lexeme where
  | quoted (text : List Char)
  | bracketed (text : List Char)
  | word (text : List Char)
  | operator (operator : Operator)
  | opening
  | closing
  deriving DecidableEq, Repr, Inhabited

/-- A token and the place of its first character. -/
structure Token where
  lexeme : Lexeme
  position : Nat
  deriving DecidableEq, Repr, Inhabited

/-- The symbol of a comparison. -/
def Comparison.symbol : Comparison → List Char
  | .equal => ['=', '=']
  | .notEqual => ['!', '=']
  | .greater => ['>']
  | .less => ['<']
  | .atLeast => ['>', '=']
  | .atMost => ['<', '=']

/-- Every comparison. -/
def Comparison.all : List Comparison :=
  [.equal, .notEqual, .greater, .less, .atLeast, .atMost]

/-- The comparison with a symbol. -/
def Comparison.ofSymbol? (symbol : List Char) : Option Comparison :=
  Comparison.all.find? fun comparison => comparison.symbol == symbol

/-- The symbol of an operator. -/
def Operator.symbol : Operator → List Char
  | .comparison kind => kind.symbol
  | .both => ['&', '&']
  | .either => ['|', '|']
  | .negation => ['!']

/-- The text of a token. -/
def Lexeme.text : Lexeme → List Char
  | .quoted text | .bracketed text | .word text => text
  | .operator kind => kind.symbol
  | .opening => ['(']
  | .closing => [')']

/-- Whether a token stands for a value. -/
def Lexeme.isValue : Lexeme → Bool
  | .quoted _ | .bracketed _ | .word _ => true
  | _ => false

/-- Why a condition is refused. -/
inductive Refusal where
  | unterminatedQuote (position : Nat)
  | unbalancedBrackets (position : Nat)
  | strayOperator (character : Char) (position : Nat)
  | empty
  | unexpectedToken (token : Token)
  | unexpectedEnd
  | missingClosing
  | missingValue (operator : Operator) (position : Nat)
  deriving DecidableEq, Repr, Inhabited

namespace Refusal

/-- The reason of a refusal in words. -/
def message : Refusal → String
  | .unterminatedQuote position => s!"Unterminated string literal at position {position}"
  | .unbalancedBrackets position => s!"Unbalanced brackets at position {position}"
  | .strayOperator character position =>
      s!"Malformed operator '{character}' at position {position}"
  | .empty => "Empty expression"
  | .unexpectedToken token =>
      "Unexpected token '" ++ String.ofList token.lexeme.text
        ++ s!"' at position {token.position}"
  | .unexpectedEnd => "Unexpected end of expression"
  | .missingClosing => "Missing closing parenthesis"
  | .missingValue operator position =>
      "Expected a value after '" ++ String.ofList operator.symbol
        ++ s!"' at position {position}"

end Refusal

/-- Characters that open and close a quoted text. -/
def isQuote (c : Char) : Bool := c == '"' || c == '\''

/-- Characters that end a word. -/
def endsWord (c : Char) : Bool :=
  Text.isBlank c || isQuote c || c == '(' || c == ')' || c == '<' || c == '>' || c == '='
    || c == '!' || c == '&' || c == '|'

/-- The rest of a quoted text, its closing quote included, and what follows. A backslash takes the
next character with it. -/
def scanQuoted (quote : Char) : List Char → Option (List Char × List Char)
  | [] => none
  | '\\' :: [] => none
  | '\\' :: c :: rest =>
      (scanQuoted quote rest).map fun found => ('\\' :: c :: found.1, found.2)
  | c :: rest =>
      if c = quote then some ([c], rest)
      else (scanQuoted quote rest).map fun found => (c :: found.1, found.2)

/-- The rest of bracketed text up to the bracket that balances it, and what follows. `depth`
brackets are open, `start` is the place of the first one and `position` that of the text. -/
def scanBracketed (start : Nat) :
    (fuel depth position : Nat) → List Char → Except Refusal (List Char × List Char)
  | 0, _, _, _ => .error (.unbalancedBrackets start)
  | _ + 1, _, _, [] => .error (.unbalancedBrackets start)
  | fuel + 1, depth, position, c :: rest =>
      if isQuote c then
        match scanQuoted c rest with
        | none => .error (.unterminatedQuote position)
        | some (quoted, after) => do
            let (text, last) ←
              scanBracketed start fuel depth (position + 1 + quoted.length) after
            .ok (c :: quoted ++ text, last)
      else if (c = ']' ∨ c = '}') ∧ depth ≤ 1 then .ok ([c], rest)
      else
        let deeper := if c = '[' ∨ c = '{' then depth + 1
          else if c = ']' ∨ c = '}' then depth - 1 else depth
        do
          let (text, last) ← scanBracketed start fuel deeper (position + 1) rest
          .ok (c :: text, last)

/-- The operator at the front of a text and what follows. -/
def scanOperator : List Char → Option (Operator × List Char)
  | '=' :: '=' :: rest => some (.comparison .equal, rest)
  | '!' :: '=' :: rest => some (.comparison .notEqual, rest)
  | '>' :: '=' :: rest => some (.comparison .atLeast, rest)
  | '<' :: '=' :: rest => some (.comparison .atMost, rest)
  | '&' :: '&' :: rest => some (.both, rest)
  | '|' :: '|' :: rest => some (.either, rest)
  | '<' :: rest => some (.comparison .less, rest)
  | '>' :: rest => some (.comparison .greater, rest)
  | '!' :: rest => some (.negation, rest)
  | _ => none

/-- The token at the front of a text that starts with no blank, and what follows. -/
def scanToken (position : Nat) (c : Char) (rest : List Char) :
    Except Refusal (Lexeme × List Char) :=
  if isQuote c then
    match scanQuoted c rest with
    | none => .error (.unterminatedQuote position)
    | some (quoted, after) => .ok (.quoted (c :: quoted), after)
  else if c = '[' ∨ c = '{' then do
    let (text, after) ← scanBracketed position (rest.length + 1) 1 (position + 1) rest
    .ok (.bracketed (c :: text), after)
  else if c = '(' then .ok (.opening, rest)
  else if c = ')' then .ok (.closing, rest)
  else match scanOperator (c :: rest) with
    | some (operator, after) => .ok (.operator operator, after)
    | none =>
        if c = '=' ∨ c = '&' ∨ c = '|' then .error (.strayOperator c position)
        else
          .ok (.word (c :: rest.takeWhile (!endsWord ·)), rest.dropWhile (!endsWord ·))

/-- The tokens of a text that starts at a given position. -/
def tokenizeFrom : (fuel position : Nat) → List Char → Except Refusal (List Token)
  | _, _, [] => .ok []
  | 0, _, _ :: _ => .ok []
  | fuel + 1, position, c :: rest =>
      if Text.isBlank c then tokenizeFrom fuel (position + 1) rest
      else do
        let (lexeme, after) ← scanToken position c rest
        let tokens ← tokenizeFrom fuel (position + lexeme.text.length) after
        .ok (⟨lexeme, position⟩ :: tokens)

/-- The tokens of a text. Every token takes at least one character, so the length of the text
bounds the number of steps. -/
def tokenize (text : List Char) : Except Refusal (List Token) :=
  tokenizeFrom text.length 0 text

end Automation.Condition
