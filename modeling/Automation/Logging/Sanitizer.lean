import Automation.Logging.Pattern

/-!
Log messages without credentials.

Each pattern is applied to the whole message in turn, the keys of known services first, then what
follows the words that announce a secret.
-/

namespace Automation.Logging

/-- Characters of keys. -/
def isKeyCharacter (c : Char) : Bool :=
  let folded := Text.fold c
  Text.isAsciiAlphanumeric folded || folded == '_' || folded == '-'

/-- Letters and digits of keys. -/
def isKeyAlphanumeric (c : Char) : Bool := Text.isAsciiAlphanumeric (Text.fold c)

/-- Letters and digits of keys, and hyphens. -/
def isKeyPart (c : Char) : Bool := isKeyAlphanumeric c || c == '-'

/-- Characters of tokens that a bearer shows. -/
def isTokenCharacter (c : Char) : Bool := isKeyAlphanumeric c || "._~+/=-".toList.contains c

/-- Quotation marks, which may stand around a secret or its name. -/
def isQuotationMark (c : Char) : Bool := c == '"' || c == '\''

/-- Characters of a secret that follows its name. -/
def isSecretCharacter (c : Char) : Bool :=
  !(isQuotationMark c || Text.isBlank c || c == ',' || c == '\x7d')

/-- A name, a colon or an equals sign, and a secret; quotes and blanks may stand in between. -/
def namedSecret (name : String) : Pattern :=
  Pattern.word name
    ++ [.atMostOne isQuotationMark, .many Text.isBlank, .one fun c => c == ':' || c == '=',
      .many Text.isBlank, .atMostOne isQuotationMark, .atLeast 1 isSecretCharacter]

/-- The patterns of credentials and what stands in their place. -/
def credentialPatterns : List (Pattern × String) :=
  [(Pattern.word "sk-ant-" ++ [.atLeast 40 isKeyCharacter], "[REDACTED_API_KEY]"),
    (Pattern.word "sk-" ++ [.atLeast 20 isKeyCharacter], "[REDACTED_API_KEY]"),
    (Pattern.word "ghp_" ++ [.exactly 36 isKeyAlphanumeric], "[REDACTED_GITHUB_TOKEN]"),
    (Pattern.word "xox" ++ [.one fun c => ['a', 'b', 'p', 'r'].contains (Text.fold c),
      Pattern.letter '-', .atLeast 10 isKeyPart], "[REDACTED_SLACK_TOKEN]"),
    (Pattern.word "Bearer" ++ [.atLeast 1 Text.isBlank, .atLeast 1 isTokenCharacter],
      "Bearer [REDACTED]"),
    (namedSecret "password", "password=[REDACTED]"),
    (namedSecret "token", "token=[REDACTED]")]

/-- A message with the matches of patterns replaced, one pattern after the other. -/
def replaceAll (patterns : List (Pattern × String)) (message : List Char) : List Char :=
  patterns.foldl (fun text pattern => pattern.1.replace pattern.2 text) message

/-- A message without credentials and without what further patterns match. -/
def sanitize (further : List Pattern) (message : List Char) : List Char :=
  replaceAll (credentialPatterns ++ further.map fun pattern => (pattern, "[REDACTED]")) message

/-- A message without credentials. -/
def sanitizeText (message : String) : String := String.ofList (sanitize [] message.toList)

end Automation.Logging
