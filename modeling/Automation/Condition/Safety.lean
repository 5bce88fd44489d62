import Automation.Failure
import Automation.Text.Case

/-!
The safety check of conditions.

A condition is unsafe where it holds a forbidden keyword that is no part of a longer word, or a
character outside a fixed list. The check looks at the condition as it is written, before any
variable is put in.
-/

namespace Automation.Condition

/-- The keywords that are forbidden by default. -/
def forbiddenKeywords : List String :=
  ["function", "eval", "exec", "compile", "lambda", "constructor", "prototype", "__proto__",
    "__class__", "__import__", "__globals__", "__builtins__", "import", "export", "require",
    "process", "window", "document", "globalthis", "global", "this", "settimeout", "setinterval",
    "fetch"]

/-- Characters that continue a keyword. -/
def continuesKeyword (c : Char) : Bool := ('a' ≤ c && c ≤ 'z') || ('0' ≤ c && c ≤ '9')

/-- Whether a place before or after a keyword is free of such characters. -/
def isFree (neighbour : Option Char) : Bool := !neighbour.any continuesKeyword

/-- Whether a keyword stands at the front of a text, with a free place after it. -/
def startsWithKeyword (text keyword : List Char) : Bool :=
  keyword.isPrefixOf text && isFree (text.drop keyword.length).head?

/-- The first keyword in a text: at the leftmost place, and there the first of the list. -/
def findKeyword (keywords : List (List Char)) (before : Option Char) :
    List Char → Option (List Char)
  | [] => if isFree before then keywords.find? (startsWithKeyword []) else none
  | c :: rest =>
      match if isFree before then keywords.find? (startsWithKeyword (c :: rest)) else none with
      | some keyword => some keyword
      | none => findKeyword keywords (some c) rest

/-- Characters that a condition may hold. -/
def isAllowed (c : Char) : Bool :=
  Text.isAsciiAlphanumeric c || Text.isBlank c || ".[]\"'<>=!&|()_".toList.contains c

/-- Why a condition is unsafe. -/
inductive Hazard where
  | notText
  | keyword (keyword : List Char)
  | characters
  deriving DecidableEq, Repr, Inhabited

/-- A hazard in words. -/
def Hazard.message : Hazard → String
  | .notText => "Expression must be a string"
  | .keyword word => "Forbidden keyword in expression: " ++ String.ofList word
  | .characters => "Invalid characters in expression"

/-- A hazard as a failure. -/
def Hazard.failure (hazard : Hazard) : Failure := .engine (.unsafeExpression hazard.message [])

/-- The text that a list of keywords forbids: without keywords the empty text, at any free place. -/
def keywordTexts (keywords : List String) : List (List Char) :=
  match keywords with
  | [] => [[]]
  | _ => keywords.map fun keyword => Text.lower keyword.toList

/-- The condition without blanks around it, if it is safe. -/
def checkText (keywords : List String) (text : List Char) : Except Hazard (List Char) :=
  match findKeyword (keywordTexts keywords) none (Text.lower text) with
  | some keyword => .error (.keyword keyword)
  | none =>
      if text ≠ [] ∧ text.all isAllowed then .ok (Text.trim text) else .error .characters

/-- The condition that a value is, if it is a safe one. -/
def check (keywords : List String) : Value → Except Hazard (List Char)
  | .text characters => checkText keywords characters.toList
  | _ => .error .notText

end Automation.Condition
