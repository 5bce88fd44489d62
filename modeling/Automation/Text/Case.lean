import Automation.Text.Character
import Automation.Text.Table.Case
import Automation.Text.Table.Sigma

/-!
Lower case, upper case, and the comparison of text that ignores case.

`İ` is the one character whose lower case is longer than one character, and `Σ` the one whose lower
case depends on its neighbours: at the end of a word it is `ς`.
-/

namespace Automation.Text

namespace Table

/-- The image of a code point under the first run that holds it. -/
def CaseRun.apply? (runs : List CaseRun) (code : Nat) : Option Nat :=
  (runs.find? fun run =>
    run.first ≤ code && code ≤ run.last && (code - run.first) % run.step == 0).map
      fun run => ((code : Int) + run.shift).toNat

end Table

/-- The lower case of a character. -/
def lowerChar (c : Char) : List Char :=
  if c.toNat < 128 then [c.toLower]
  else if c = 'İ' then ['i', '\u0307']
  else match Table.CaseRun.apply? Table.lowerRuns c.toNat with
    | some code => [Char.ofNat code]
    | none => [c]

/-- The upper case of a character. -/
def upperChar (c : Char) : List Char :=
  if c.toNat < 128 then [c.toUpper]
  else match Table.upperExpansions.lookup c.toNat with
    | some codes => codes.map Char.ofNat
    | none => match Table.CaseRun.apply? Table.upperRuns c.toNat with
      | some code => [Char.ofNat code]
      | none => [c]

/-- Characters that have case and are not passed over. -/
def isCased (c : Char) : Bool :=
  if c.toNat < 128 then c.isAlpha else inRanges Table.casedRanges c.toNat

/-- Characters that are passed over when the neighbours of a letter are looked at. -/
def isPassedOver (c : Char) : Bool :=
  if c.toNat < 128 then "'.:^`".toList.contains c
  else inRanges Table.passedOverRanges c.toNat

/-- Whether the nearest character that is not passed over has case. -/
def hasCasedNeighbour (text : List Char) : Bool :=
  (text.dropWhile isPassedOver).head?.any isCased

/-- The lower case of what follows a text, which is given from its end to its front. -/
def lowerAfter (before : List Char) : List Char → List Char
  | [] => []
  | c :: rest =>
      let lowered :=
        if c = 'Σ' && hasCasedNeighbour before && !hasCasedNeighbour rest then ['ς']
        else lowerChar c
      lowered ++ lowerAfter (c :: before) rest

/-- The lower case of a text. -/
def lower (text : List Char) : List Char := lowerAfter [] text

/-- The upper case of a text. -/
def upper (text : List Char) : List Char := text.flatMap upperChar

/-- The ASCII character that stands for a character when case is ignored: its lower case, with
the dotted and the dotless `I`, the long `s` and the Kelvin sign taken for the letters they look
like. -/
def fold (c : Char) : Char :=
  if c = 'İ' ∨ c = 'ı' then 'i'
  else if c = 'ſ' then 's'
  else if c = '\u212a' then 'k'
  else c.toLower

end Automation.Text
