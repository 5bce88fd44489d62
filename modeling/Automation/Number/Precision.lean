import Automation.Number.Decimal

/-!
Decimal text of a given precision.

A number is rounded exactly, a half to the even neighbour, and then laid out: with a given count of
digits after the point, with an exponent after that count of digits, or with a given count of
significant digits in the layout that suits its size. `exactDigits` bounds the digits that have to
be computed: further ones are zeros.
-/

namespace Automation

/-- The layouts of a number of a given precision. -/
inductive PrecisionStyle where
  | positional
  | exponential
  | general
  deriving DecidableEq, Repr

namespace Binary64

/-- No number has more significant digits, nor more digits after its point. -/
def exactDigits : Nat := 1100

/-- A magnitude counted in a power of ten, to the nearest integer. -/
def inUnits (magnitude : Nat) (exponent : Int) : Nat :=
  let power := scale magnitude
  roundedQuotient (significand magnitude * Nat.pow 2 power.toNat * Nat.pow 10 (-exponent).toNat)
    (Nat.pow 2 (-power).toNat * Nat.pow 10 exponent.toNat)

/-- A magnitude with a count of digits after the point. -/
def fixedText (places magnitude : Nat) : List Char :=
  let exact := min places exactDigits
  Decimal.positional ⟨inUnits magnitude (-exact), -exact⟩ ++ List.replicate (places - exact) '0'

/-- The nearest decimal with a count of significant digits, at least one. -/
def significant (count magnitude : Nat) : Decimal :=
  if magnitude = 0 then ⟨0, 1 - count⟩
  else
    let exponent := (Decimal.Interval.ofMagnitude magnitude).decimalOrder - count
    let coefficient := inUnits magnitude exponent
    if coefficient = Nat.pow 10 count then ⟨Nat.pow 10 (count - 1), exponent + 1⟩
    else ⟨coefficient, exponent⟩

/-- The digits of a decimal, filled up with zeros at the front. -/
def filledDigits (count : Nat) (decimal : Decimal) : List Char :=
  let shown := Decimal.digits decimal.coefficient
  List.replicate (count - shown.length) '0' ++ shown

/-- Drop the zeros at the end of digits after a point. -/
def dropZeros (digits : List Char) : List Char := (digits.reverse.dropWhile (· == '0')).reverse

/-- Digits before and after a point; the point goes with the last of the digits after it, unless it
is kept. -/
def pointed (keepsPoint : Bool) (whole fraction : List Char) : List Char :=
  if fraction.isEmpty && !keepsPoint then whole else whole ++ '.' :: fraction

/-- A magnitude with one digit before the point, a count of digits after it, and an exponent. -/
def exponentialText (keepsPoint : Bool) (places magnitude : Nat) : List Char :=
  let exact := min places exactDigits
  let rounded := significant (exact + 1) magnitude
  let shown := filledDigits (exact + 1) rounded ++ List.replicate (places - exact) '0'
  pointed keepsPoint (shown.take 1) (shown.drop 1)
    ++ Decimal.exponentText Decimal.standardLayout (rounded.exponent + exact)

/-- A magnitude with a count of significant digits, of which the zeros after the point are kept
only with the point. An exponent is written below `0.0001` and where the digits end before the
point. -/
def generalText (keepsPoint : Bool) (count magnitude : Nat) : List Char :=
  let exact := min count exactDigits
  let rounded := significant exact magnitude
  let exponent := rounded.exponent + (exact - 1 : Nat)
  let shown := filledDigits exact rounded
    ++ if keepsPoint then List.replicate (count - exact) '0' else []
  let kept (digits : List Char) : List Char := if keepsPoint then digits else dropZeros digits
  if exponent < -4 ∨ count ≤ exponent then
    pointed keepsPoint (shown.take 1) (kept (shown.drop 1))
      ++ Decimal.exponentText Decimal.standardLayout exponent
  else if exponent < 0 then
    pointed keepsPoint ['0'] (kept (List.replicate (-exponent - 1).toNat '0' ++ shown))
  else
    pointed keepsPoint (shown.take (exponent.toNat + 1)) (kept (shown.drop (exponent.toNat + 1)))

/-- A magnitude in a layout. General layouts count significant digits, of which there is at least
one; the others count digits after the point. -/
def precisionText (style : PrecisionStyle) (keepsPoint : Bool) (precision magnitude : Nat) :
    List Char :=
  match style with
  | .positional =>
      fixedText precision magnitude ++ if precision = 0 && keepsPoint then ['.'] else []
  | .exponential => exponentialText keepsPoint precision magnitude
  | .general => generalText keepsPoint (max precision 1) magnitude

/-- The text of a number of a given precision. -/
def textWithPrecision (style : PrecisionStyle) (keepsPoint : Bool) (precision : Nat) :
    Binary64 → List Char
  | .finite negative magnitude =>
      signed negative (precisionText style keepsPoint precision magnitude)
  | other => other.text

end Binary64
end Automation
