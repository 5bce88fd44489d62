import Automation.Number.Binary64

/-!
Decimal text of double precision numbers.

`shortest` finds the fewest decimal digits that read back as a given number, and among those the
digits nearest to it. A `Layout` says where positional notation ends and how an exponent is
written. Two layouts are used: `standardLayout` for text, and `positional` for literals of
conditions, which have no exponents.
-/

namespace Automation

/-- The decimal number `coefficient * 10 ^ exponent`. -/
structure Decimal where
  coefficient : Nat
  exponent : Int
  deriving DecidableEq, Repr, Inhabited

namespace Decimal

/-- The exact value of a decimal. -/
def toRat (decimal : Decimal) : Rat :=
  if 0 ≤ decimal.exponent then (decimal.coefficient * Nat.pow 10 decimal.exponent.toNat : Nat)
  else mkRat decimal.coefficient (Nat.pow 10 (-decimal.exponent).toNat)

/-- The decimal digits of a natural number. -/
def digits (number : Nat) : List Char := Nat.toDigits 10 number

/-- The text of an integer. -/
def integer (number : Int) : List Char :=
  if number < 0 then '-' :: digits number.natAbs else digits number.natAbs

/-- Move the zeros at the end of a coefficient into the exponent, at most `fuel` of them. -/
def stripZeros : (fuel : Nat) → Decimal → Decimal
  | 0, decimal => decimal
  | fuel + 1, decimal =>
      if decimal.coefficient % 10 = 0 then
        stripZeros fuel ⟨decimal.coefficient / 10, decimal.exponent + 1⟩
      else decimal

/-- The numbers that round to one magnitude, as multiples of `unit / divisor`: from `low` to
`high`, with the ends included where the magnitude is even. -/
structure Interval where
  center : Nat
  low : Nat
  high : Nat
  unit : Nat
  divisor : Nat
  closed : Bool

/-- The rounding interval of a positive magnitude, counted in quarters of its last place. -/
def Interval.ofMagnitude (magnitude : Nat) : Interval :=
  let significand := Binary64.significand magnitude
  let power := Binary64.scale magnitude - 2
  let center := 4 * significand
  let narrow := significand = Nat.pow 2 52 ∧ Binary64.scale magnitude ≠ -1074
  { center
    low := if narrow then center - 1 else center - 2
    high := center + 2
    unit := Nat.pow 2 power.toNat
    divisor := Nat.pow 2 (-power).toNat
    closed := significand % 2 = 0 }

/-- Whether a decimal lies in a rounding interval. -/
def Interval.contains (interval : Interval) (decimal : Decimal) : Bool :=
  let value := decimal.coefficient * Nat.pow 10 decimal.exponent.toNat * interval.divisor
  let place := interval.unit * Nat.pow 10 (-decimal.exponent).toNat
  if interval.closed then interval.low * place ≤ value && value ≤ interval.high * place
  else interval.low * place < value && value < interval.high * place

/-- The largest decimal with a given exponent that does not exceed the center of an interval. -/
def Interval.floor (interval : Interval) (exponent : Int) : Nat :=
  interval.center * interval.unit * Nat.pow 10 (-exponent).toNat
    / (interval.divisor * Nat.pow 10 exponent.toNat)

/-- The power of ten just above the center of an interval. -/
def Interval.decimalOrder (interval : Interval) : Int :=
  let estimate := (((interval.center * interval.unit).log2 : Int) - interval.divisor.log2)
    * 30103 / 100000
  if interval.floor (estimate - 1) = 0 then estimate - 1
  else if interval.floor estimate = 0 then estimate
  else if interval.floor (estimate + 1) = 0 then estimate + 1
  else estimate + 2

/-- The decimal of an interval nearest to its center among the two neighbours on one grid. -/
def Interval.onGrid? (interval : Interval) (exponent : Int) : Option Decimal :=
  let below : Decimal := ⟨interval.floor exponent, exponent⟩
  let above : Decimal := ⟨below.coefficient + 1, exponent⟩
  match interval.contains below, interval.contains above with
  | false, false => none
  | true, false => some below
  | false, true => some above
  | true, true =>
      let place := Nat.pow 10 exponent.toNat * interval.divisor
      let center := 2 * interval.center * interval.unit * Nat.pow 10 (-exponent).toNat
      let middle := (2 * below.coefficient + 1) * place
      if center < middle ∨ (center = middle ∧ below.coefficient % 2 = 0) then some below
      else some above

/-- The first grid with a hit, starting at `exponent` and growing finer `fuel` times. -/
def Interval.search (interval : Interval) : (fuel : Nat) → (exponent : Int) → Decimal
  | 0, exponent => ⟨interval.floor exponent, exponent⟩
  | fuel + 1, exponent =>
      match interval.onGrid? exponent with
      | some decimal => decimal
      | none => interval.search fuel (exponent - 1)

/-- The shortest decimal that reads back as a magnitude. Seventeen digits always do. -/
def shortest (magnitude : Nat) : Decimal :=
  if magnitude = 0 then ⟨0, 0⟩
  else
    let interval := Interval.ofMagnitude magnitude
    stripZeros 20 (interval.search 20 (interval.decimalOrder - 1))

/-- Where positional notation ends and how the other one looks. -/
structure Layout where
  /-- The point stands at most this many places before the first digit. -/
  leastPoint : Int
  /-- The point stands at most this many places after the first digit. -/
  greatestPoint : Int
  /-- Least number of digits of an exponent. -/
  exponentDigits : Nat

/-- Positional from `0.0001` up to sixteen digits, else one digit before the point and a signed
exponent of at least two digits. -/
def standardLayout : Layout := ⟨-3, 16, 2⟩

/-- A decimal in positional notation, without a point where the exponent is not negative. -/
def positional (decimal : Decimal) : List Char :=
  let shown := digits decimal.coefficient
  if 0 ≤ decimal.exponent then shown ++ List.replicate decimal.exponent.toNat '0'
  else
    let places := (-decimal.exponent).toNat
    let padded := List.replicate (places + 1 - shown.length) '0' ++ shown
    padded.take (padded.length - places) ++ '.' :: padded.drop (padded.length - places)

/-- An exponent with its mark and its sign. -/
def exponentText (layout : Layout) (exponent : Int) : List Char :=
  let size := digits exponent.natAbs
  'e' :: (if exponent < 0 then '-' else '+')
    :: (List.replicate (layout.exponentDigits - size.length) '0' ++ size)

/-- A decimal with one digit before the point and an exponent. -/
def exponential (layout : Layout) (decimal : Decimal) : List Char :=
  let shown := digits decimal.coefficient
  let mantissa := match shown with
    | first :: second :: rest => first :: '.' :: second :: rest
    | _ => shown
  mantissa ++ exponentText layout (decimal.exponent + shown.length - 1)

/-- Whether a decimal is laid out positionally: where its point stands decides. -/
def isPositional (layout : Layout) (decimal : Decimal) : Bool :=
  let point := decimal.exponent + (digits decimal.coefficient).length
  decimal.coefficient == 0 || (layout.leastPoint ≤ point && point ≤ layout.greatestPoint)

/-- A decimal as it is written: a positional one keeps a digit after the point. -/
def written (layout : Layout) (decimal : Decimal) : Decimal :=
  if isPositional layout decimal ∧ 0 ≤ decimal.exponent then
    ⟨decimal.coefficient * Nat.pow 10 (decimal.exponent.toNat + 1), -1⟩
  else decimal

end Decimal

namespace Binary64

/-- The decimal that the text of a finite number denotes, less its sign. -/
def decimal (magnitude : Nat) : Decimal :=
  Decimal.written Decimal.standardLayout (Decimal.shortest magnitude)

/-- The text of a number's absolute value in the standard layout. -/
def magnitudeText (magnitude : Nat) : List Char :=
  let shortest := Decimal.shortest magnitude
  if Decimal.isPositional Decimal.standardLayout shortest then
    Decimal.positional (decimal magnitude)
  else Decimal.exponential Decimal.standardLayout shortest

/-- A minus sign where the number is negative, minus zero included. -/
def signed (negative : Bool) (text : List Char) : List Char :=
  if negative then '-' :: text else text

/-- The text of a number. -/
def text : Binary64 → List Char
  | .finite negative magnitude => signed negative (magnitudeText magnitude)
  | .infinite negative => signed negative ['i', 'n', 'f']
  | .notANumber _ => ['n', 'a', 'n']

end Binary64
end Automation
