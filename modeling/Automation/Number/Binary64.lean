/-!
Double precision numbers, as exact data.

A finite number is a sign and a magnitude. The magnitude counts the positive numbers in increasing
order: its upper part is the biased exponent, its lower 52 bits the fraction. So every number has
one representation, and comparing magnitudes compares absolute values. Arithmetic is exact
rational arithmetic followed by one rounding to the nearest number, ties to the even one.
Not-a-number carries a payload, which arithmetic passes on and which tells one from another where
identity counts.
-/

namespace Automation

/-- Magnitudes below this bound are finite. -/
abbrev Binary64.magnitudeBound : Nat := 0x7FF0000000000000

/-- A double precision number. -/
inductive Binary64 where
  | finite (negative : Bool) (magnitude : Fin Binary64.magnitudeBound)
  | infinite (negative : Bool)
  | notANumber (payload : Nat)
  deriving DecidableEq, Repr, Inhabited

namespace Binary64

/-- The integral significand of a magnitude. -/
def significand (magnitude : Nat) : Nat :=
  if magnitude / Nat.pow 2 52 = 0 then magnitude
  else magnitude % Nat.pow 2 52 + Nat.pow 2 52

/-- The power of two that the significand of a magnitude is multiplied by. -/
def scale (magnitude : Nat) : Int :=
  if magnitude / Nat.pow 2 52 = 0 then -1074 else (magnitude / Nat.pow 2 52 : Nat) - 1075

/-- An integer times a power of two. -/
def scaled (factor : Int) (exponent : Int) : Rat :=
  if 0 ≤ exponent then (factor * Nat.pow 2 exponent.toNat : Int)
  else mkRat factor (Nat.pow 2 (-exponent).toNat)

/-- The exact value of a finite number. -/
def toRat? : Binary64 → Option Rat
  | .finite negative magnitude =>
      let factor : Int := significand magnitude
      some (scaled (if negative then -factor else factor) (scale magnitude))
  | _ => none

/-- The integer nearest to a quotient; halfway between two integers, the even one. -/
def roundedQuotient (numerator denominator : Nat) : Nat :=
  let quotient := numerator / denominator
  let remainder := numerator % denominator
  if denominator < 2 * remainder ∨ (2 * remainder = denominator ∧ quotient % 2 = 1) then
    quotient + 1
  else quotient

/-- The magnitude nearest to a quotient, not bounded above. -/
def nearestMagnitude (numerator denominator : Nat) : Nat :=
  if numerator = 0 then 0
  else
    let estimate : Int := (numerator.log2 : Int) - (denominator.log2 : Int)
    let reached := denominator * Nat.pow 2 estimate.toNat ≤ numerator * Nat.pow 2 (-estimate).toNat
    let exponent := if reached then estimate else estimate - 1
    let power := max (exponent - 52) (-1074)
    (power + 1074).toNat * Nat.pow 2 52
      + roundedQuotient (numerator * Nat.pow 2 (-power).toNat) (denominator * Nat.pow 2 power.toNat)

/-- The number nearest to a signed quotient. -/
def ofQuotient (negative : Bool) (numerator denominator : Nat) : Binary64 :=
  let magnitude := nearestMagnitude numerator denominator
  if bounded : magnitude < magnitudeBound then .finite negative ⟨magnitude, bounded⟩
  else .infinite negative

/-- Positive or negative zero. -/
def zero (negative : Bool) : Binary64 := .finite negative ⟨0, by decide⟩

/-- The number nearest to a rational number. -/
def ofRat (value : Rat) : Binary64 :=
  ofQuotient (value.num < 0) value.num.natAbs value.den

/-- The number nearest to an integer, unless it lies beyond the finite numbers. -/
def ofInt? (value : Int) : Option Binary64 :=
  match ofQuotient (value < 0) value.natAbs 1 with
  | .finite negative magnitude => some (.finite negative magnitude)
  | _ => none

/-- The number nearest to `coefficient * 10 ^ exponent`. Exponents beyond the range of the finite
numbers are settled without computing the power. -/
def ofDecimal (negative : Bool) (coefficient : Nat) (exponent : Int) : Binary64 :=
  if coefficient = 0 then zero negative
  else
    let size := (coefficient.log2 : Int) * 30103 / 100000 + exponent
    if 320 < size then .infinite negative
    else if size < -340 then zero negative
    else
      ofQuotient negative (coefficient * Nat.pow 10 exponent.toNat)
        (Nat.pow 10 (-exponent).toNat)

/-- The sign of a number; not-a-number has none. -/
def isNegative : Binary64 → Bool
  | .finite negative _ | .infinite negative => negative
  | .notANumber _ => false

/-- Numbers that are neither infinite nor not-a-number. -/
def isFinite : Binary64 → Bool
  | .finite _ _ => true
  | _ => false

/-- Both zeros, and nothing else. -/
def isZero : Binary64 → Bool
  | .finite _ magnitude => magnitude.val == 0
  | _ => false

/-- Numbers above zero. -/
def isPositive : Binary64 → Bool
  | .finite negative magnitude => !negative && magnitude.val != 0
  | .infinite negative => !negative
  | .notANumber _ => false

/-- The sum of two numbers. A sum of zero is negative only where both operands are. -/
def add (left right : Binary64) : Binary64 :=
  match left, right with
  | .notANumber payload, _ | _, .notANumber payload => .notANumber payload
  | .infinite a, .infinite b => if a = b then .infinite a else .notANumber 0
  | .infinite a, _ => .infinite a
  | _, .infinite b => .infinite b
  | .finite a _, .finite b _ =>
      let sum := (left.toRat?.getD 0) + (right.toRat?.getD 0)
      if sum = 0 then zero (a && b) else ofRat sum

/-- The number with the other sign. -/
def neg : Binary64 → Binary64
  | .finite negative magnitude => .finite (!negative) magnitude
  | .infinite negative => .infinite (!negative)
  | .notANumber payload => .notANumber payload

/-- The difference of two numbers. -/
def sub (left right : Binary64) : Binary64 := left.add right.neg

/-- The product of two numbers. -/
def mul (left right : Binary64) : Binary64 :=
  let negative := left.isNegative != right.isNegative
  match left, right with
  | .notANumber payload, _ | _, .notANumber payload => .notANumber payload
  | .infinite _, other | other, .infinite _ =>
      if other.isZero then .notANumber 0 else .infinite negative
  | .finite _ _, .finite _ _ =>
      let product := (left.toRat?.getD 0) * (right.toRat?.getD 0)
      ofQuotient negative product.num.natAbs product.den

/-- The quotient of two numbers; the divisor is not zero. -/
def div (left right : Binary64) : Binary64 :=
  let negative := left.isNegative != right.isNegative
  match left, right with
  | .notANumber payload, _ | _, .notANumber payload => .notANumber payload
  | .infinite _, .infinite _ => .notANumber 0
  | .infinite _, _ => .infinite negative
  | _, .infinite _ => zero negative
  | .finite _ _, .finite _ _ =>
      let quotient := (left.toRat?.getD 0) / (right.toRat?.getD 0)
      ofQuotient negative quotient.num.natAbs quotient.den

/-- The integral part of a finite number, toward zero. -/
def truncate? (number : Binary64) : Option Int :=
  number.toRat?.map fun value => value.num.tdiv value.den

/-- Finite numbers without a fractional part. -/
def isIntegral (number : Binary64) : Bool :=
  match number.toRat? with
  | some value => value.den == 1
  | none => false

/-- The number nearest to a natural number below the finite bound; used for constants. -/
def ofNat (value : Nat) : Binary64 := ofQuotient false value 1

end Binary64
end Automation
