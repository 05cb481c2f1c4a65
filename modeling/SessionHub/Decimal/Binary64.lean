/-!
# Binary64

A finite binary64 number is a sign and `significand * 2 ^ exponent`, where the
significand has at most 53 bits and the exponent is at least -1074. Arithmetic is
exact arithmetic on fractions of natural numbers followed by `round`, which goes to the
nearest representable magnitude and to the even one on a tie.
-/

namespace SessionHub
namespace Decimal

/-- A magnitude `significand * 2 ^ exponent`. -/
structure Magnitude where
  significand : Nat
  exponent : Int
deriving DecidableEq, Repr

namespace Magnitude

/-- The numerator of a magnitude as a fraction. -/
def numerator (magnitude : Magnitude) : Nat :=
  magnitude.significand * Nat.pow 2 magnitude.exponent.toNat

/-- The denominator of a magnitude as a fraction. -/
def denominator (magnitude : Magnitude) : Nat :=
  Nat.pow 2 (-magnitude.exponent).toNat

/-- The least exponent of a representable magnitude. -/
def minExponent : Int := -1074

/-- The greatest exponent of a representable magnitude. -/
def maxExponent : Int := 971

/-- The quotient of two natural numbers, rounded to the nearest one, a tie to the even
one. -/
def roundDiv (numerator denominator : Nat) : Nat :=
  let quotient := numerator / denominator
  let twice := 2 * (numerator % denominator)
  if twice < denominator then quotient
  else if denominator < twice then quotient + 1
  else quotient + quotient % 2

/-- `numerator / denominator` in units of `2 ^ exponent`, rounded. -/
def scaled (numerator denominator : Nat) (exponent : Int) : Nat :=
  roundDiv (numerator * Nat.pow 2 (-exponent).toNat) (denominator * Nat.pow 2 exponent.toNat)

/-- The unit in which a fraction has a 53-bit quotient, or the least unit. -/
def unitOf (numerator denominator : Nat) : Int :=
  let guess : Int := (numerator.log2 : Int) - (denominator.log2 : Int) - 52
  let tooLarge :=
    numerator * Nat.pow 2 (-guess).toNat < denominator * Nat.pow 2 guess.toNat * 0x10000000000000
  max (if tooLarge then guess - 1 else guess) minExponent

/-- The representable magnitude nearest to a fraction, or `none` if it lies beyond the
greatest one. -/
def round (numerator denominator : Nat) : Option Magnitude :=
  if numerator = 0 then some ⟨0, minExponent⟩
  else
    let unit := unitOf numerator denominator
    let significand := scaled numerator denominator unit
    let result : Magnitude :=
      if significand = 0x20000000000000 then ⟨0x10000000000000, unit + 1⟩ else ⟨significand, unit⟩
    if maxExponent < result.exponent then none else some result

/-- The rounded product of two magnitudes. -/
def mul (first second : Magnitude) : Option Magnitude :=
  round (first.numerator * second.numerator) (first.denominator * second.denominator)

/-- The rounded quotient of two magnitudes. -/
def div (first second : Magnitude) : Option Magnitude :=
  round (first.numerator * second.denominator) (first.denominator * second.numerator)

end Magnitude

/-- A finite binary64 number. -/
structure Binary64 where
  negative : Bool
  magnitude : Magnitude
deriving DecidableEq, Repr

namespace Binary64

/-- The representable power of ten nearest to `10 ^ exponent`, for exponents to 308. -/
def powerOfTen (exponent : Nat) : Option Magnitude :=
  Magnitude.round (Nat.pow 10 exponent) 1

/-- Divide by `10 ^ 308` so many times, or until nothing is left. -/
def divideRepeatedly (magnitude : Magnitude) : Nat → Option Magnitude
  | 0 => some magnitude
  | count + 1 =>
    if magnitude.significand = 0 then some magnitude
    else
      (powerOfTen 308).bind fun power =>
        (magnitude.div power).bind fun less => divideRepeatedly less count

/-- Scale a magnitude by a power of ten, in steps that each round: one multiplication or
division by a power up to `10 ^ 308`, after as many divisions by `10 ^ 308` as a more
negative exponent needs. `none` is a result beyond the greatest magnitude. -/
def scaleByTen (magnitude : Magnitude) (exponent : Int) : Option Magnitude :=
  if magnitude.significand = 0 then some magnitude
  else if 0 ≤ exponent then
    if 308 < exponent then none
    else (powerOfTen exponent.toNat).bind magnitude.mul
  else
    let down := (-exponent).toNat
    let steps := (down - 1) / 308
    (divideRepeatedly magnitude steps).bind fun less =>
      (powerOfTen (down - 308 * steps)).bind less.div

/-- The number with the given sign nearest to `digits * 10 ^ exponent`, by scaling the
rounded digits. -/
def ofScaled (negative : Bool) (digits : Nat) (exponent : Int) : Option Binary64 := do
  let whole ← Magnitude.round digits 1
  let magnitude ← scaleByTen whole exponent
  pure ⟨negative, magnitude⟩

end Binary64
end Decimal
end SessionHub
