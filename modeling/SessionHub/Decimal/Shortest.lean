import SessionHub.Decimal.Binary64
import SessionHub.Text.Numeral

/-!
# The shortest decimal that reads back

The numbers that round to a given magnitude form an interval. `shortest` looks for the
coarsest decimal grid with a point in that interval, and on it for the point nearest to
the magnitude; as soon as a grid has a point in the interval, one of the magnitude's two
neighbours on the grid is such a point, so only these two are tried.
-/

namespace SessionHub
namespace Decimal

/-- A decimal `digits * 10 ^ exponent`. -/
structure Scaled where
  digits : Nat
  exponent : Int
deriving DecidableEq, Repr

namespace Magnitude

/-- Whether the numbers half a unit away still round to the magnitude. -/
def endsIncluded (magnitude : Magnitude) : Bool :=
  magnitude.significand % 2 = 0

/-- Whether the next smaller magnitude is only half a unit away. -/
def isBinade (magnitude : Magnitude) : Bool :=
  magnitude.significand = 0x10000000000000 && minExponent < magnitude.exponent

/-- Whether `numerator / denominator` rounds to the magnitude: it lies at most half a
unit above it, and at most half of the gap below it. Quarters of a unit keep this in
whole numbers. -/
def roundsFrom (magnitude : Magnitude) (numerator denominator : Nat) : Bool :=
  let value := 4 * numerator * magnitude.denominator
  let unit := denominator * Nat.pow 2 magnitude.exponent.toNat
  let low := unit * (4 * magnitude.significand - if magnitude.isBinade then 1 else 2)
  let high := unit * (4 * magnitude.significand + 2)
  if magnitude.endsIncluded then low ≤ value && value ≤ high
  else low < value && value < high

/-- The greatest exponent `k` with `10 ^ k` at most the magnitude. -/
def decimalExponent (magnitude : Magnitude) : Int :=
  let whole := magnitude.numerator / magnitude.denominator
  if whole = 0 then
    -((Text.natDigits ((magnitude.denominator - 1) / magnitude.numerator)).length : Int)
  else ((Text.natDigits whole).length : Int) - 1

/-- The better of the two neighbours of the magnitude on the grid of multiples of
`10 ^ exponent`, if one of them rounds to it. A tie goes to the even multiple. -/
def onGrid (magnitude : Magnitude) (exponent : Int) : Option Scaled :=
  let up := Nat.pow 10 exponent.toNat
  let down := Nat.pow 10 (-exponent).toNat
  let numerator := magnitude.numerator * down
  let denominator := magnitude.denominator * up
  let below := numerator / denominator
  let belowFits := magnitude.roundsFrom (below * up) down
  let aboveFits := magnitude.roundsFrom ((below + 1) * up) down
  let twice := 2 * (numerator % denominator)
  if belowFits && aboveFits then
    if twice < denominator ∨ (twice = denominator ∧ below % 2 = 0) then
      some ⟨below, exponent⟩
    else some ⟨below + 1, exponent⟩
  else if belowFits then some ⟨below, exponent⟩
  else if aboveFits then some ⟨below + 1, exponent⟩
  else none

/-- The first grid with a point that rounds to the magnitude, looking at `count` grids
from the given exponent downwards. -/
def firstOnGrid (magnitude : Magnitude) (exponent : Int) : Nat → Option Scaled
  | 0 => none
  | count + 1 =>
    match magnitude.onGrid exponent with
    | some found => some found
    | none => firstOnGrid magnitude (exponent - 1) count

/-- The shortest decimal that rounds to the magnitude, and of those the nearest one.
Seventeen digits always suffice. -/
def shortest (magnitude : Magnitude) : Scaled :=
  if magnitude.significand = 0 then ⟨0, 0⟩
  else (magnitude.firstOnGrid magnitude.decimalExponent 17).getD
    ⟨magnitude.numerator, 0⟩

end Magnitude
end Decimal
end SessionHub
