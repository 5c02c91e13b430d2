import IconForge.Decimal.Double

/-!
Contract: the text of a number of double precision.

Owns: the fewest digits that read back as the number, of several such the
nearest to it, and their positional form with a point.
-/

namespace IconForge.Decimal

/-- A positive interval around a value, as numerators over one denominator. -/
structure Interval where
  value : Nat
  low : Nat
  high : Nat
  closed : Bool
  denominator : Nat

/-- The decimal numbers that are nearest to a finite number other than zero.
Below a power of two the neighbour is only half as far away. -/
def roundingInterval (significand : Nat) (exponent : Int) : Interval :=
  let lowGap := if significand = Nat.pow 2 52 ∧ Double.leastExponent < exponent then 1 else 2
  let scale := if 2 ≤ exponent then Nat.pow 2 (exponent - 2).toNat else 1
  { value := 4 * significand * scale
    low := (4 * significand - lowGap) * scale
    high := (4 * significand + 2) * scale
    closed := significand % 2 = 0
    denominator := if 2 ≤ exponent then 1 else Nat.pow 2 (2 - exponent).toNat }

namespace Interval

def contains (interval : Interval) (numerator : Nat) : Bool :=
  if interval.closed then interval.low ≤ numerator && numerator ≤ interval.high
  else interval.low < numerator && numerator < interval.high

/-- The interval with all numbers divided by ten to the `place`. -/
def scaleDown (interval : Interval) (place : Int) : Interval :=
  if 0 ≤ place then
    { interval with denominator := interval.denominator * Nat.pow 10 place.toNat }
  else
    let factor := Nat.pow 10 (-place).toNat
    { interval with
      value := interval.value * factor
      low := interval.low * factor
      high := interval.high * factor }

/-- The integer in the interval that is nearest to its value, if the interval
holds one of the two beside the value. -/
def nearestInteger? (interval : Interval) : Option Nat :=
  let below := interval.value / interval.denominator
  let belowIn := 0 < below && interval.contains (below * interval.denominator)
  let aboveIn := interval.contains ((below + 1) * interval.denominator)
  let distanceBelow := interval.value - below * interval.denominator
  let distanceAbove := (below + 1) * interval.denominator - interval.value
  if belowIn && (!aboveIn || distanceBelow ≤ distanceAbove) then some below
  else if aboveIn then some (below + 1)
  else none

end Interval

/-- The fewest digits that read back as a finite number other than zero, and
the place of the last of them as a power of ten. -/
def shortest? (significand : Nat) (exponent : Int) : Option (Nat × Int) :=
  let interval := roundingInterval significand exponent
  (List.range 640).findSome? fun (step : Nat) =>
    let place : Int := 310 - (step : Int)
    (interval.scaleDown place).nearestInteger?.map fun digits => (digits, place)

/-- Digits with the last one at a power of ten, written with a point and at
least one digit on either side of it. -/
def positional (digits : Nat) (place : Int) : String :=
  let shown := Nat.toDigits 10 digits
  if 0 ≤ place then
    String.ofList (shown ++ List.replicate place.toNat '0') ++ ".0"
  else
    let places := (-place).toNat
    let padded := List.replicate (places + 1 - shown.length) '0' ++ shown
    let whole := padded.length - places
    String.ofList (padded.take whole) ++ "." ++ String.ofList (padded.drop whole)

def Double.text : Double → String
  | .finite negative significand exponent =>
    let sign := if negative then "-" else ""
    if significand = 0 then
      sign ++ "0.0"
    else
      match shortest? significand exponent with
      | some (digits, place) => sign ++ positional digits place
      | none => sign ++ positional (significand * Nat.pow 2 exponent.toNat) 0
  | .infinite negative => if negative then "-inf" else "inf"
  | .notANumber => "NaN"

end IconForge.Decimal
