/-!
Contract: numbers of double precision.

Owns: the type of such numbers, and the one nearest to a decimal number, a tie
going to the even significand and a number beyond the largest becoming
infinite.

Does not own: the text of a number.
-/

namespace IconForge.Decimal

/-- A number of double precision. A finite one is `significand` times two to
the `exponent`, with a significand below 2^53 that is at least 2^52 unless the
exponent is the least one. -/
inductive Double where
  | finite (negative : Bool) (significand : Nat) (exponent : Int)
  | infinite (negative : Bool)
  | notANumber
deriving DecidableEq, Repr

namespace Double

/-- Whether a number is neither infinite nor undefined. -/
def isFinite : Double → Bool
  | finite _ _ _ => true
  | _ => false

def leastExponent : Int := -1074

def greatestExponent : Int := 971

end Double

/-- The quotient rounded to the nearest integer, a tie going to the even one. -/
def roundDiv (numerator denominator : Nat) : Nat :=
  let below := numerator / denominator
  let remainder := numerator % denominator
  if 2 * remainder < denominator then below
  else if denominator < 2 * remainder then below + 1
  else if below % 2 = 0 then below
  else below + 1

/-- The binary logarithm, rounded down, of a positive quotient. -/
def logFloor (numerator denominator : Nat) : Int :=
  let estimate : Int := (Nat.log2 numerator : Int) - (Nat.log2 denominator : Int)
  let reached :=
    if 0 ≤ estimate then denominator * Nat.pow 2 estimate.toNat ≤ numerator
    else denominator ≤ numerator * Nat.pow 2 (-estimate).toNat
  if reached then estimate else estimate - 1

def nearestQuotient (negative : Bool) (numerator denominator : Nat) : Double :=
  if numerator = 0 then
    .finite negative 0 Double.leastExponent
  else
    let exponent := max Double.leastExponent (logFloor numerator denominator - 52)
    let significand :=
      if 0 ≤ exponent then roundDiv numerator (denominator * Nat.pow 2 exponent.toNat)
      else roundDiv (numerator * Nat.pow 2 (-exponent).toNat) denominator
    let (significand, exponent) :=
      if significand = Nat.pow 2 53 then (Nat.pow 2 52, exponent + 1) else (significand, exponent)
    if Double.greatestExponent < exponent then .infinite negative
    else .finite negative significand exponent

/-- The number nearest to `digits` times ten to the `exponent`. Numbers that
are far beyond the largest or far below the least one are told by their number
of digits. -/
def nearest (negative : Bool) (digits : Nat) (exponent : Int) : Double :=
  let magnitude : Int := ((Nat.toDigits 10 digits).length : Int) + exponent
  if digits = 0 ∨ magnitude < -400 then .finite negative 0 Double.leastExponent
  else if 400 < magnitude then .infinite negative
  else if 0 ≤ exponent then nearestQuotient negative (digits * Nat.pow 10 exponent.toNat) 1
  else nearestQuotient negative digits (Nat.pow 10 (-exponent).toNat)

end IconForge.Decimal
