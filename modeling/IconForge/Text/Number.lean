/-!
Contract: natural numbers of bounded width read from digits.

Owns: the value of a digit, and reading a digit text that has to fit below a
bound, with the three ways in which that can fail.
-/

namespace IconForge.Text

/-- Why a text of digits is no number. -/
inductive NumberError where
  | noDigits
  /-- A character is no digit of the base. -/
  | badDigit
  | tooLarge
deriving DecidableEq, Repr

namespace NumberError

def message : NumberError → String
  | noDigits => "cannot parse integer from empty string"
  | badDigit => "invalid digit found in string"
  | tooLarge => "number too large to fit in target type"

end NumberError

/-- The bound of the natural numbers that take a number of bits. -/
def widthBound (bits : Nat) : Nat :=
  Nat.pow 2 bits

def digitValue? (base : Nat) (c : Char) : Option Nat :=
  let value? :=
    if c.isDigit then some (c.toNat - 0x30)
    else if 'a' ≤ c ∧ c ≤ 'f' then some (c.toNat - 0x57)
    else if 'A' ≤ c ∧ c ≤ 'F' then some (c.toNat - 0x37)
    else none
  value?.filter (· < base)

/-- The number that follows `value` when more digits are read. A bad digit is
reported before the overflow that its own place would cause. -/
def readDigitsFrom (base bound value : Nat) : List Char → Except NumberError Nat
  | [] => .ok value
  | c :: rest =>
    match digitValue? base c with
    | none => .error .badDigit
    | some digit =>
      if value * base + digit < bound then
        readDigitsFrom base bound (value * base + digit) rest
      else
        .error .tooLarge

def readDigits (base bound : Nat) (digits : List Char) : Except NumberError Nat :=
  if digits.isEmpty then .error .noDigits else readDigitsFrom base bound 0 digits

end IconForge.Text
