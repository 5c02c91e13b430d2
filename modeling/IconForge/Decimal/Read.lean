import IconForge.Decimal.Double

/-!
Contract: numbers of double precision read from decimal text.

Owns: the accepted form (sign, digits with at most one point, exponent) and
the number such a text stands for.
-/

namespace IconForge.Decimal

def digitsValue (digits : List Char) : Nat :=
  digits.foldl (fun value c => value * 10 + (c.toNat - 0x30)) 0

/-- A sign in front of a text, if there is one: whether it is a minus, and
what follows it. -/
def cutSign : List Char → Bool × List Char
  | '-' :: rest => (true, rest)
  | '+' :: rest => (false, rest)
  | text => (false, text)

/-- The exponent that ends a number: nothing, or a letter and a signed number
of at least one digit. -/
def readExponent? (text : List Char) : Option Int :=
  match text with
  | [] => some 0
  | c :: rest =>
    if c = 'e' ∨ c = 'E' then
      let (negative, digits) := cutSign rest
      if digits.isEmpty || !digits.all Char.isDigit then none
      else
        let value : Int := (digitsValue digits : Int)
        some (if negative then -value else value)
    else
      none

def read? (text : List Char) : Option Double :=
  let (negative, unsigned) := cutSign text
  let whole := unsigned.takeWhile Char.isDigit
  let afterWhole := unsigned.dropWhile Char.isDigit
  let (fraction, afterFraction) :=
    match afterWhole with
    | '.' :: rest => (rest.takeWhile Char.isDigit, rest.dropWhile Char.isDigit)
    | _ => ([], afterWhole)
  if whole.isEmpty && fraction.isEmpty then
    none
  else
    (readExponent? afterFraction).map fun exponent =>
      nearest negative (digitsValue (whole ++ fraction)) (exponent - (fraction.length : Int))

end IconForge.Decimal
