import IconForge.Data.Found
import IconForge.Decimal.Read
import IconForge.Text.Number
import IconForge.Yaml.Node

/-!
Contract: what the texts of a document stand for.

Owns:
- the words for nothing, truth and falsehood;
- the plain texts that are numbers;
- what a tag makes of a text.

Does not own: which kinds of values are wanted where.
-/

namespace IconForge.Yaml

open IconForge.Data
open IconForge.Decimal

def isNullWord (text : String) : Bool :=
  ["null", "Null", "NULL", "~"].contains text

def booleanWord? (text : String) : Option Bool :=
  if ["true", "True", "TRUE"].contains text then some true
  else if ["false", "False", "FALSE"].contains text then some false
  else none

/-! ### Numbers -/

/-- Whether a text is a zero with further digits behind it, which is no number. -/
def isPadded (text : List Char) : Bool :=
  match (cutSign text).2 with
  | '0' :: rest => !rest.isEmpty && rest.all Char.isDigit
  | _ => false

/-- The base that a number starts with, and what is behind it. -/
def cutBase : List Char → Nat × List Char
  | '0' :: 'x' :: digits => (16, digits)
  | '0' :: 'o' :: digits => (8, digits)
  | '0' :: 'b' :: digits => (2, digits)
  | digits => (10, digits)

def integerOf? (value : Int) : Option Scalar :=
  if -(Text.widthBound 63 : Int) ≤ value ∧ value < (Text.widthBound 64 : Int) then
    some (.integer value)
  else if -(Text.widthBound 127 : Int) ≤ value ∧ value < (Text.widthBound 128 : Int) then
    some (.wideInteger value)
  else none

def integer? (text : List Char) : Option Scalar := do
  let (isNegative, unsigned) := cutSign text
  let (base, digits) := cutBase unsigned
  let value ← (Text.readDigits base (Text.widthBound 128) digits).toOption
  if isPadded text then none
  else integerOf? (if isNegative then -(value : Int) else (value : Int))

def float? (text : List Char) : Option Double :=
  let unsigned :=
    match text with
    | '+' :: rest => rest
    | _ => text
  let hasTwoSigns := text.head? == some '+' && unsigned != (cutSign unsigned).2
  if hasTwoSigns then none
  else if [".inf", ".Inf", ".INF"].contains (String.ofList unsigned) then some (.infinite false)
  else if ["-.inf", "-.Inf", "-.INF"].contains (String.ofList text) then some (.infinite true)
  else if [".nan", ".NaN", ".NAN"].contains (String.ofList text) then some .notANumber
  else (Decimal.read? unsigned).filter Double.isFinite

def number? (text : List Char) : Option Scalar :=
  match integer? text with
  | some value => some value
  | none => if isPadded text then none else (float? text).map Scalar.float

/-! ### Texts with and without a tag -/

def plainMeaning (text : String) : Scalar :=
  if text.isEmpty || isNullWord text then .null
  else
    match booleanWord? text with
    | some value => .boolean value
    | none => (number? text.toList).getD (.string text)

def orWanted (wanted : String) (value : Option Scalar) : Except String Scalar :=
  match value with
  | some value => .ok value
  | none => .error wanted

def meaning (isPlain : Bool) (tag : Option Tag) (text : String) : Except String Scalar :=
  match tag with
  | some (.standard "bool") => orWanted "a boolean" ((booleanWord? text).map Scalar.boolean)
  | some (.standard "int") => orWanted "an integer" (integer? text.toList)
  | some (.standard "float") => orWanted "a float" ((float? text.toList).map Scalar.float)
  | some (.standard "null") =>
    orWanted "null" (if isNullWord text then some .null else none)
  | some (.standard _) | some (.foreign _) => .ok (.string text)
  | some (.own _) | none => .ok (if isPlain then plainMeaning text else .string text)

end IconForge.Yaml
