import IconForge.Data.Found
import IconForge.Decimal.Read
import IconForge.Json5.Term
import IconForge.Text.Number

/-!
Contract: what JSON5 terms stand for.

Owns: the text of a string, escapes and surrogate pairs included; the number
that a written number is; values; the ways in which a term stands for nothing.
-/

namespace IconForge.Json5

open IconForge.Data
open IconForge.Text

/-- Why a written string or number stands for nothing. -/
inductive ScalarError where
  /-- An integer has more than 64 bits or a form that integers do not have. -/
  | integer
  /-- A hexadecimal number has more than 32 bits, or a text is none. -/
  | hexadecimal
  /-- A number is none of the forms of a decimal number. -/
  | number
  /-- A number lies beyond the largest number. -/
  | tooLarge
  /-- The second half of a surrogate pair stands alone. -/
  | strayTrail
  /-- Nothing follows the first half of a surrogate pair. -/
  | missingTrail
  /-- Something else follows the first half of a surrogate pair. -/
  | wrongTrail
deriving DecidableEq, Repr

namespace ScalarError

def message : ScalarError → String
  | integer => "error parsing integer"
  | hexadecimal => "error parsing hex"
  | number => "error parsing number"
  | tooLarge => "error parsing number: too large"
  | strayTrail => "unexpected unicode trail surrogate"
  | missingTrail => "missing unicode trail surrogate"
  | wrongTrail => "expecting unicode trail surrogate"

end ScalarError

/-! ### Strings -/

/-- The character that stands for one behind a backslash. -/
def escapedChar (c : Char) : Char :=
  match c with
  | 'b' => '\x08'
  | 'f' => '\x0c'
  | 'n' => '\n'
  | 'r' => '\r'
  | 't' => '\t'
  | 'v' => '\x0b'
  | _ => c

def readHex (digits : List Char) : Except ScalarError Nat :=
  match readDigits 16 (widthBound 32) digits with
  | .ok value => .ok value
  | .error _ => .error .hexadecimal

/-- What is written of a piece, without backslash and marker. -/
def Piece.written : Piece → List Char
  | plain c => [c]
  | escaped c => [c]
  | nul => ['0']
  | byte digits => digits
  | unit digits => digits

/-- The character of a surrogate pair. The two parts are joined bit by bit, so
that a first half with its lowest plane bit set hides the carry. -/
def joinSurrogates (lead trail : Nat) : Char :=
  Char.ofNat (((lead - 0xD800) <<< 10) ||| ((trail - 0xDC00) + 0x10000))

/-- Whether a number is the first half of a surrogate pair. -/
def isLead (code : Nat) : Bool :=
  0xD800 ≤ code && code ≤ 0xDBFF

/-- Whether a number is the second half of a surrogate pair. -/
def isTrail (code : Nat) : Bool :=
  0xDC00 ≤ code && code ≤ 0xDFFF

def textOf : List Piece → Except ScalarError (List Char)
  | [] => .ok []
  | .unit digits :: rest => do
    let code ← readHex digits
    if isTrail code then
      .error .strayTrail
    else if isLead code then
      match rest with
      | [] => .error .missingTrail
      | next :: rest => do
        let trail ← readHex next.written
        if isTrail trail then do
          let following ← textOf rest
          .ok (joinSurrogates code trail :: following)
        else
          .error .wrongTrail
    else do
      let following ← textOf rest
      .ok (Char.ofNat code :: following)
  | .byte digits :: rest => do
    let code ← readHex digits
    let following ← textOf rest
    .ok (Char.ofNat code :: following)
  | .plain c :: rest => do
    let following ← textOf rest
    .ok (c :: following)
  | .escaped c :: rest => do
    let following ← textOf rest
    .ok (escapedChar c :: following)
  | .nul :: rest => do
    let following ← textOf rest
    .ok ('\x00' :: following)

def stringOf (pieces : List Piece) : Except ScalarError String :=
  (textOf pieces).map String.ofList

/-! ### Numbers -/

def hexDigits? (text : List Char) : Option (List Char) :=
  match text with
  | '0' :: x :: digits => if (x = 'x' ∨ x = 'X') ∧ digits ≠ [] then some digits else none
  | _ => none

/-- Whether a written number is an integer: a hexadecimal number without sign,
or one with neither point nor exponent that is not infinite or undefined. -/
def isIntegerText (text : List Char) : Bool :=
  !text.contains '.' &&
    ((hexDigits? text).isSome || (!text.contains 'e' && !text.contains 'E')) &&
    !(["Infinity", "-Infinity", "NaN", "-NaN"].contains (String.ofList text))

def readInteger (text : List Char) : Except ScalarError Int :=
  match hexDigits? text with
  | some digits => (readHex digits).map Int.ofNat
  | none =>
    let (negative, digits) := Decimal.cutSign text
    match readDigits 10 (if negative then widthBound 63 + 1 else widthBound 63) digits with
    | .ok value => .ok (if negative then -(value : Int) else value)
    | .error _ => .error .integer

/-- The number of double precision of a written number. -/
def readFloat (text : List Char) : Except ScalarError Decimal.Double :=
  match String.ofList text with
  | "Infinity" => .ok (.infinite false)
  | "-Infinity" => .ok (.infinite true)
  | "NaN" => .ok .notANumber
  | "-NaN" => .ok .notANumber
  | _ =>
    match Decimal.read? text with
    | none => .error .number
    | some value => if value.isFinite then .ok value else .error .tooLarge

def readNumber (text : List Char) : Except ScalarError Scalar :=
  if isIntegerText text then (readInteger text).map .integer
  else (readFloat text).map .float

/-! ### Values -/

/-- A term looked at from outside: a scalar with its value, or the parts. -/
inductive View where
  | scalar (value : Scalar)
  | list (items : List Term)
  | object (members : List (List Piece × Term))
deriving Repr

def Term.view : Term → Except ScalarError View
  | .null => .ok (.scalar .null)
  | .boolean value => .ok (.scalar (.boolean value))
  | .number text => (readNumber text).map .scalar
  | .string pieces => (stringOf pieces).map fun value => .scalar (.string value)
  | .list items => .ok (.list items)
  | .object members => .ok (.object members)

inductive Value where
  | scalar (value : Scalar)
  | list (items : List Value)
  | object (members : List (String × Value))
deriving Repr, Inhabited

mutual

/-- The value of a term: its parts are read in order, and the first that
stands for nothing is the outcome. -/
def Term.value : Term → Except ScalarError Value
  | .null => .ok (.scalar .null)
  | .boolean value => .ok (.scalar (.boolean value))
  | .number text => (readNumber text).map .scalar
  | .string pieces => (stringOf pieces).map fun value => .scalar (.string value)
  | .list items => (Term.values items).map .list
  | .object members => (Term.memberValues members).map .object

def Term.values : List Term → Except ScalarError (List Value)
  | [] => .ok []
  | term :: rest => do
    let value ← term.value
    let following ← Term.values rest
    .ok (value :: following)

def Term.memberValues : List (List Piece × Term) → Except ScalarError (List (String × Value))
  | [] => .ok []
  | (pieces, term) :: rest => do
    let key ← stringOf pieces
    let value ← term.value
    let following ← Term.memberValues rest
    .ok ((key, value) :: following)

end

end IconForge.Json5
