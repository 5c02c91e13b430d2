import IconForge.Text.Blank
import IconForge.Text.Number

/-!
Contract: entity and character references in the texts and attribute values of
markup.

Owns: replacing every reference by the character it stands for, and the ways
in which a reference can be wrong.
-/

namespace IconForge.Svg

open IconForge.Text

/-- Why a character reference stands for no character. -/
inductive CharRefError where
  | signed
  /-- The digits are no number of the allowed size. -/
  | badNumber (cause : NumberError)
  | noCodePoint (code : Nat)
  | zero
deriving DecidableEq, Repr

/-- Why a reference cannot be replaced. Places are byte offsets in the text. -/
inductive ReferenceError where
  /-- No semicolon ends the reference that starts at `start`. -/
  | unterminated (start length : Nat)
  /-- No entity has the name that stands between two places. -/
  | unknownEntity (start stop : Nat) (name : String)
  /-- A character reference is wrong. -/
  | badCharRef (cause : CharRefError)
deriving DecidableEq, Repr

namespace CharRefError

def message : CharRefError → String
  | signed => "unexpected number sign"
  | badNumber cause => cause.message
  | noCodePoint code => "`" ++ toString code ++ "` is not a valid codepoint"
  | zero => "0x0 character is not permitted in XML"

/-- The error's wording, followed by that of each cause behind it. -/
def chain : CharRefError → List String
  | badNumber cause => [cause.message, cause.message]
  | other => [other.message]

end CharRefError

namespace ReferenceError

def message : ReferenceError → String
  | unterminated start length =>
    "Error while escaping character at range " ++ toString start ++ ".." ++ toString length ++
      ": Cannot find ';' after '&'"
  | unknownEntity start stop name =>
    "at " ++ toString start ++ ".." ++ toString stop ++ ": unrecognized entity `" ++ name ++ "`"
  | badCharRef cause => "invalid character reference: " ++ cause.message

/-- The error's wording, as often as it is passed on, followed by that of each
cause behind it. -/
def chain (error : ReferenceError) : List String :=
  [error.message, error.message] ++
    (match error with
      | badCharRef cause => cause.chain
      | _ => [])

end ReferenceError

def charOfCode (code : Nat) : Except CharRefError Char :=
  if code = 0 then .error .zero
  else if code < 0xD800 ∨ (0xDFFF < code ∧ code < 0x110000) then .ok (Char.ofNat code)
  else .error (.noCodePoint code)

/-- The code point that an unsigned number of at most 32 bits stands for. -/
def readCode (base : Nat) (digits : List Char) : Except CharRefError Nat :=
  match digits with
  | '+' :: _ => .error .signed
  | '-' :: _ => .error .signed
  | _ =>
    match readDigits base (widthBound 32) digits with
    | .ok code => .ok code
    | .error cause => .error (.badNumber cause)

/-- The character of a character reference, given what stands behind its
number sign: a lower-case `x` and hexadecimal digits, or decimal digits. -/
def readCharRef (digits : List Char) : Except CharRefError Char := do
  let code ←
    match digits with
    | 'x' :: hexDigits => readCode 16 hexDigits
    | _ => readCode 10 digits
  charOfCode code

def entity? (name : List Char) : Option Char :=
  match name with
  | ['l', 't'] => some '<'
  | ['g', 't'] => some '>'
  | ['a', 'm', 'p'] => some '&'
  | ['a', 'p', 'o', 's'] => some '\''
  | ['q', 'u', 'o', 't'] => some '"'
  | _ => none

/-- Cuts off what stands in front of the next semicolon, if no further
ampersand comes before that. -/
def cutReference? : List Char → Option (List Char × List Char)
  | [] => none
  | c :: rest =>
    if c = ';' then some ([], rest)
    else if c = '&' then none
    else (cutReference? rest).map fun (name, behind) => (c :: name, behind)

theorem length_lt_of_cutReference? {text name behind : List Char}
    (cut : cutReference? text = some (name, behind)) : behind.length < text.length := by
  induction text generalizing name behind with
  | nil => simp [cutReference?] at cut
  | cons c rest inductionHypothesis =>
    rw [cutReference?] at cut
    split at cut
    · simp only [Option.some.injEq, Prod.mk.injEq] at cut
      simp [← cut.2]
    · split at cut
      · simp at cut
      · obtain ⟨inner, innerCut, pairEqual⟩ := Option.map_eq_some_iff.mp cut
        have shorter := inductionHypothesis (show _ = some (inner.1, inner.2) from innerCut)
        simp only [Prod.mk.injEq] at pairEqual
        rw [List.length_cons, ← pairEqual.2]
        omega

/-- The character of a reference by what stands between its ampersand, at the
given place, and its semicolon. -/
def readReference (place : Nat) (name : List Char) : Except ReferenceError Char :=
  match name with
  | '#' :: digits =>
    match readCharRef digits with
    | .ok c => .ok c
    | .error cause => .error (.badCharRef cause)
  | _ =>
    match entity? name with
    | some c => .ok c
    | none =>
      .error (.unknownEntity (place + 1) (place + 1 + byteLength name) (String.ofList name))

/-- The rest of a text with its references replaced, given the place where it
starts and the length of the whole. -/
def resolveFrom (length place : Nat) (text : List Char) : Except ReferenceError (List Char) :=
  match text with
  | [] => .ok []
  | c :: rest =>
    if c = '&' then
      match cut : cutReference? rest with
      | none => .error (.unterminated place length)
      | some (name, behind) => do
        let replaced ← readReference place name
        let resolved ← resolveFrom length (place + byteLength name + 2) behind
        .ok (replaced :: resolved)
    else do
      let resolved ← resolveFrom length (place + c.utf8Size) rest
      .ok (c :: resolved)
termination_by text.length
decreasing_by
  · have shorter := length_lt_of_cutReference? cut
    simp only [List.length_cons]
    omega
  · simp

def resolve (text : List Char) : Except ReferenceError (List Char) :=
  resolveFrom (byteLength text) 0 text

end IconForge.Svg
