import IconForge.Keyed
import IconForge.Yaml.Tag

/-!
Contract: the directives in front of a document.

Owns:
- how a directive is written: the version of the rules, or a family of tags;
- what directives say together, and which of them contradict each other;
- the full names of tags.

Does not own: where directives may stand.
-/

namespace IconForge.Yaml

inductive Directive where
  | version (major minor : Nat)
  /-- A family of tags: its handle, and what their full names start with. -/
  | family (handle stem : String)
deriving DecidableEq, Repr

/-! ### Lines of directives -/

/-- The most digits of a number in a version. -/
def longestVersionNumber : Nat := 9

def readVersionNumber? (text : List Char) : Option (Nat × List Char) := do
  let digits := text.takeWhile Char.isDigit
  let value ← (String.ofList digits).toNat?
  if longestVersionNumber < digits.length then none
  else some (value, text.dropWhile Char.isDigit)

def readVersion? (text : List Char) : Option (Directive × List Char) := do
  let (major, rest) ← readVersionNumber? text
  match rest with
  | '.' :: rest =>
    let (minor, rest) ← readVersionNumber? rest
    some (.version major minor, rest)
  | _ => none

def readFamily? (text : List Char) : Option (Directive × List Char) := do
  let (handle, rest) ← readHandle? text
  let (stem, behind) ← readTagName? isFullTagChar (rest.dropWhile isGap)
  if (rest.head?.map isGap).getD false && !stem.isEmpty && endsWord behind then
    some (.family handle stem, behind)
  else none

/-- Reads a directive behind its percent sign. -/
def readDirective? (text : List Char) : Option (Directive × List Char) :=
  let behind := text.dropWhile isNameChar
  let value := behind.dropWhile isGap
  match endsWord behind, String.ofList (text.takeWhile isNameChar) with
  | true, "YAML" => readVersion? value
  | true, "TAG" => readFamily? value
  | _, _ => none

/-- What is behind the rest of a line, in which there may be nothing but gaps
and a comment. -/
def endLine? (text : List Char) : Option (List Char) :=
  let rest := text.dropWhile isGap
  let ending := if rest.head? == some '#' then rest.dropWhile (!isBreak ·) else rest
  match ending with
  | [] => some []
  | c :: behind => if isBreak c then some behind else none

/-! ### What directives say together -/

/-- What the directives in front of a document have said, each family once. -/
structure Preamble where
  hasVersion : Bool
  families : List (String × String)
  distinct : (families.map Prod.fst).Nodup
deriving Repr

namespace Preamble

def empty : Preamble where
  hasVersion := false
  families := []
  distinct := List.nodup_nil

def isEmpty (preamble : Preamble) : Bool :=
  !preamble.hasVersion && preamble.families.isEmpty

/-- Adds a directive. Each thing can be said once, and the version has to be one
of those that are known. -/
def add? (preamble : Preamble) (directive : Directive) : Option Preamble :=
  match directive with
  | .version major minor =>
    if !preamble.hasVersion && major == 1 && (minor == 1 || minor == 2) then
      some { preamble with hasVersion := true }
    else none
  | .family handle stem =>
    if (Keyed.get? handle preamble.families).isSome then none
    else
      some
        { preamble with
          families := Keyed.upsert handle stem preamble.families
          distinct := Keyed.nodup_map_fst_upsert preamble.distinct }

/-- The families that need not be declared. -/
def builtIn : List (String × String) :=
  [("!", "!"), ("!!", standardStem)]

/-- The full name of a tag in a family, if that is known. -/
def fullName? (preamble : Preamble) (handle name : String) : Option String :=
  (Keyed.get? handle (preamble.families ++ builtIn)).map fun stem => stem ++ name

end Preamble

end IconForge.Yaml
