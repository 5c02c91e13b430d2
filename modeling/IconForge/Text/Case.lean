import IconForge.Text.Case.Table

/-!
Contract: upper and lower forms of characters and texts.

Owns: the form of one character, and the lower form of a text, in which a
sigma takes its final form at the end of a word.

Does not own: the table data.
-/

namespace IconForge.Text.Case

def Run.image? (run : Run) (code : Nat) : Option Char :=
  if run.first ≤ code ∧ code ≤ run.last ∧ (code - run.first) % run.step = 0 then
    some (Char.ofNat (code + run.shift).toNat)
  else
    none

/-- The form that the tables give a character, which is the character itself
when no table has it. -/
def formOf (expansions : List (Nat × List Nat)) (runs : List Run) (c : Char) : List Char :=
  match expansions.find? (fun expansion => expansion.1 == c.toNat) with
  | some expansion => expansion.2.map Char.ofNat
  | none =>
    match runs.findSome? (fun run => run.image? c.toNat) with
    | some image => [image]
    | none => [c]

def upper (c : Char) : List Char :=
  if c.toNat < 0x80 then [c.toUpper] else formOf upperExpansions upperRuns c

def lower (c : Char) : List Char :=
  if c.toNat < 0x80 then [c.toLower] else formOf lowerExpansions lowerRuns c

/-- Whether a text, its ignorable characters in front left aside, starts with
a character that has case. -/
def startsCased (text : List Char) : Bool :=
  match text.dropWhile caseIgnorable.contains with
  | [] => false
  | c :: _ => cased.contains c

/-- The lower form of a text, given the characters in front of it, nearest
first. A capital sigma becomes the final sigma when a cased character comes
before it and none comes after it. -/
def lowerAfter (before : List Char) : List Char → List Char
  | [] => []
  | c :: rest =>
    let form :=
      if c = 'Σ' then
        [if startsCased before && !startsCased rest then 'ς' else 'σ']
      else
        lower c
    form ++ lowerAfter (c :: before) rest

def lowerText (text : List Char) : List Char :=
  lowerAfter [] text

end IconForge.Text.Case
