/-!
Contract: places in the text of a document, and the characters that end lines
and separate words in it.

Owns: lines and columns, and the characters that a document may hold.
-/

namespace IconForge.Yaml

/-- A place in a text: how many lines, how many characters of its line and how
many characters of the text are in front of it. -/
structure Mark where
  line : Nat
  column : Nat
  index : Nat
deriving DecidableEq, Repr, Inhabited

def isBreak (c : Char) : Bool :=
  c == '\n' || c == '\u2028' || c == '\u2029'

/-- Whether a character separates words of a line. -/
def isGap (c : Char) : Bool :=
  c == ' ' || c == '\t'

/-- Whether a word cannot go on: a gap, a break or the end follows. -/
def endsWord (rest : List Char) : Bool :=
  match rest with
  | [] => true
  | c :: _ => isGap c || isBreak c

namespace Mark

def start : Mark where
  line := 0
  column := 0
  index := 0

def after (mark : Mark) (c : Char) : Mark :=
  if isBreak c then ⟨mark.line + 1, 0, mark.index + 1⟩
  else ⟨mark.line, mark.column + 1, mark.index + 1⟩

def afterAll (mark : Mark) (text : List Char) : Mark :=
  text.foldl after mark

end Mark

def isAllowed (c : Char) : Bool :=
  let code := c.toNat
  code == 0x09 || code == 0x0A || code == 0x0D || (0x20 ≤ code && code ≤ 0x7E) ||
    code == 0x85 || (0xA0 ≤ code && code ≤ 0xFFFD) || 0x10000 ≤ code

/-- The text with one and the same character for most breaks: a carriage
return, perhaps with a line feed behind it, a line feed and a next-line
character all count the same. -/
def unifyBreaks : List Char → List Char
  | [] => []
  | '\r' :: '\n' :: rest => '\n' :: unifyBreaks rest
  | c :: rest => (if c == '\r' || c == '\x85' then '\n' else c) :: unifyBreaks rest

/-- Whether a line starts with the mark of a document's start or end. -/
def startsDocumentMark (line : List Char) : Bool :=
  match line with
  | '-' :: '-' :: '-' :: rest => endsWord rest
  | '.' :: '.' :: '.' :: rest => endsWord rest
  | _ => false

end IconForge.Yaml
