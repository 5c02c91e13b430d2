import IconForge.Yaml.Mark

/-!
Contract: the ways in which a document writes a text.

Owns:
- plain texts, which end where their surroundings go on;
- texts in single and in double quotes, with escapes;
- blocks of lines, kept or folded;
- what gaps and breaks inside a text stand for.

Does not own: what a text stands for.
-/

namespace IconForge.Yaml

/-! ### Gaps inside a text -/

/-- The gaps and breaks behind the last word that has been read. -/
inductive Space where
  | none
  | gaps (chars : List Char)
  /-- A break, which may be escaped and then stands for nothing, and the breaks
  behind it. Gaps beside breaks stand for nothing. -/
  | breaks (first : Option Char) (more : List Char)
deriving DecidableEq, Repr

namespace Space

def addGap (space : Space) (c : Char) : Space :=
  match space with
  | none => gaps [c]
  | gaps chars => gaps (chars ++ [c])
  | breaks first more => breaks first more

def addBreak (space : Space) (c : Char) : Space :=
  match space with
  | breaks first more => breaks first (more ++ [c])
  | _ => breaks (some c) []

/-- What a space stands for: a single break is one blank, and of several ones
the first is left out. -/
def text : Space → List Char
  | none => []
  | gaps chars => chars
  | breaks (some '\n') [] => [' ']
  | breaks (some '\n') more => more
  | breaks first more => first.toList ++ more

def hasBreak : Space → Bool
  | breaks _ _ => true
  | _ => false

end Space

/-! ### Texts in quotes -/

def escaped? (c : Char) : Option Char :=
  match c with
  | '0' => some '\x00'
  | 'a' => some '\x07'
  | 'b' => some '\x08'
  | 't' => some '\t'
  | '\t' => some '\t'
  | 'n' => some '\n'
  | 'v' => some '\x0b'
  | 'f' => some '\x0c'
  | 'r' => some '\r'
  | 'e' => some '\x1b'
  | ' ' => some ' '
  | '"' => some '"'
  | '/' => some '/'
  | '\\' => some '\\'
  | 'N' => some '\x85'
  | '_' => some '\u00a0'
  | 'L' => some '\u2028'
  | 'P' => some '\u2029'
  | _ => none

/-- How many digits follow the letter of an escape that gives a code. -/
def codeLength? (c : Char) : Option Nat :=
  match c with
  | 'x' => some 2
  | 'u' => some 4
  | 'U' => some 8
  | _ => none

def hexValue? (c : Char) : Option Nat :=
  if c.isDigit then some (c.toNat - 0x30)
  else if 'a' ≤ c ∧ c ≤ 'f' then some (c.toNat - 0x57)
  else if 'A' ≤ c ∧ c ≤ 'F' then some (c.toNat - 0x37)
  else none

def ofCode? (code : Nat) : Option Char :=
  if code.isValidChar then some (Char.ofNat code) else none

/-- Where in a text in double quotes reading has come to. -/
inductive EscapeState where
  /-- At a character that may stand for itself. -/
  | outside
  | letter
  /-- In a code of which so many digits are missing. -/
  | code (missing value : Nat)
deriving DecidableEq, Repr

/-- Reads a text in double quotes up to the closing one, given what has been
read of it. -/
def readDouble? (read : List Char) (space : Space) (escape : EscapeState) :
    List Char → Option (List Char × List Char)
  | [] => none
  | c :: rest =>
    match escape with
    | .outside =>
      if c == '"' then some (read ++ space.text, rest)
      else if c == '\\' then readDouble? (read ++ space.text) .none .letter rest
      else if isGap c then readDouble? read (space.addGap c) .outside rest
      else if isBreak c then
        if startsDocumentMark rest then none
        else readDouble? read (space.addBreak c) .outside rest
      else readDouble? (read ++ space.text ++ [c]) .none .outside rest
    | .letter =>
      if isBreak c then
        if startsDocumentMark rest then none
        else readDouble? read (.breaks none []) .outside rest
      else
        match codeLength? c with
        | some length => readDouble? read .none (.code length 0) rest
        | none => (escaped? c).bind fun char => readDouble? (read ++ [char]) .none .outside rest
    | .code missing value =>
      (hexValue? c).bind fun digit =>
        let reached := value * 16 + digit
        if missing ≤ 1 then
          (ofCode? reached).bind fun char => readDouble? (read ++ [char]) .none .outside rest
        else readDouble? read .none (.code (missing - 1) reached) rest

/-- Reads a text in single quotes up to the closing one, given what has been
read of it. A quote that is written twice stands for one. -/
def readSingle? (read : List Char) (space : Space) : List Char → Option (List Char × List Char)
  | [] => none
  | '\'' :: '\'' :: rest => readSingle? (read ++ space.text ++ ['\'']) .none rest
  | c :: rest =>
    if c == '\'' then some (read ++ space.text, rest)
    else if isGap c then readSingle? read (space.addGap c) rest
    else if isBreak c then
      if startsDocumentMark rest then none else readSingle? read (space.addBreak c) rest
    else readSingle? (read ++ space.text ++ [c]) .none rest

/-! ### Plain texts -/

/-- Whether a character belongs to lists and records that are written inside
brackets. -/
def isBracketMark (c : Char) : Bool :=
  c == ',' || c == '[' || c == ']' || c == '\x7b' || c == '\x7d'

/-- A plain text, what is behind it, and whether a line has ended behind it. -/
structure PlainText where
  text : List Char
  rest : List Char
  brokeLine : Bool
deriving Repr

/-- Reads a plain text, given what has been read of it and the column inside a
new line. Outside of brackets a line that is indented less than `indent` does
not belong to it. -/
def readPlain? (inBrackets : Bool) (indent : Nat) (read : List Char) (space : Space)
    (column : Nat) : List Char → Option PlainText
  | [] => some ⟨read, [], space.hasBreak⟩
  | c :: rest =>
    if isGap c then
      if space.hasBreak && c == '\t' && column < indent then none
      else readPlain? inBrackets indent read (space.addGap c) (column + 1) rest
    else if isBreak c then readPlain? inBrackets indent read (space.addBreak c) 0 rest
    else
      let leaves := space.hasBreak && !inBrackets && column < indent
      let leavesDocument := space.hasBreak && column == 0 && startsDocumentMark (c :: rest)
      let startsComment := space != .none && c == '#'
      let next := rest.head?.getD ' '
      if leaves || leavesDocument || startsComment then
        some ⟨read, c :: rest, space.hasBreak⟩
      else if inBrackets && c == ':' && !rest.isEmpty && (isBracketMark next || next == '?') then
        none
      else if (c == ':' && endsWord rest) || (inBrackets && isBracketMark c) then
        some ⟨read, c :: rest, space.hasBreak⟩
      else readPlain? inBrackets indent (read ++ space.text ++ [c]) .none (column + 1) rest

/-! ### Blocks of lines -/

/-- A line and the break that ends it; the last line has none. -/
abbrev Line := List Char × Option Char

def linesOf : List Char → List Line
  | [] => [([], none)]
  | c :: rest =>
    if isBreak c then ([], some c) :: linesOf rest
    else
      match linesOf rest with
      | [] => [([c], none)]
      | (line, ending) :: lines => (c :: line, ending) :: lines

def textOfLines (lines : List Line) : List Char :=
  lines.flatMap fun line => line.1 ++ line.2.toList

/-- What becomes of the breaks at the end of a block. -/
inductive Chomping where
  | strip
  | clip
  | keep
deriving DecidableEq, Repr

/-- How a block is written. -/
structure BlockHeader where
  chomping : Chomping
  /-- The indentation that is given, if one is. -/
  indentation : Option Nat
deriving DecidableEq, Repr

def chompingOf? (c : Char) : Option Chomping :=
  if c = '+' then some .keep else if c = '-' then some .strip else none

/-- The indentation that a character stands for; zero is none. -/
def indentationOf? (c : Char) : Option Nat :=
  if c.isDigit && c != '0' then some (c.toNat - 0x30) else none

def readHeader? (text : List Char) : Option BlockHeader :=
  match text with
  | [] => some ⟨.clip, none⟩
  | [c] =>
    match chompingOf? c, indentationOf? c with
    | some chomping, _ => some ⟨chomping, none⟩
    | none, some indentation => some ⟨.clip, some indentation⟩
    | none, none => none
  | [c, d] =>
    match chompingOf? c, indentationOf? d, indentationOf? c, chompingOf? d with
    | some chomping, some indentation, _, _ => some ⟨chomping, some indentation⟩
    | _, _, some indentation, some chomping => some ⟨chomping, some indentation⟩
    | _, _, _, _ => none
  | _ => none

def saysNothing (line : List Char) : Bool :=
  match line.dropWhile isGap with
  | [] => true
  | c :: _ => c == '#'

def indentationOf (line : List Char) : Nat :=
  (line.takeWhile (· == ' ')).length

/-- The indentation that the first lines of a block show: that of its first line
with a word in it, or the greatest one of the lines in front of that. -/
def shownIndentation? (greatest : Nat) : List Line → Option Nat
  | [] => some greatest
  | (line, ending) :: rest =>
    let reached := max greatest (indentationOf line)
    match line.drop (indentationOf line) with
    | [] => if ending.isSome then shownIndentation? reached rest else some reached
    | c :: _ => if c == '\t' then none else some reached

/-- What has been read of a block. -/
structure BlockText where
  text : List Char
  /-- The break behind the last line that has been read. -/
  lastBreak : Option Char
  /-- The breaks of empty lines behind that. -/
  emptyBreaks : List Char
  /-- Whether the last line starts with a gap. -/
  startsWithGap : Bool
deriving Repr

namespace BlockText

def start : BlockText where
  text := []
  lastBreak := none
  emptyBreaks := []
  startsWithGap := false

/-- The block with one more line. A folded block turns a single break between
two lines into a blank, unless one of them starts with a gap. -/
def addLine (block : BlockText) (folded : Bool) (line : List Char) (ending : Option Char) :
    BlockText :=
  let startsWithGap := (line.head?.map isGap).getD false
  let joins :=
    if folded && block.lastBreak == some '\n' && !block.startsWithGap && !startsWithGap then
      if block.emptyBreaks.isEmpty then [' '] else []
    else block.lastBreak.toList
  ⟨block.text ++ joins ++ block.emptyBreaks ++ line, ending, [], startsWithGap⟩

def addEmpty (block : BlockText) (ending : Char) : BlockText :=
  { block with emptyBreaks := block.emptyBreaks ++ [ending] }

def finish (block : BlockText) (chomping : Chomping) : List Char :=
  match chomping with
  | .strip => block.text
  | .clip => block.text ++ block.lastBreak.toList
  | .keep => block.text ++ block.lastBreak.toList ++ block.emptyBreaks

end BlockText

/-- Reads the lines of a block, up to the first line that is indented less. -/
def readBlockLines? (folded : Bool) (indent : Nat) (block : BlockText) :
    List Line → Option (BlockText × List Char)
  | [] => some (block, [])
  | (line, ending) :: rest =>
    let indentation := min indent (indentationOf line)
    match line.drop indentation with
    | [] =>
      match ending with
      | none => some (block, [])
      | some c => readBlockLines? folded indent (block.addEmpty c) rest
    | c :: behind =>
      if indentation < indent then
        if c == '\t' then none
        else some (block, textOfLines ((c :: behind, ending) :: rest))
      else readBlockLines? folded indent (block.addLine folded (c :: behind) ending) rest

/-- Reads a block behind its mark; `indent` is the least column of its lines. -/
def readBlock? (folded : Bool) (indent : Nat) (text : List Char) :
    Option (List Char × List Char) := do
  let isHeaderChar := fun (c : Char) => c == '+' || c == '-' || c.isDigit
  let header ← readHeader? (text.takeWhile isHeaderChar)
  match linesOf (text.dropWhile isHeaderChar) with
  | [] => none
  | (line, ending) :: lines =>
    if !saysNothing line then none
    else if ending.isNone then some ([], [])
    else
      let reached ←
        match header.indentation with
        | some indentation => some (indent - 1 + indentation)
        | none => (shownIndentation? 0 lines).map fun shown => max (max shown indent) 1
      let (block, rest) ← readBlockLines? folded reached BlockText.start lines
      some (block.finish header.chomping, rest)

end IconForge.Yaml
