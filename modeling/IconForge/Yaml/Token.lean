import IconForge.Yaml.Directive
import IconForge.Yaml.Scalar

/-!
Contract: the tokens of a document.

Owns:
- directives, words, quoted texts, blocks and marks, with their places;
- the tokens that indentation stands for;
- keys without a mark in front, which are known by the colon behind them;
- how far a text that breaks the rules can be read.

Does not own: the structure that tokens make up.
-/

namespace IconForge.Yaml

/-- What a token is. -/
inductive TokenKind where
  | directive (directive : Directive)
  | documentStart
  | documentEnd
  | textEnd
  | listStart
  | recordStart
  | linesEnd
  | openList
  | closeList
  | openRecord
  | closeRecord
  | comma
  /-- An item of a list of lines starts. -/
  | item
  | key
  | value
  | anchor (name : String)
  | alias (name : String)
  /-- A tag: the handle of its family, which is empty in front of a full name,
  and its name. -/
  | tag (handle name : String)
  | text (isPlain : Bool) (value : String)
deriving DecidableEq, Repr

/-- A token, with the places where it starts and where it ends. -/
structure Token where
  kind : TokenKind
  start : Mark
  stop : Mark
deriving DecidableEq, Repr

/-- A token that may turn out to be a key. -/
structure Candidate where
  /-- The number of tokens in front of it. -/
  position : Nat
  start : Mark
  /-- Whether its place in a record demands that it is a key. -/
  demanded : Bool
deriving DecidableEq, Repr

/-- How many characters a key may be away from its colon. -/
def longestKey : Nat := 1024

/-- How far a text has been read. -/
structure Scan where
  rest : List Char
  mark : Mark
  tokens : List Token
  /-- The columns of the lists and records of lines that are open, innermost
  first. -/
  columns : List Nat
  /-- What may be a key in the innermost brackets, or outside of all. -/
  candidate : Option Candidate
  /-- What may be a key in front of each open bracket, innermost first. -/
  outer : List (Option Candidate)
  /-- Whether a key without a mark in front may start here. -/
  allowsKey : Bool
deriving Repr

namespace Scan

/-- The mark of byte order that may stand in front of a text. -/
def orderMark : Char := '\ufeff'

/-- A text of which nothing has been read; a mark of byte order counts as one
column. -/
def start (text : List Char) : Scan :=
  let hasOrderMark := text.head? == some orderMark
  { rest := if hasOrderMark then text.tail else text
    mark := if hasOrderMark then Mark.start.after orderMark else Mark.start
    tokens := []
    columns := []
    candidate := none
    outer := []
    allowsKey := true }

def inBrackets (scan : Scan) : Bool :=
  !scan.outer.isEmpty

/-- The least column of what belongs to the innermost list or record of
lines. -/
def leastColumn (scan : Scan) : Nat :=
  match scan.columns with
  | [] => 0
  | column :: _ => column + 1

def moveTo (scan : Scan) (rest : List Char) : Scan :=
  let passed := scan.rest.take (scan.rest.length - rest.length)
  { scan with rest := rest, mark := scan.mark.afterAll passed }

def emit (scan : Scan) (kind : TokenKind) (rest : List Char) : Scan :=
  let moved := scan.moveTo rest
  { moved with tokens := moved.tokens ++ [⟨kind, scan.mark, moved.mark⟩] }

def insertHere (scan : Scan) (kind : TokenKind) : Scan :=
  { scan with tokens := scan.tokens ++ [⟨kind, scan.mark, scan.mark⟩] }

/-! ### Keys -/

/-- Gives up what may be a key, unless it has to be one. -/
def dropCandidate? (scan : Scan) : Option Scan :=
  match scan.candidate with
  | some candidate => if candidate.demanded then none else some { scan with candidate := none }
  | none => some scan

/-- Takes what comes next for what may be a key, where one may start. -/
def markCandidate? (scan : Scan) : Option Scan :=
  if scan.allowsKey then
    scan.dropCandidate?.map fun cleared =>
      let demanded := !scan.inBrackets && scan.columns.head? == some scan.mark.column
      { cleared with candidate := some ⟨scan.tokens.length, scan.mark, demanded⟩ }
  else some scan

/-- Whether a key can no longer be completed at a place. -/
def isStale (mark : Mark) (candidate : Candidate) : Bool :=
  candidate.start.line < mark.line || candidate.start.index + longestKey < mark.index

/-- A candidate, as long as it can be completed at a place; one that has to be
a key may not go. -/
def refresh? (mark : Mark) (candidate : Option Candidate) : Option (Option Candidate) :=
  match candidate with
  | none => some none
  | some present =>
    if isStale mark present then if present.demanded then none else some none
    else some candidate

/-- Gives up everything that can no longer be a key. -/
def dropStale? (scan : Scan) : Option Scan := do
  let outer ← scan.outer.mapM (refresh? scan.mark)
  let candidate ← refresh? scan.mark scan.candidate
  some { scan with candidate := candidate, outer := outer }

/-! ### Indentation -/

/-- Starts a list or a record of lines at a column, if that is further inside.
Its token comes behind the first `position` tokens. -/
def indent (scan : Scan) (kind : TokenKind) (position : Nat) (start : Mark) : Scan :=
  if scan.inBrackets || start.column < scan.leastColumn then scan
  else
    { scan with
      columns := start.column :: scan.columns
      tokens := scan.tokens.take position ++ [⟨kind, start, start⟩] ++
        scan.tokens.drop position }

/-- The open columns that are not further inside than `limit`. -/
def columnsWithin (limit : Nat) (columns : List Nat) : List Nat :=
  columns.dropWhile fun column => limit ≤ column

/-- Ends the lists and records of lines at the columns from `limit` on. -/
def unindent (scan : Scan) (limit : Nat) : Scan :=
  if scan.inBrackets then scan
  else
    let kept := columnsWithin limit scan.columns
    let ends := List.replicate (scan.columns.length - kept.length)
      (⟨.linesEnd, scan.mark, scan.mark⟩ : Token)
    { scan with columns := kept, tokens := scan.tokens ++ ends }

/-! ### Gaps between tokens -/

/-- What follows gaps, breaks and comments, and whether a key may start there.
Outside of brackets a break allows a key, and a tab may not stand in front of
one. -/
def skipSpace (inBrackets allowsKey inComment : Bool) : List Char → Bool × List Char
  | [] => (allowsKey, [])
  | c :: rest =>
    if isBreak c then skipSpace inBrackets (allowsKey || !inBrackets) false rest
    else if inComment then skipSpace inBrackets allowsKey true rest
    else if c == ' ' || (c == '\t' && (inBrackets || !allowsKey)) then
      skipSpace inBrackets allowsKey false rest
    else if c == '#' then skipSpace inBrackets allowsKey true rest
    else (allowsKey, c :: rest)

def skip (scan : Scan) : Scan :=
  let (allowsKey, rest) := skipSpace scan.inBrackets scan.allowsKey false scan.rest
  { scan.moveTo rest with allowsKey := allowsKey }

/-! ### Tokens -/

def readDirective? (scan : Scan) (behind : List Char) : Option Scan := do
  let cleared ← (scan.unindent 0).dropCandidate?
  let (directive, rest) ← Yaml.readDirective? behind
  let nextLine ← endLine? rest
  some (({ cleared with allowsKey := false }.emit (.directive directive) rest).moveTo nextLine)

def readDocumentMark? (scan : Scan) (kind : TokenKind) (rest : List Char) : Option Scan := do
  let cleared ← (scan.unindent 0).dropCandidate?
  some ({ cleared with allowsKey := false }.emit kind rest)

def readOpening? (scan : Scan) (kind : TokenKind) (rest : List Char) : Option Scan := do
  let marked ← scan.markCandidate?
  let opened :=
    { marked with candidate := none, outer := marked.candidate :: marked.outer, allowsKey := true }
  some (opened.emit kind rest)

def readClosing? (scan : Scan) (kind : TokenKind) (rest : List Char) : Option Scan := do
  let cleared ← scan.dropCandidate?
  let closed :=
    match cleared.outer with
    | [] => cleared
    | candidate :: outer => { cleared with candidate := candidate, outer := outer }
  some ({ closed with allowsKey := false }.emit kind rest)

def readComma? (scan : Scan) (rest : List Char) : Option Scan := do
  let cleared ← scan.dropCandidate?
  some ({ cleared with allowsKey := true }.emit .comma rest)

def readItem? (scan : Scan) (rest : List Char) : Option Scan :=
  if !scan.inBrackets && !scan.allowsKey then none
  else do
    let indented := scan.indent .listStart scan.tokens.length scan.mark
    let cleared ← indented.dropCandidate?
    some ({ cleared with allowsKey := true }.emit .item rest)

def readKey? (scan : Scan) (rest : List Char) : Option Scan :=
  if !scan.inBrackets && !scan.allowsKey then none
  else do
    let indented := scan.indent .recordStart scan.tokens.length scan.mark
    let cleared ← indented.dropCandidate?
    some ({ cleared with allowsKey := !scan.inBrackets }.emit .key rest)

/-- Reads the mark of a value. What may be a key in front of it is one. -/
def readValue? (scan : Scan) (rest : List Char) : Option Scan :=
  match scan.candidate with
  | some candidate =>
    let position := candidate.position
    let keyed :=
      { scan with
        candidate := none
        allowsKey := false
        tokens := scan.tokens.take position ++
          (⟨.key, candidate.start, candidate.start⟩ : Token) :: scan.tokens.drop position }
    some ((keyed.indent .recordStart position candidate.start).emit .value rest)
  | none =>
    if !scan.inBrackets && !scan.allowsKey then none
    else
      let indented := scan.indent .recordStart scan.tokens.length scan.mark
      some ({ indented with allowsKey := !scan.inBrackets }.emit .value rest)

def endsName (rest : List Char) : Bool :=
  endsWord rest ||
    (rest.head?.map fun c =>
      ['?', ':', ',', ']', '\x7d', '%', '@', '\x60'].contains c).getD false

def readName? (scan : Scan) (kind : String → TokenKind) (behind : List Char) : Option Scan := do
  let name := behind.takeWhile isNameChar
  let rest := behind.dropWhile isNameChar
  let marked ← scan.markCandidate?
  if name.isEmpty || !endsName rest then none
  else some ({ marked with allowsKey := false }.emit (kind (String.ofList name)) rest)

/-- Reads a tag. Behind it a gap or a break has to follow, or a comma between
brackets. -/
def readTag? (scan : Scan) : Option Scan := do
  let marked ← scan.markCandidate?
  let ((handle, name), rest) ← Yaml.readTag? scan.rest
  if endsWord rest || (scan.inBrackets && rest.head? == some ',') then
    some ({ marked with allowsKey := false }.emit (.tag handle name) rest)
  else none

def readQuoted? (scan : Scan) (reading : Option (List Char × List Char)) : Option Scan := do
  let marked ← scan.markCandidate?
  let (value, rest) ← reading
  some ({ marked with allowsKey := false }.emit (.text false (String.ofList value)) rest)

def readBlock? (scan : Scan) (folded : Bool) (behind : List Char) : Option Scan := do
  let cleared ← scan.dropCandidate?
  let (value, rest) ← Yaml.readBlock? folded scan.leastColumn behind
  some ({ cleared with allowsKey := true }.emit (.text false (String.ofList value)) rest)

def readPlainText? (scan : Scan) : Option Scan := do
  let marked ← scan.markCandidate?
  let plain ← readPlain? scan.inBrackets scan.leastColumn [] .none scan.mark.column scan.rest
  some ({ marked with allowsKey := plain.brokeLine }.emit
    (.text true (String.ofList plain.text)) plain.rest)

def startsPlain (inBrackets : Bool) (text : List Char) : Bool :=
  match text with
  | [] => false
  | c :: rest =>
    let isMark :=
      isGap c || isBracketMark c ||
        ['-', '?', ':', '#', '&', '*', '!', '|', '>', '\'', '"', '%', '@', '\x60'].contains c
    let next := rest.head?.getD '\n'
    !isMark || (c == '-' && !isGap next) ||
      (!inBrackets && (c == '?' || c == ':') && !endsWord rest)

def readToken? (scan : Scan) : Option Scan :=
  let atLineStart := scan.mark.column == 0
  match scan.rest with
  | [] => none
  | c :: rest =>
    if atLineStart && c == '%' then scan.readDirective? rest
    else if atLineStart && startsDocumentMark (c :: rest) then
      scan.readDocumentMark? (if c == '-' then .documentStart else .documentEnd) (rest.drop 2)
    else
      let isMark := scan.inBrackets || endsWord rest
      match c with
      | '[' => scan.readOpening? .openList rest
      | '\x7b' => scan.readOpening? .openRecord rest
      | ']' => scan.readClosing? .closeList rest
      | '\x7d' => scan.readClosing? .closeRecord rest
      | ',' => scan.readComma? rest
      | '*' => scan.readName? .alias rest
      | '&' => scan.readName? .anchor rest
      | '!' => scan.readTag?
      | '\'' => scan.readQuoted? (readSingle? [] .none rest)
      | '"' => scan.readQuoted? (readDouble? [] .none .outside rest)
      | _ =>
        if c == '-' && endsWord rest then scan.readItem? rest
        else if c == '?' && isMark then scan.readKey? rest
        else if c == ':' && isMark then scan.readValue? rest
        else if c == '|' && !scan.inBrackets then scan.readBlock? false rest
        else if c == '>' && !scan.inBrackets then scan.readBlock? true rest
        else if startsPlain scan.inBrackets scan.rest then scan.readPlainText?
        else none

def readEnd? (scan : Scan) : Option Scan := do
  let cleared ← (scan.unindent 0).dropCandidate?
  some ({ cleared with allowsKey := false }.insertHere .textEnd)

/-- Reads the next token, and what its indentation ends. -/
def next? (scan : Scan) : Option Scan := do
  let fresh ← scan.skip.dropStale?
  if fresh.rest.isEmpty then fresh.readEnd?
  else (fresh.unindent (fresh.mark.column + 1)).readToken?

/-- The tokens that can be told: those in front of the first that may still be
a key. -/
def settled (scan : Scan) : List Token :=
  let positions := (scan.candidate :: scan.outer).filterMap fun candidate =>
    candidate.map Candidate.position
  scan.tokens.take (positions.foldl min scan.tokens.length)

def isFinished (scan : Scan) : Bool :=
  (scan.tokens.getLast?.map Token.kind) == some .textEnd

/-- Reads tokens as far as that is possible. The fuel is a bound on their
number. -/
def run : Nat → Scan → List Token
  | 0, scan => scan.settled
  | fuel + 1, scan =>
    match scan.next? with
    | none => scan.settled
    | some behind => if behind.isFinished then behind.tokens else run fuel behind

end Scan

/-- The tokens of a text, as far as it follows the rules; if it does to its end,
the last one says so. -/
def tokensOf (text : List Char) : List Token :=
  Scan.run (text.length + 1) (Scan.start (unifyBreaks text))

end IconForge.Yaml
