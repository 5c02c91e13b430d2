import IconForge.Template.Part
import IconForge.Template.Segment

/-!
Contract: plain templates read from text, of outputs, loops, branches and comments.

Owns:
- the words and marks inside tags;
- references, conditions, and the tags of blocks;
- a machine that puts segments together, one at a time.

Does not own: where tags start and end.
-/

namespace IconForge.Template

/-- A word or a mark inside a tag. -/
inductive Token where
  | path (names : List String)
  /-- The mark in front of a filter. -/
  | bar
deriving DecidableEq, Repr

def isGap (c : Char) : Bool :=
  c == ' ' || c == '\t' || c == '\n' || c == '\r'

def isNameChar (c : Char) : Bool :=
  c.isAlphanum || c == '_'

def isNameStart (c : Char) : Bool :=
  c.isAlpha || c == '_'

def pathOfWord? (word : List Char) : Option (List String) :=
  let names := Text.splitAt (· == '.') word
  let wellFormed := names.all fun name => !name.isEmpty && name.all isNameChar
  if (word.head?.map isNameStart).getD false && wellFormed then
    some (names.map String.ofList)
  else none

def tokensOfWords? : List (List Char) → Option (List Token)
  | [] => some []
  | word :: rest => do
    let tokens ← tokensOfWords? rest
    if word.isEmpty then some tokens
    else if word = ['|'] then some (.bar :: tokens)
    else
      let names ← pathOfWord? word
      some (.path names :: tokens)

def spaceBars (inside : List Char) : List Char :=
  inside.flatMap fun c => if c = '|' then [' ', '|', ' '] else [c]

def tokens? (inside : List Char) : Option (List Token) :=
  tokensOfWords? (Text.splitAt isGap (spaceBars inside))

/-- The filters that tokens are, each behind a bar, and the tokens behind
them. -/
def readFilters : List Token → List String × List Token
  | .bar :: .path [name] :: rest =>
    let (names, behind) := readFilters rest
    (name :: names, behind)
  | rest => ([], rest)

/-- The words that mean something else than a value to be found. -/
def keywords : List String :=
  ["not", "and", "or", "in", "is", "true", "True", "false", "False"]

def readReference? : List Token → Option (Reference × List Token)
  | .path names :: rest =>
    if names.length = 1 && names.all keywords.contains then none
    else
      let (filters, behind) := readFilters rest
      some (⟨names, filters⟩, behind)
  | _ => none

def wholeReference? (tokens : List Token) : Option Reference := do
  let (reference, behind) ← readReference? tokens
  if behind.isEmpty then some reference else none

/-- The value that tokens are, negated if they say so. -/
def readNegated? : List Token → Option Condition
  | .path ["not"] :: rest => (wholeReference? rest).map fun reference => .not (.value reference)
  | tokens => (wholeReference? tokens).map .value

/-- Conditions held together from left to right. -/
def joinConditions? (join : Condition → Condition → Condition) :
    List Condition → Option Condition
  | [] => none
  | first :: rest => some (rest.foldl join first)

def readBoth? (tokens : List Token) : Option Condition := do
  let conditions ← (Text.splitAt (· == .path ["and"]) tokens).mapM readNegated?
  joinConditions? .both conditions

/-- The condition that tokens are: `and` holds more tightly than `or`. -/
def readCondition? (tokens : List Token) : Option Condition := do
  let conditions ← (Text.splitAt (· == .path ["or"]) tokens).mapM readBoth?
  joinConditions? .either conditions

/-- What the tag of a block says. -/
inductive Statement where
  | loop (name : String) (items : Reference)
  | branch (condition : Condition)
  | elseBranch (condition : Condition)
  | otherwise
  | endLoop
  | endBranch
deriving DecidableEq, Repr

def readStatement? : List Token → Option Statement
  | [.path ["else"]] => some .otherwise
  | [.path ["endfor"]] => some .endLoop
  | [.path ["endif"]] => some .endBranch
  | .path ["if"] :: rest => (readCondition? rest).map .branch
  | .path ["elif"] :: rest => (readCondition? rest).map .elseBranch
  | .path ["for"] :: .path [name] :: .path ["in"] :: rest =>
    (wholeReference? rest).map (.loop name)
  | _ => none

/-! ### Putting parts together -/

/-- What opens a block. -/
inductive Opening where
  | loop (name : String) (items : Reference)
  /-- A branch; a chained one stands in the place of the other parts of the
  branch around it and ends with that. -/
  | branch (condition : Condition) (chained : Bool)
deriving DecidableEq, Repr

/-- A block that is not closed yet. -/
structure Frame where
  opening : Opening
  /-- The parts in front of the block. -/
  before : List Part
  /-- The body, once the other parts have begun. -/
  body : Option (List Part)
deriving Repr

/-- The parts read in the innermost open block, and the open blocks, innermost
first. -/
structure Machine where
  parts : List Part
  frames : List Frame
deriving Repr

namespace Machine

def start : Machine where
  parts := []
  frames := []

def add (machine : Machine) (part : Part) : Machine :=
  { machine with parts := machine.parts ++ [part] }

def enter (machine : Machine) (opening : Opening) : Machine where
  parts := []
  frames := ⟨opening, machine.parts, none⟩ :: machine.frames

/-- The part that a frame becomes when it is closed behind the given parts. -/
def closed (frame : Frame) (parts : List Part) : Part :=
  let body := frame.body.getD parts
  let otherwise := if frame.body.isSome then parts else []
  match frame.opening with
  | .loop name items => .loop name items body otherwise
  | .branch condition _ => .branch condition body otherwise

/-- The machine behind the end of a branch and of those it is chained to. -/
def leaveBranch? (parts : List Part) : List Frame → Option Machine
  | [] => none
  | frame :: outer =>
    let behind := frame.before ++ [closed frame parts]
    match frame.opening with
    | .loop _ _ => none
    | .branch _ true => leaveBranch? behind outer
    | .branch _ false => some ⟨behind, outer⟩

def leaveLoop? (machine : Machine) : Option Machine :=
  match machine.frames with
  | [] => none
  | frame :: outer =>
    match frame.opening with
    | .loop _ _ => some ⟨frame.before ++ [closed frame machine.parts], outer⟩
    | .branch _ _ => none

/-- The machine in the other parts of the innermost block. -/
def turn? (machine : Machine) : Option Machine :=
  match machine.frames with
  | [] => none
  | frame :: outer =>
    if frame.body.isSome then none
    else some ⟨[], { frame with body := some machine.parts } :: outer⟩

def state? (machine : Machine) (statement : Statement) : Option Machine :=
  match statement with
  | .loop name items => some (machine.enter (.loop name items))
  | .branch condition => some (machine.enter (.branch condition false))
  | .elseBranch condition =>
    match machine.frames with
    | ⟨.branch _ _, _, _⟩ :: _ =>
      machine.turn?.map fun turned => turned.enter (.branch condition true)
    | _ => none
  | .otherwise => machine.turn?
  | .endLoop => machine.leaveLoop?
  | .endBranch => leaveBranch? machine.parts machine.frames

def step? (machine : Machine) (segment : Segment) : Option Machine :=
  match segment with
  | .text value => some (machine.add (.text (String.ofList value)))
  | .tag tag =>
    match tag.kind with
    | .comment => some machine
    | .output => do
      let tokens ← tokens? tag.inside
      let reference ← wholeReference? tokens
      some (machine.add (.output reference))
    | .block => do
      let tokens ← tokens? tag.inside
      let statement ← readStatement? tokens
      machine.state? statement

end Machine

/-- The parts of a template, if it is a plain one and well formed. -/
def parse? (text : String) : Option (List Part) := do
  let segments ← segments? text.toList
  let machine ← segments.foldlM Machine.step? Machine.start
  if machine.frames.isEmpty then some machine.parts else none

end IconForge.Template
