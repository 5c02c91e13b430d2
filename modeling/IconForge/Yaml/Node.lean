import IconForge.Keyed
import IconForge.Yaml.Token

/-!
Contract: documents as trees of texts, lists and records.

Owns:
- the tree of a document, in which a broken node stands where the text breaks
  the rules and nothing behind that place is known;
- what directives say about the tokens behind them;
- a machine that puts tokens together, one at a time.

Does not own: the tokens of a text, nor what a tree is read as.
-/

namespace IconForge.Yaml

/-- A node of a document, with the place where it starts. -/
inductive Node where
  | text (mark : Mark) (isPlain : Bool) (tag : Option Tag) (value : String)
  | list (mark : Mark) (items : List Node)
  | record (mark : Mark) (fields : List (Node × Node))
  /-- The text breaks the rules here. -/
  | broken
deriving Repr, Inhabited

/-- A document: its root, if there is one, and whether the whole text follows
the rules and holds nothing else. -/
structure Document where
  root : Option Node
  isSound : Bool
deriving Repr

/-- How a node begins: its place, and the name under which it is known. -/
structure Head where
  mark : Mark
  anchor : Option String
deriving Repr

/-- What a node is part of. -/
inductive Frame where
  | item (head : Head) (items : List Node)
  /-- An item of a list of lines that is indented no further than the record
  around it. -/
  | looseItem (head : Head) (items : List Node)
  | key (head : Head) (fields : List (Node × Node))
  | value (head : Head) (fields : List (Node × Node)) (key : Node)
  | bracketItem (head : Head) (items : List Node)
  /-- A key in a record in brackets; without a mark in front it has no value. -/
  | bracketKey (head : Head) (fields : List (Node × Node)) (isMarked : Bool)
  | bracketValue (head : Head) (fields : List (Node × Node)) (key : Node)
  /-- The key of a record of one field in a list in brackets. -/
  | pairKey (mark : Mark)
  | pairValue (mark : Mark) (key : Node)
deriving Repr

/-- What is due next. -/
inductive Due where
  | document
  /-- The root of a document whose start has been marked. -/
  | content
  /-- A node, of which the name and the tag may have been given. An empty text
  would stand at the mark. -/
  | node (mark : Mark) (anchor : Option String) (tag : Option Tag)
  | items (head : Head) (items : List Node)
  /-- An item of a list that is not indented, or what follows it. -/
  | looseItems (head : Head) (items : List Node)
  | fields (head : Head) (fields : List (Node × Node))
  /-- The value of a field of a record of lines. -/
  | fieldValue (head : Head) (fields : List (Node × Node)) (key : Node)
  | bracketItems (head : Head) (items : List Node) (needsComma : Bool)
  | bracketFields (head : Head) (fields : List (Node × Node)) (needsComma : Bool)
  /-- The value of a field of a record in brackets, if it may have one. -/
  | bracketFieldValue (head : Head) (fields : List (Node × Node)) (key : Node)
      (mayHaveValue : Bool)
  | pairFieldValue (mark : Mark) (key : Node)
  /-- The end of the text, behind the root. -/
  | theEnd (root : Option Node)
deriving Repr

/-- What is due next, what that is part of, innermost first, and the nodes that
are known by names. -/
structure Machine where
  due : Due
  frames : List Frame
  anchors : List (String × Node)
deriving Repr

namespace Machine

def start : Machine where
  due := .document
  frames := []
  anchors := []

/-- The machine where a node of a name starts: the name no longer stands for a
node in front of it. -/
def release (machine : Machine) (anchor : Option String) : Machine :=
  { machine with anchors := machine.anchors.filter fun entry => some entry.1 != anchor }

/-- The machine behind a whole node. A name that a node inside of it has taken
stays with that node. -/
def complete (machine : Machine) (anchor : Option String) (node : Node) : Machine :=
  let anchors :=
    match anchor with
    | none => machine.anchors
    | some name =>
      if (Keyed.get? name machine.anchors).isSome then machine.anchors
      else (name, node) :: machine.anchors
  match machine.frames with
  | [] => ⟨.theEnd (some node), [], anchors⟩
  | frame :: outer =>
    match frame with
    | .item head items => ⟨.items head (items ++ [node]), outer, anchors⟩
    | .looseItem head items => ⟨.looseItems head (items ++ [node]), outer, anchors⟩
    | .key head fields => ⟨.fieldValue head fields node, outer, anchors⟩
    | .value head fields key => ⟨.fields head (fields ++ [(key, node)]), outer, anchors⟩
    | .bracketItem head items => ⟨.bracketItems head (items ++ [node]) true, outer, anchors⟩
    | .bracketKey head fields isMarked =>
      ⟨.bracketFieldValue head fields node isMarked, outer, anchors⟩
    | .bracketValue head fields key =>
      ⟨.bracketFields head (fields ++ [(key, node)]) true, outer, anchors⟩
    | .pairKey mark => ⟨.pairFieldValue mark node, outer, anchors⟩
    | .pairValue mark key =>
      match outer with
      | .bracketItem head items :: outer =>
        ⟨.bracketItems head (items ++ [.record mark [(key, node)]]) true, outer, anchors⟩
      | _ => ⟨.theEnd (some (.record mark [(key, node)])), outer, anchors⟩

def enter (machine : Machine) (frame : Frame) (mark : Mark) : Machine :=
  { machine with due := .node mark none none, frames := frame :: machine.frames }

def emptyText (mark : Mark) (tag : Option Tag) : Node :=
  .text mark true tag ""

/-! ### Names -/

/-- A part with what has been read around it, and a break behind it. -/
def brokenFrame (node : Node) : Frame → Node
  | .item head items => .list head.mark (items ++ [node])
  | .looseItem head items => .list head.mark (items ++ [node])
  | .bracketItem head items => .list head.mark (items ++ [node])
  | .key head fields => .record head.mark (fields ++ [(node, .broken)])
  | .bracketKey head fields _ => .record head.mark (fields ++ [(node, .broken)])
  | .value head fields key => .record head.mark (fields ++ [(key, node)])
  | .bracketValue head fields key => .record head.mark (fields ++ [(key, node)])
  | .pairKey mark => .record mark [(node, .broken)]
  | .pairValue mark key => .record mark [(key, node)]

/-- The name of the list or the record that a part belongs to. -/
def anchorOf? : Frame → Option String
  | .item head _ | .looseItem head _ | .bracketItem head _ => head.anchor
  | .key head _ | .bracketKey head _ _ => head.anchor
  | .value head _ _ | .bracketValue head _ _ => head.anchor
  | .pairKey _ | .pairValue _ _ => none

/-- What has been read of the node of a name that is still open, given what has
been read of its innermost part. -/
def unfinished? (name : String) (part : Node) : List Frame → Option Node
  | [] => none
  | frame :: outer =>
    let node := brokenFrame part frame
    if anchorOf? frame = some name then some node else unfinished? name node outer

def named? (machine : Machine) (name : String) : Option Node :=
  (Keyed.get? name machine.anchors).or (unfinished? name .broken machine.frames)

/-! ### What is left out -/

/-- Whether a token in the place of a part says that the part is left out. -/
def leavesOut (frame : Frame) (token : TokenKind) : Bool :=
  match frame with
  | .item _ _ => token == .item || token == .linesEnd
  | .looseItem _ _ => token == .item || token == .key || token == .value || token == .linesEnd
  | .key _ _ => token == .key || token == .value || token == .linesEnd
  | .value _ _ _ => token == .key || token == .value || token == .linesEnd
  | .bracketItem _ _ => false
  | .bracketKey _ _ isMarked =>
    isMarked && (token == .value || token == .comma || token == .closeRecord)
  | .bracketValue _ _ _ => token == .comma || token == .closeRecord
  | .pairKey _ => token == .value || token == .comma || token == .closeList
  | .pairValue _ _ => token == .comma || token == .closeList

/-- Whether a list may start here without being indented. -/
def allowsLooseList (frames : List Frame) : Bool :=
  match frames with
  | .key _ _ :: _ => true
  | .value _ _ _ :: _ => true
  | _ => false

def goesOn (frames : List Frame) (token : TokenKind) : Bool :=
  match token with
  | .anchor _ | .tag _ _ | .alias _ | .text _ _ => true
  | .listStart | .recordStart | .openList | .openRecord => true
  | .item => allowsLooseList frames
  | _ => false

def skipNode (machine : Machine) (token : Token) : Machine :=
  match machine.due with
  | .node mark anchor tag =>
    let hasBegun := anchor.isSome || tag.isSome
    let isLeftOut :=
      if hasBegun then !goesOn machine.frames token.kind
      else
        match machine.frames with
        | [] => false
        | frame :: _ => leavesOut frame token.kind
    if isLeftOut then (machine.release anchor).complete anchor (emptyText mark tag) else machine
  | _ => machine

/-- The machine behind a list that is not indented, if it ends in front of a
token. -/
def skipLooseEnd (machine : Machine) (token : Token) : Machine :=
  match machine.due with
  | .looseItems head items =>
    if token.kind == .item then machine
    else machine.complete head.anchor (.list head.mark items)
  | _ => machine

def skipValue (machine : Machine) (token : Token) : Machine :=
  let empty := emptyText token.start none
  match machine.due with
  | .fieldValue head fields key =>
    if token.kind == .value then machine
    else { machine with due := .fields head (fields ++ [(key, empty)]) }
  | .bracketFieldValue head fields key mayHaveValue =>
    if mayHaveValue && token.kind == .value then machine
    else { machine with due := .bracketFields head (fields ++ [(key, empty)]) true }
  | .pairFieldValue mark key =>
    if token.kind == .value then machine
    else
      { machine with frames := .pairValue mark key :: machine.frames }.complete none empty
  | _ => machine

/-! ### Reading tokens -/

def readNode? (machine : Machine) (mark : Mark) (anchor : Option String) (tag : Option Tag)
    (token : Token) : Option Machine :=
  let hasBegun := anchor.isSome || tag.isSome
  let place := if hasBegun then mark else token.start
  let head : Head := ⟨place, anchor⟩
  let released := machine.release anchor
  match token.kind with
  | .alias name =>
    if hasBegun then none
    else (machine.named? name).map fun node => machine.complete none node
  | .anchor name =>
    if anchor.isSome then none else some { machine with due := .node place (some name) tag }
  | .tag handle name =>
    if tag.isSome || !handle.isEmpty then none
    else some { machine with due := .node place anchor (some (.ofFullName name)) }
  | .text isPlain value => some (released.complete anchor (.text place isPlain tag value))
  | .listStart => some { released with due := .items head [] }
  | .recordStart => some { released with due := .fields head [] }
  | .openList => some { released with due := .bracketItems head [] false }
  | .openRecord => some { released with due := .bracketFields head [] false }
  | .item =>
    if allowsLooseList machine.frames then
      some ({ released with due := .looseItems head [] }.enter (.looseItem head []) token.stop)
    else none
  | _ => none

def readEnd? (machine : Machine) (root : Option Node) (token : Token) : Option Machine :=
  match token.kind with
  | .documentEnd => some { machine with due := .theEnd root }
  | .textEnd => some { machine with due := .theEnd root }
  | _ => none

def read? (machine : Machine) (token : Token) : Option Machine :=
  match machine.due with
  | .document =>
    match token.kind with
    | .documentStart => some { machine with due := .content }
    | .textEnd => some { machine with due := .theEnd none }
    | _ => machine.readNode? token.start none none token
  | .content =>
    match token.kind with
    | .documentStart | .documentEnd | .textEnd =>
      machine.readEnd? (some (emptyText token.start none)) token
    | _ => machine.readNode? token.start none none token
  | .node mark anchor tag => machine.readNode? mark anchor tag token
  | .items head items =>
    match token.kind with
    | .item => some (machine.enter (.item head items) token.stop)
    | .linesEnd => some (machine.complete head.anchor (.list head.mark items))
    | _ => none
  | .looseItems head items =>
    match token.kind with
    | .item => some (machine.enter (.looseItem head items) token.stop)
    | _ => none
  | .fields head fields =>
    match token.kind with
    | .key => some (machine.enter (.key head fields) token.stop)
    | .linesEnd => some (machine.complete head.anchor (.record head.mark fields))
    | _ => none
  | .fieldValue head fields key =>
    match token.kind with
    | .value => some (machine.enter (.value head fields key) token.stop)
    | _ => none
  | .bracketItems head items needsComma =>
    match token.kind with
    | .closeList => some (machine.complete head.anchor (.list head.mark items))
    | .comma =>
      if needsComma then some { machine with due := .bracketItems head items false } else none
    | .key =>
      if needsComma then none
      else
        some ((machine.enter (.bracketItem head items) token.stop).enter (.pairKey token.start)
          token.stop)
    | _ =>
      if needsComma then none
      else
        (machine.enter (.bracketItem head items) token.start).readNode? token.start none none
          token
  | .bracketFields head fields needsComma =>
    match token.kind with
    | .closeRecord => some (machine.complete head.anchor (.record head.mark fields))
    | .comma =>
      if needsComma then some { machine with due := .bracketFields head fields false } else none
    | .key =>
      if needsComma then none
      else some (machine.enter (.bracketKey head fields true) token.stop)
    | _ =>
      if needsComma then none
      else
        (machine.enter (.bracketKey head fields false) token.start).readNode? token.start none
          none token
  | .bracketFieldValue head fields key _ =>
    match token.kind with
    | .value => some (machine.enter (.bracketValue head fields key) token.stop)
    | _ => none
  | .pairFieldValue mark key =>
    match token.kind with
    | .value => some (machine.enter (.pairValue mark key) token.stop)
    | _ => none
  | .theEnd root => machine.readEnd? root token

def step? (machine : Machine) (token : Token) : Option Machine :=
  (((machine.skipNode token).skipLooseEnd token).skipValue token).read? token

/-- Reads tokens as far as possible, and tells whether it was possible to the
end. -/
def run (machine : Machine) : List Token → Machine × Bool
  | [] => (machine, true)
  | token :: rest =>
    match machine.step? token with
    | none => (machine, false)
    | some next => next.run rest

/-! ### Broken documents -/

/-- What has been read of the innermost node, with a break behind it. -/
def brokenDue : Due → Node
  | .items head items => .list head.mark (items ++ [.broken])
  | .looseItems head items => .list head.mark (items ++ [.broken])
  | .bracketItems head items _ => .list head.mark (items ++ [.broken])
  | .fields head fields => .record head.mark (fields ++ [(.broken, .broken)])
  | .bracketFields head fields _ => .record head.mark (fields ++ [(.broken, .broken)])
  | .fieldValue head fields key => .record head.mark (fields ++ [(key, .broken)])
  | .bracketFieldValue head fields key _ => .record head.mark (fields ++ [(key, .broken)])
  | .pairFieldValue mark key => .record mark [(key, .broken)]
  | _ => .broken

def brokenDocument (machine : Machine) : Document :=
  match machine.due with
  | .theEnd root => ⟨root, false⟩
  | due => ⟨some (machine.frames.foldl brokenFrame (brokenDue due)), false⟩

end Machine

/-! ### Directives -/

/-- What the directives in front of a document say, and the tokens behind
them. -/
def takeDirectives? (preamble : Preamble) : List Token → Option (Preamble × List Token)
  | [] => some (preamble, [])
  | token :: rest =>
    match token.kind with
    | .directive directive => (preamble.add? directive).bind fun said => takeDirectives? said rest
    | _ => some (preamble, token :: rest)

/-- The token with a tag by its full name, if its family is known. -/
def Token.resolve (preamble : Preamble) (token : Token) : Token :=
  match token.kind with
  | .tag handle name =>
    match preamble.fullName? handle name with
    | some fullName => { token with kind := .tag "" fullName }
    | none => token
  | _ => token

/-- The tokens of a document without the directives in front of it. Behind
directives the start of the document has to be marked. -/
def openDocument? (tokens : List Token) : Option (List Token) := do
  let (preamble, rest) ← takeDirectives? .empty tokens
  let isMarked := (rest.head?.map Token.kind) == some .documentStart
  if preamble.isEmpty || isMarked then some (rest.map (Token.resolve preamble)) else none

/-! ### Texts -/

def Document.ofTokens (tokens : List Token) : Document :=
  let (machine, wentOn) := Machine.start.run tokens
  match machine.due with
  | .theEnd root =>
    ⟨root, wentOn && (tokens.getLast?.map Token.kind) == some .textEnd⟩
  | _ => machine.brokenDocument

def Document.ofText (text : String) : Document :=
  if text.toList.all isAllowed then
    match openDocument? (tokensOf text.toList) with
    | some tokens => .ofTokens tokens
    | none => ⟨some .broken, false⟩
  else ⟨some .broken, false⟩

end IconForge.Yaml
