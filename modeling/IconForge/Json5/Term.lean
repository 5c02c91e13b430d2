import IconForge.Json5.Token

/-!
Contract: the structure of a JSON5 text.

Owns: terms, in which strings and numbers are kept as they are written, and a
machine that puts tokens together, one at a time.

Does not own: what strings and numbers stand for.
-/

namespace IconForge.Json5

/-- A value as it is written. -/
inductive Term where
  | null
  | boolean (value : Bool)
  | number (text : List Char)
  | string (pieces : List Piece)
  | list (items : List Term)
  | object (members : List (List Piece × Term))
deriving Repr, Inhabited

/-- What an unfinished list or object holds so far. -/
inductive Frame where
  | list (items : List Term)
  /-- An object with the members read, and the key of the next one. -/
  | object (members : List (List Piece × Term)) (key : List Piece)
deriving Repr, Inhabited

/-- What is due next. -/
inductive Due where
  | value
  | item (items : List Term)
  | itemComma (items : List Term)
  /-- The key of a member of an object, or its end. -/
  | key (members : List (List Piece × Term))
  | colon (members : List (List Piece × Term)) (key : List Piece)
  /-- A comma behind a member of an object, or its end. -/
  | memberComma (members : List (List Piece × Term))
  /-- Nothing: the value is complete. -/
  | nothing (term : Term)
deriving Repr, Inhabited

/-- What is due next, and the lists and objects around it, innermost first. -/
structure Machine where
  due : Due
  frames : List Frame
deriving Repr, Inhabited

namespace Machine

def start : Machine where
  due := .value
  frames := []

/-- The machine after a complete value inside the given frames. -/
def complete (term : Term) (frames : List Frame) : Machine :=
  match frames with
  | [] => ⟨.nothing term, []⟩
  | .list items :: outer => ⟨.itemComma (items ++ [term]), outer⟩
  | .object members key :: outer => ⟨.memberComma (members ++ [(key, term)]), outer⟩

end Machine

/-- The pieces of a text in which every character stands for itself. -/
def plainPieces (text : String) : List Piece :=
  text.toList.map Piece.plain

def Term.ofWord? (pieces : List Piece) : Option Term :=
  if pieces = plainPieces "null" then some .null
  else if pieces = plainPieces "true" then some (.boolean true)
  else if pieces = plainPieces "false" then some (.boolean false)
  else if pieces = plainPieces "Infinity" then some (.number "Infinity".toList)
  else if pieces = plainPieces "NaN" then some (.number "NaN".toList)
  else none

namespace Machine

/-- Reads a token with which a value starts, inside the given frames. -/
def startValue? (frames : List Frame) (token : Token) : Option Machine :=
  match token with
  | .openList => some ⟨.item [], frames⟩
  | .openObject => some ⟨.key [], frames⟩
  | .string pieces => some (complete (.string pieces) frames)
  | .number text => some (complete (.number text) frames)
  | .word pieces => (Term.ofWord? pieces).map fun term => complete term frames
  | _ => none

def step? (machine : Machine) (token : Token) : Option Machine :=
  match machine.due with
  | .value => startValue? machine.frames token
  | .item items =>
    match token with
    | .closeList => some (complete (.list items) machine.frames)
    | _ => startValue? (.list items :: machine.frames) token
  | .itemComma items =>
    match token with
    | .comma => some ⟨.item items, machine.frames⟩
    | .closeList => some (complete (.list items) machine.frames)
    | _ => none
  | .key members =>
    match token with
    | .closeObject => some (complete (.object members) machine.frames)
    | .string pieces => some ⟨.colon members pieces, machine.frames⟩
    | .word pieces => some ⟨.colon members pieces, machine.frames⟩
    | _ => none
  | .colon members key =>
    match token with
    | .colon => some ⟨.value, .object members key :: machine.frames⟩
    | _ => none
  | .memberComma members =>
    match token with
    | .comma => some ⟨.key members, machine.frames⟩
    | .closeObject => some (complete (.object members) machine.frames)
    | _ => none
  | .nothing _ => none

def run? (machine : Machine) (tokens : List Token) : Option Machine :=
  tokens.foldlM step? machine

end Machine

def Term.parse? (text : List Char) : Option Term := do
  let tokens ← tokens? text
  let machine ← Machine.start.run? tokens
  match machine.due with
  | .nothing term => some term
  | _ => none

end IconForge.Json5
