import IconForge.Config
import IconForge.Text.Blank
import IconForge.Yaml.Meaning

/-!
Contract: the configuration that a text holds.

Owns:
- the shapes that settings may have in a document;
- the order in which misfits are found: that of the text;
- what is omitted keeps its default.

Does not own: the structure of documents, nor where texts come from.
-/

namespace IconForge.Config

open IconForge.Data
open IconForge.Yaml

abbrev Decoded := Except Error

/-! ### Parts without parts -/

/-- A misfit at a part that is something else than expected. -/
def mismatch {α : Type} (path : List Step) (expected : String) (node : Node) : Decoded α :=
  match node with
  | .text mark isPlain tag text =>
    match meaning isPlain tag text with
    | .ok value => .error (.data path mark (.wrongType (.scalar value) expected))
    | .error wanted => .error (.data path mark (.wrongValue text wanted))
  | .list mark _ => .error (.data path mark (.wrongType .list expected))
  | .record mark _ => .error (.data path mark (.wrongType .object expected))
  | .broken => .error .grammar

def readText (path : List Step) (expected : String) (node : Node) : Decoded String :=
  match node with
  | .text _ _ _ text => .ok text
  | other => mismatch path expected other

def pathLabel : String := "path string"

def readPath (path : List Step) (node : Node) : Decoded String :=
  readText path pathLabel node

/-- The path that a part is, or nothing. A record whose field is tagged as
nothing and holds something is at fault as a whole. -/
def readOptionalPath (record : Mark) (path : List Step) (node : Node) : Decoded (Option String) :=
  match node with
  | .text _ true none text =>
    .ok (if text.isEmpty || isNullWord text then none else some text)
  | .text _ _ (some (.standard "null")) text =>
    if isNullWord text then .ok none
    else .error (.data path.dropLast record (.wrongValue text "null"))
  | other => (readPath path other).map some

def readBoolean (path : List Step) (node : Node) : Decoded Bool :=
  let expected := "a boolean"
  match node with
  | .text _ true _ text =>
    match booleanWord? text with
    | some value => .ok value
    | none => mismatch path expected node
  | other => mismatch path expected other

/-- The texts that items are, of which the first has the given index. -/
def readItems (path : List Step) (index : Nat) : List Node → Decoded (List String)
  | [] => .ok []
  | item :: rest => do
    let text ← readText (path ++ [.item index]) "a string" item
    let texts ← readItems path (index + 1) rest
    .ok (text :: texts)

def isLeftOut (node : Node) : Bool :=
  match node with
  | .text _ true _ text => text.isEmpty
  | _ => false

def readTexts (path : List Step) (node : Node) : Decoded (List String) :=
  match node with
  | .list _ items => readItems path 0 items
  | other => if isLeftOut other then .ok [] else mismatch path "a sequence" other

/-! ### Records -/

/-- What a record sets: its fields, and how each of them is put into place. -/
structure Shape (κ σ : Type) where
  label : String
  keys : List (String × κ)
  /-- What is set where a field is given. -/
  fill : Mark → List Step → κ → Node → σ → Decoded σ

namespace Shape

def readKey {κ σ : Type} (shape : Shape κ σ) (path : List Step) (node : Node) :
    Decoded (String × κ) :=
  match node with
  | .text mark _ _ name =>
    match Keyed.get? name shape.keys with
    | some key => .ok (name, key)
    | none => .error (.data path mark (.unknownField name (shape.keys.map Prod.fst)))
  | other => mismatch path "field identifier" other

/-- What is set by fields, given what is set already and the names that have
been given. -/
def readFields {κ σ : Type} (shape : Shape κ σ) (record : Mark) (path : List Step)
    (given : List String) (settings : σ) : List (Node × Node) → Decoded σ
  | [] => .ok settings
  | (name, value) :: rest => do
    let (name, key) ← shape.readKey path name
    if given.contains name then .error (.data path record (.duplicateField name))
    else
      let filled ← shape.fill record (path ++ [.field name]) key value settings
      shape.readFields record path (name :: given) filled rest

def read {κ σ : Type} (shape : Shape κ σ) (path : List Step) (defaults : σ) (node : Node) :
    Decoded σ :=
  match node with
  | .record mark fields => shape.readFields mark path [] defaults fields
  | other => if isLeftOut other then .ok defaults else mismatch path shape.label other

end Shape

/-- What is said about bringing the drawings up to date. -/
inductive RefreshKey where
  | enabled
  | command
deriving DecidableEq, Repr

/-- The shape of what is said about bringing the drawings up to date. -/
def refreshShape : Shape RefreshKey RefreshConfig where
  label := "struct RefreshSettings"
  keys := [("enabled", .enabled), ("command", .command)]
  fill _ path key node settings :=
    match key with
    | .enabled => (readBoolean path node).map fun value => { settings with enabled := value }
    | .command => (readTexts path node).map fun value => { settings with command := value }

def shape : Shape Key Config where
  label := "struct Config"
  keys := keys
  fill record path key node settings :=
    match key with
    | .iconsDir => (readPath path node).map fun value => { settings with iconsDir := value }
    | .module => (readPath path node).map fun value => { settings with module := value }
    | .outDir => (readPath path node).map fun value => { settings with outDir := value }
    | .templatesDir =>
      (readOptionalPath record path node).map fun value => { settings with templatesDir := value }
    | .refresh =>
      (refreshShape.read path RefreshConfig.default node).map fun value =>
        { settings with refresh := value }

/-! ### Documents -/

/-- The configuration that a document is. That a text goes on behind its
document, or breaks the rules there, is found last. -/
def ofDocument (document : Document) : Decoded Config := do
  let config ←
    match document.root with
    | none => .ok default
    | some root => shape.read [] default root
  if document.isSound then .ok config else .error .grammar

def parse (text : String) : Decoded Config :=
  if (Text.trim text.toList).isEmpty then .ok default
  else ofDocument (Document.ofText text)

end IconForge.Config
