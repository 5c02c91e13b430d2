import IconForge.Svg.Error
import IconForge.Svg.Markup

/-!
Contract: a document's events put together as a tree.

Owns:
- reading a document as it is, and reading it with everything left out that
  does not show in a drawing;
- which elements, attributes and containers cleaning leaves out;
- the checks on the root and on elements that stay open.

Does not own: how events are cut out of the text.
-/

namespace IconForge.Svg

open IconForge.Text

/-- How a document is read. -/
inductive Mode where
  | plain
  /-- What does not show in a drawing is left out. -/
  | cleaning
deriving DecidableEq, Repr

/-! ### What cleaning leaves out -/

/-- The namespaces in which drawing editors keep their own data. -/
def editorNamespaces : List String :=
  ["sodipodi:", "inkscape:", "sketch:"]

/-- The attributes that declare the namespaces of drawing editors. -/
def editorDeclarations : List String :=
  ["xmlns:sodipodi", "xmlns:inkscape", "xmlns:sketch"]

def descriptiveElements : List String :=
  ["metadata", "title", "desc"]

def containers : List String :=
  ["g", "defs"]

def inEditorNamespace (name : String) : Bool :=
  editorNamespaces.any fun editor => (dropStart? editor.toList name.toList).isSome

/-- Whether cleaning leaves out an element with all that is inside it. -/
def isDroppedElement (name : String) : Bool :=
  descriptiveElements.contains name || inEditorNamespace name

/-- Whether cleaning leaves out an attribute whatever its value. -/
def isEditorAttribute (key : String) : Bool :=
  editorDeclarations.contains key || inEditorNamespace key

/-- A value as its blank-free words with one space between neighbours. -/
def collapseBlanks (value : String) : String :=
  String.intercalate " " ((words value.toList).map String.ofList)

def isEmptyContainer : Node → Bool
  | .element name _ children => children.isEmpty && containers.contains name
  | .text _ => false

/-! ### Tags -/

/-- The attributes in the rest of a tag's text, with their references
replaced. Each attribute is checked before the next one is looked at. -/
def readAttributesFrom (seen : List SeenKey) (place : Nat) (text : List Char) :
    Except Error (List (String × String)) :=
  let start := place + byteLength (text.takeWhile isSpace)
  match _nonBlank : text.dropWhile isSpace with
  | [] => .ok []
  | first :: behind =>
    match _cut : cutAttribute seen start first behind with
    | .error cause => .error (.badAttribute cause)
    | .ok found =>
      match resolve found.value with
      | .error cause => .error (.xml 0 (.reference cause))
      | .ok value =>
        match readAttributesFrom (found.key :: seen) found.place found.rest with
        | .error error => .error error
        | .ok following => .ok ((String.ofList found.key.key, String.ofList value) :: following)
termination_by text.length
decreasing_by
  have notLonger := length_dropWhile_le isSpace text
  have shorter := length_lt_of_cutAttribute _cut
  rw [_nonBlank, List.length_cons] at notLonger
  omega

def Tag.attributes (tag : Tag) : Except Error (List (String × String)) :=
  readAttributesFrom [] tag.name.utf8ByteSize tag.attributeText

/-- The attributes that cleaning keeps, with their blanks collapsed. -/
def cleanAttributes (attributes : List (String × String)) : List (String × String) :=
  attributes.filterMap fun (key, value) =>
    let collapsed := collapseBlanks value
    if isEditorAttribute key || collapsed.isEmpty then none else some (key, collapsed)

/-! ### Building -/

/-- An element whose end has not been read yet. -/
structure OpenElement where
  name : String
  attributes : Attributes
  children : List Node
deriving Repr

namespace OpenElement

def close (element : OpenElement) : Node :=
  .element element.name element.attributes element.children

def push (element : OpenElement) (child : Node) : OpenElement :=
  { element with children := element.children ++ [child] }

end OpenElement

/-- What has been read so far: the open elements, innermost first, the root if
it is complete, and how many elements are open inside the one left out. -/
structure Building where
  opened : List OpenElement
  root : Option Node
  skipping : Nat
deriving Repr

namespace Building

def start : Building where
  opened := []
  root := none
  skipping := 0

def openElement (mode : Mode) (tag : Tag) : Except Error OpenElement := do
  let attributes ← tag.attributes
  let kept :=
    match mode with
    | .plain => attributes
    | .cleaning => cleanAttributes attributes
  .ok ⟨tag.name, Attributes.ofList kept, []⟩

/-- Puts a complete node into the innermost open element, or makes it the
root. -/
def attach (mode : Mode) (building : Building) (node : Node) : Except Error Building :=
  if mode = .cleaning ∧ isEmptyContainer node then
    .ok building
  else
    match building.opened with
    | parent :: outer => .ok { building with opened := parent.push node :: outer }
    | [] =>
      match building.root with
      | some _ => .error .multipleRoots
      | none => .ok { building with root := some node }

/-- Puts a text into the innermost open element; an empty text is nothing. -/
def pushText (building : Building) (value : String) : Except Error Building :=
  if value.isEmpty then
    .ok building
  else
    match building.opened with
    | parent :: outer => .ok { building with opened := parent.push (.text value) :: outer }
    | [] => .error (.strayText value)

def step (mode : Mode) (building : Building) (delivery : Delivery) : Except Error Building :=
  match delivery.event with
  | .opening tag =>
    if 0 < building.skipping then
      .ok { building with skipping := building.skipping + 1 }
    else do
      let element ← openElement mode tag
      if mode = .cleaning ∧ isDroppedElement element.name then
        .ok { building with skipping := 1 }
      else
        .ok { building with opened := element :: building.opened }
  | .selfClosing tag =>
    if 0 < building.skipping then
      .ok building
    else do
      let element ← openElement mode tag
      if mode = .cleaning ∧ isDroppedElement element.name then
        .ok building
      else
        attach mode building element.close
  | .closing =>
    if 0 < building.skipping then
      .ok { building with skipping := building.skipping - 1 }
    else
      match building.opened with
      | [] => .ok building
      | element :: outer => attach mode { building with opened := outer } element.close
  | .text raw =>
    if 0 < building.skipping then
      .ok building
    else
      match resolve raw with
      | .error cause => .error (.xml delivery.offset (.reference cause))
      | .ok value => pushText building (String.ofList value)
  | .characterData value =>
    if 0 < building.skipping then .ok building else pushText building value
  | .aside => .ok building

/-- The tree that has been read when the document ends: its root has to be
complete and named `svg`. -/
def finish (building : Building) : Except Error Node :=
  match building.opened with
  | element :: _ => .error (.unclosed element.name)
  | [] =>
    match building.root with
    | none => .error .empty
    | some node =>
      match node.name? with
      | none => .error .empty
      | some name => if name = "svg" then .ok node else .error (.notSvg name)

end Building

/-- The tree of a reading. Faults of its events come before the fault that
ends it. -/
def buildTree (mode : Mode) (reading : Reading) : Except Error Node := do
  let building ← reading.deliveries.foldlM (Building.step mode) Building.start
  match reading.fault with
  | some (offset, cause) => .error (.xml offset (.markup cause))
  | none => building.finish

def readTree (mode : Mode) (text : String) : Except Error Node :=
  buildTree mode (readDocument text.toList)

def parse (text : String) : Except Error Node :=
  readTree .plain text

/-- The compact markup of a document with everything left out that does not
show. -/
def optimize (text : String) : Except Error String :=
  (readTree .cleaning text).map Node.markup

end IconForge.Svg
