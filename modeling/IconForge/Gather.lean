import IconForge.Icon
import IconForge.Naming
import IconForge.Svg.Tree
import IconForge.Task

/-!
Contract: the collection that a directory of drawings holds.

Owns:
- which files are drawings, and their order;
- reading one drawing;
- putting the drawings of all variants together into icons.

Does not own: where a collection goes.
-/

namespace IconForge

open IconForge.Files

namespace Collection

/-- The collection with a drawing of an icon. An icon that is new comes at the
end. -/
def insert (name : String) (variant : Variant) (drawing : Svg.Node) : Collection → Collection
  | [] => [(Icon.new name).insert variant drawing]
  | icon :: rest =>
    if icon.name = name then icon.insert variant drawing :: rest
    else icon :: insert name variant drawing rest

end Collection

namespace Gather

def extension : Name := Name.ofText "svg"

def filePath (directory : Path) (name : Name) : Path :=
  directory.join ⟨name⟩

/-- Whether a name in a directory is that of a drawing's file. What stands
there is asked for along the path, which may be too long to lead anywhere. -/
def isDrawing (tree : Tree) (directory : Path) (name : Name) : Bool :=
  name.extension? == some extension && tree.hasFileAt (filePath directory name)

/-- The names of the drawings' files in a directory, in the order of their
bytes. -/
def drawingNames (tree : Tree) (directory : Path) : Except Fault (List Name) := do
  let entries ← during (.listDirectory directory) .files (tree.list directory)
  .ok (((entries.map Prod.fst).filter (isDrawing tree directory)).mergeSort Name.precedes)

/-- The drawing in a file. It is cleaned first, and then read from the cleaned
markup. -/
def loadDrawing (tree : Tree) (file : Path) : Except Fault Svg.Node := do
  let source ← during (.readDrawing file) .files (tree.readText file)
  let optimized ← during (.optimizeDrawing file) .drawing (Svg.optimize source)
  during (.parseDrawing file) .drawing (Svg.parse optimized)

def gatherFile (directory : Path) (variant : Variant) (collection : Collection) (name : Name) :
    Task Collection := do
  let file := filePath directory name
  match Text.ofOctets? name.stem with
  | none => Task.refuse (.unreadableName file)
  | some icon =>
    if !Naming.isIconName icon then Task.tell (.oddIconName file)
    let tree ← Task.tree
    let drawing ← Task.ofExcept (loadDrawing tree file)
    return collection.insert icon variant drawing

def gatherVariant (root : Path) (collection : Collection) (variant : Variant) :
    Task Collection := do
  let directory := root.child variant.name
  let tree ← Task.tree
  if tree.hasDirectoryAt directory then
    let names ← Task.ofExcept (drawingNames tree directory)
    names.foldlM (gatherFile directory variant) collection
  else
    Task.tell (.variantSkipped directory)
    return collection

def gather (root : Path) : Task Collection := do
  let tree ← Task.tree
  if tree.hasDirectoryAt root then
    let collection ← Variant.all.foldlM (gatherVariant root) []
    Task.tell (.gathered collection.length)
    return collection
  else Task.refuse (.noIconsDirectory root)

end Gather

end IconForge
