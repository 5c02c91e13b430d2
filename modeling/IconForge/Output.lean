import IconForge.Icon
import IconForge.Naming
import IconForge.Preview
import IconForge.Script.Expression
import IconForge.Task
import IconForge.Template.Library

/-!
Contract: the files that are generated from a collection.

Owns:
- what the templates are told about icons;
- the templates at hand: those of a directory, and else those that come with
  the program;
- the files, where they go, and the order in which they are written.

Does not own: the templates themselves, nor how trees become expressions.
-/

namespace IconForge.Output

open IconForge.Files
open IconForge.Template

/-! ### What templates are told -/

def textRecord (fields : List (String × String)) : Value :=
  .record (fields.map fun field => (field.1, .text field.2))

/-- What stands for the preview of a variant that an icon lacks. -/
def missingPreview : String := "(missing)"

def preview (icon : Icon) (variant : Variant) : String :=
  ((icon.get? variant).map Preview.picture).getD missingPreview

def componentScope (icon : Icon) : Scope :=
  [("name", .text icon.name),
   ("component", .text (Naming.pascal icon.name)),
   ("previews", .list (Variant.all.map fun variant =>
     textRecord [("variant", variant.name), ("preview", preview icon variant)]))]

/-- How far the expressions of variants are indented. -/
def entryIndent : String := "  "

def variantsScope (icon : Icon) : Scope :=
  [("name", .text icon.name),
   ("camel", .text (Naming.camel icon.name)),
   ("entries", .list (icon.entries.map fun entry =>
     textRecord
       [("variant", entry.variant.name),
        ("code", Script.rootExpression entryIndent entry.drawing)]))]

def indexScope (collection : Collection) : Scope :=
  [("icons", .list (collection.map fun icon =>
     textRecord [("name", icon.name), ("component", Naming.pascal icon.name)]))]

/-- What the templates of the shared files are told. -/
def sharedScope : Scope :=
  [("variants", .list (Variant.all.map fun variant => .text variant.name)),
   ("default_variant", .text Variant.fallback.name),
   ("default_size", .number 24),
   ("default_color", .text "currentColor"),
   ("view_box", .text "0 0 24 24")]

/-! ### The texts of files -/

def renderTemplate (library : Library) (name : String) (scope : Scope) : Except Fault String :=
  during (.renderTemplate name) .template (library.render name scope)

def component (library : Library) (icon : Icon) : Except Fault String :=
  renderTemplate library Embedded.componentName (componentScope icon)

def variants (library : Library) (icon : Icon) : Except Fault String :=
  renderTemplate library Embedded.variantsName (variantsScope icon)

def index (library : Library) (collection : Collection) : Except Fault String :=
  renderTemplate library Embedded.indexName (indexScope collection)

def types (library : Library) : Except Fault String :=
  renderTemplate library Embedded.typesName sharedScope

def iconBase (library : Library) : Except Fault String :=
  renderTemplate library Embedded.iconBaseName sharedScope

/-! ### The templates at hand -/

/-- The templates of a directory, if one is given, as the engine takes them
up. -/
def ownTexts [Engine] (tree : Tree) (directory : Option Path) : Except Fault Texts :=
  match directory with
  | none => .ok []
  | some path =>
    match tree.directoryAt path with
    | .error _ => .error (.refused (.noTemplatesDirectory path))
    | .ok place =>
      during (.loadTemplates (templatePattern path)) .template
        (Engine.load (templatePattern path) (filesBelow tree place))

/-- The templates of a directory, and else those that come with the program. -/
def library [Engine] (directory : Option Path) : Task Library := do
  let tree ← Task.tree
  let own ← Task.ofExcept (ownTexts tree directory)
  directory.forM fun path => Task.tell (.templatesUsed path)
  Task.ofExcept (during .loadEmbedded .template (Library.withEmbedded own))

/-! ### Writing files -/

def typesPath (out : Path) : Path :=
  (out.child "lib").child "types.ts"

def iconBasePath (out : Path) : Path :=
  (out.child "lib").child "icon-base.tsx"

def variantsPath (out : Path) (icon : Icon) : Path :=
  (out.child "variants").child (icon.name ++ ".ts")

def componentPath (out : Path) (icon : Icon) : Path :=
  (out.child "icons").child (icon.name ++ ".tsx")

def indexPath (out : Path) : Path :=
  out.child "index.ts"

/-- Writes a file with a text that may fail to come about. -/
def emit (path : Path) (text : Except Fault String) : Task Unit := do
  let text ← Task.ofExcept text
  Task.save (.writeOutput path) path text

def emitVariants (library : Library) (out : Path) (icon : Icon) : Task Unit := do
  if (icon.resolve? none).isNone then Task.tell (.fallbackMissing icon.name)
  emit (variantsPath out icon) (variants library icon)

def emitComponent (library : Library) (out : Path) (icon : Icon) : Task Unit :=
  emit (componentPath out icon) (component library icon)

/-- Writes all files of a collection: the shared ones first, and the index
last. -/
def generate (library : Library) (out : Path) (collection : Collection) : Task Unit := do
  emit (typesPath out) (types library)
  emit (iconBasePath out) (iconBase library)
  collection.forM (emitVariants library out)
  Task.tell (.variantsWritten collection.length)
  collection.forM (emitComponent library out)
  Task.tell (.componentsWritten collection.length)
  emit (indexPath out) (index library collection)
  Task.tell (.indexWritten (indexPath out))

end IconForge.Output
