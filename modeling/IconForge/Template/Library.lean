import IconForge.Files.Access
import IconForge.Keyed
import IconForge.Template.Embedded
import IconForge.Template.Engine

/-!
Contract: the templates at hand.

Owns:
- which files of a directory are templates, their names, and the pattern that
  finds them;
- filling in those that come with the program.

Does not own: the values that templates are filled with.
-/

namespace IconForge.Template

open IconForge.Files
open IconForge.Text

def fileEnding : String := ".tera"

/-- The name of the template in a file, given the names on the way to it. The
slashes of a name may lean either way. -/
def nameOfFile (way : List Name) : String :=
  let joined := String.intercalate "/" (way.map Name.text)
  joined.map fun c => if c = '\\' then '/' else c

def isTemplateFile (way : List Name) : Bool :=
  (octets fileEnding).isSuffixOf (way.getLast?.getD [])

/-- The pattern that finds the templates of a directory. -/
def templatePattern (directory : Path) : Path :=
  (directory.child "**").child "*.tera"

def filesBelow (tree : Tree) (place : Place) : List (String × ByteArray) :=
  (tree.descendants place).filterMap fun entry =>
    match entry.2 with
    | .file content =>
      if isTemplateFile entry.1 then some (nameOfFile entry.1, content) else none
    | .directory => none

/-- The templates that come with the program and have no text among others. -/
def missing (own : Texts) : Texts :=
  Embedded.all.filter fun template => (Keyed.get? template.1 own).isNone

namespace Library

variable [Engine]

/-- The templates that come with the program. -/
def embedded : Library :=
  .ofTexts Embedded.all

/-- Templates that have been taken up, and those that come with the program
where these are missing. -/
def withEmbedded (own : Texts) : Except Error Library := do
  Engine.add own (missing own)
  .ok (.ofTexts (own ++ missing own))

end Library

end IconForge.Template
