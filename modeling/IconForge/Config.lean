import IconForge.Data.Found
import IconForge.Yaml.Mark

/-!
Contract: configurations, and why a text is none.

Owns:
- the settings a configuration makes, with their names and defaults;
- the ways in which a document does not fit, where in it, and their wording.

Does not own: how a document is read.
-/

namespace IconForge

open IconForge.Data

/-- Whether and how the drawings are brought up to date. -/
structure RefreshConfig where
  enabled : Bool
  command : List String
deriving DecidableEq, Repr

namespace RefreshConfig

/-- What brings the drawings up to date where nothing is said. -/
def default : RefreshConfig where
  enabled := true
  command := ["git", "submodule", "update", "--remote", "--init", "--force", "--recursive"]

end RefreshConfig

/-- The settings of a project. -/
structure Config where
  iconsDir : String
  module : String
  outDir : String
  templatesDir : Option String
  refresh : RefreshConfig
deriving DecidableEq, Repr

namespace Config

/-- The settings of a project that says nothing. -/
def default : Config where
  iconsDir := "core/icons"
  module := "core/src/index.ts"
  outDir := "src"
  templatesDir := none
  refresh := RefreshConfig.default

/-- What a configuration sets. -/
inductive Key where
  | iconsDir
  | module
  | outDir
  | templatesDir
  | refresh
deriving DecidableEq, Repr

def keys : List (String × Key) :=
  [("icons_dir", .iconsDir), ("module", .module), ("out_dir", .outDir),
   ("templates_dir", .templatesDir), ("refresh", .refresh)]

/-! ### What does not fit -/

/-- A step from a part of a document to a part of that part. -/
inductive Step where
  | field (name : String)
  | item (index : Nat)
deriving DecidableEq, Repr

/-- The wording of steps from the root of a document. -/
def pathText (path : List Step) : String :=
  match path with
  | [] => ""
  | .field name :: rest => name ++ tailText rest
  | .item index :: rest => "[" ++ toString index ++ "]" ++ tailText rest
where
  /-- The wording of steps that follow other ones. -/
  tailText : List Step → String
    | [] => ""
    | .field name :: rest => "." ++ name ++ tailText rest
    | .item index :: rest => "[" ++ toString index ++ "]" ++ tailText rest

/-- How a part of a document does not fit. -/
inductive Misfit where
  | wrongType (found : Found) (expected : String)
  | wrongValue (text expected : String)
  /-- A field is none of the known ones. -/
  | unknownField (name : String) (known : List String)
  | duplicateField (name : String)
deriving DecidableEq, Repr

namespace Misfit

def message : Misfit → String
  | wrongType found expected => typeMessage found expected
  | wrongValue text expected =>
    "invalid value: " ++ (Scalar.string text).describe ++ ", expected " ++ expected
  | unknownField name known =>
    "unknown field `" ++ name ++ "`, expected " ++ alternatives known
  | duplicateField name => "duplicate field `" ++ name ++ "`"

end Misfit

/-- Why a text is no configuration. -/
inductive Error where
  | grammar
  /-- A part of the document does not fit. -/
  | data (path : List Step) (mark : Yaml.Mark) (misfit : Misfit)
deriving DecidableEq, Repr

/-- The wording of a place, lines and columns counted from one. The start of a
text is not worded. -/
def placeText (mark : Yaml.Mark) : String :=
  if mark.line = 0 ∧ mark.column = 0 then ""
  else
    " at line " ++ toString (mark.line + 1) ++ " column " ++ toString (mark.column + 1)

namespace Error

/-- The wording of an error. The details of a grammar error are not shown. -/
def message : Error → String
  | grammar => "<yaml>"
  | data path mark misfit =>
    let prelude := if path.isEmpty then "" else pathText path ++ ": "
    prelude ++ misfit.message ++ placeText mark

end Error

end Config

end IconForge
