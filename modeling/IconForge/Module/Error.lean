import IconForge.Json5.Value

/-!
Contract: why a text is no module of icons.

Owns: the ways in which data does not fit the shape of a collection, the
causes a module can fail with, and their wording.
-/

namespace IconForge.Module

open IconForge.Data
open IconForge.Json5

/-- How data does not fit the shape of a collection. -/
inductive DataError where
  /-- A written string or number stands for nothing. -/
  | scalar (cause : ScalarError)
  | wrongType (found : Found) (expected : String)
  /-- A list has the wrong number of items. -/
  | wrongLength (length : Nat) (expected : String)
  | missingField (name : String)
  | duplicateField (name : String)
  /-- A name is none of the known ones. -/
  | unknownName (name : String) (known : List String)
  /-- A variant is neither a string nor an object. -/
  | unnamedVariant
  /-- A variant is an object without members. -/
  | emptyVariant
deriving DecidableEq, Repr

namespace DataError

def message : DataError → String
  | scalar cause => cause.message
  | wrongType found expected => typeMessage found expected
  | wrongLength length expected =>
    "invalid length " ++ toString length ++ ", expected " ++ expected
  | missingField name => "missing field `" ++ name ++ "`"
  | duplicateField name => "duplicate field `" ++ name ++ "`"
  | unknownName name known =>
    "unknown variant `" ++ name ++ "`, expected " ++ alternatives known
  | unnamedVariant => "expected a string or an object"
  | emptyVariant => "expected a nonempty object"

end DataError

/-- Why a text is no module of icons. -/
inductive Error where
  /-- The text does not export a list. -/
  | missingExport
  /-- What is exported is not written as JSON5. -/
  | grammar
  /-- What is exported is no collection. -/
  | data (cause : DataError)
deriving DecidableEq, Repr

namespace Error

/-- The wordings of an error and of the causes behind it. The details of a
grammar error are not shown. -/
def chain : Error → List String
  | missingExport => ["中间模块缺少 `export default` 数组"]
  | grammar => ["<grammar>"]
  | data cause => ["中间模块内容无法解析: " ++ cause.message, cause.message]

def message (error : Error) : String :=
  error.chain.headD ""

end Error

end IconForge.Module
