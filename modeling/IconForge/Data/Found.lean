import IconForge.Decimal.Shortest
import IconForge.Text.Quoted

/-!
Contract: data that does not fit, as messages describe it.

Owns: values without parts, what was found in the place of something else, and
lists of known names.

Does not own: the formats in which data is written.
-/

namespace IconForge.Data

/-- A value without parts. -/
inductive Scalar where
  | null
  | boolean (value : Bool)
  | integer (value : Int)
  /-- An integer that takes more than 64 bits. -/
  | wideInteger (value : Int)
  | float (value : Decimal.Double)
  | string (value : String)
deriving DecidableEq, Repr, Inhabited

namespace Scalar

/-- How messages describe a value without parts. -/
def describe : Scalar → String
  | null => "unit value"
  | boolean value => "boolean `" ++ toString value ++ "`"
  | integer value => "integer `" ++ toString value ++ "`"
  | wideInteger value =>
    "integer `" ++ toString value ++ "` as " ++ (if value < 0 then "i128" else "u128")
  | float value => "floating point `" ++ value.text ++ "`"
  | string value => "string " ++ Text.Quoted.quote value

end Scalar

/-- What was found where something else was expected. -/
inductive Found where
  | scalar (value : Scalar)
  | list
  | object
deriving DecidableEq, Repr

namespace Found

def describe : Found → String
  | scalar value => value.describe
  | list => "sequence"
  | object => "map"

end Found

/-- What is said when something was found where something else was expected. -/
def typeMessage (found : Found) (expected : String) : String :=
  "invalid type: " ++ found.describe ++ ", expected " ++ expected

def alternatives (names : List String) : String :=
  let quoted := names.map fun name => "`" ++ name ++ "`"
  match quoted with
  | [first, second] => first ++ " or " ++ second
  | _ => "one of " ++ String.intercalate ", " quoted

end IconForge.Data
