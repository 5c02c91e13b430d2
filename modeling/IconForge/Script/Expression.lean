import IconForge.Script.Literal
import IconForge.Script.PropName
import IconForge.Svg.Node

/-!
Contract: trees written as element-creating calls of a script.

Owns: the call of an element, the properties it gets, and how children stand
in it: none, one as it is, several as an indented list.

Does not own: the file into which an expression is put.
-/

namespace IconForge.Script

open IconForge.Svg

def fragment : String := "React.Fragment"

def component (name : String) : String :=
  "SVG." ++ Naming.capitalize name

def prop (pair : String × String) : String :=
  key (propName pair.1) ++ ": " ++ literal pair.2

/-- The properties of an element: its place among its siblings, and its
attributes but for the fill, which is left to the icon's colour. -/
def props (place : Option Nat) (attributes : Attributes) : String :=
  let placeProp := place.toList.map fun index => "key: " ++ toString index
  let kept := attributes.entries.filter fun pair => pair.1 != "fill"
  "\x7b" ++ String.intercalate ", " (placeProp ++ kept.map prop) ++ "\x7d"

def indentedList (indent : String) (expressions : List String) : String :=
  "[\n" ++ indent ++ "  " ++ String.intercalate (",\n" ++ indent ++ "  ") expressions ++
    "\n" ++ indent ++ "]"

def call (indent called properties : String) (children : List String) : String :=
  let start := "React.createElement(" ++ called ++ ", " ++ properties
  match children with
  | [] => start ++ ")"
  | [child] => start ++ ", " ++ child ++ ")"
  | _ => start ++ ", " ++ indentedList indent children ++ ")"

mutual

/-- The expression of a node; an empty text has none. -/
def nodeExpression (indent : String) (place : Option Nat) : Node → Option String
  | .text value => if value.isEmpty then none else some (literal value)
  | .element name attributes children =>
    some (call indent (component name) (props place attributes)
      (siblingExpressions (indent ++ "  ") 0 children))

/-- The expressions of neighbouring nodes, of which the first has the given
place. Nodes without an expression are left out but keep their place. -/
def siblingExpressions (indent : String) (place : Nat) : List Node → List String
  | [] => []
  | node :: rest =>
    (nodeExpression indent (some place) node).toList ++
      siblingExpressions indent (place + 1) rest

end

/-- The expression of a whole drawing. The root itself is left out, since the
component that shows the drawing provides it. -/
def rootExpression (indent : String) (node : Node) : String :=
  match node with
  | .element "svg" _ children =>
    match siblingExpressions (indent ++ "  ") 0 children with
    | [expression] => expression
    | expressions => call indent fragment "null" expressions
  | _ => (nodeExpression indent none node).getD "null"

end IconForge.Script
