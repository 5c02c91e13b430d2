import IconForge.Icon
import IconForge.Script.Literal

/-!
Contract: a collection written as the source of a module.

Owns: the layout of the module and of the objects in it.

Does not own: reading a module back.
-/

namespace IconForge.Module

open IconForge.Script
open IconForge.Svg

def pad (depth : Nat) : String :=
  String.ofList (List.replicate (2 * depth) ' ')

/-- The lines of an attribute list inside an element at a depth. -/
def attributesSource (depth : Nat) (attributes : Attributes) : String :=
  if attributes.entries.isEmpty then
    pad (depth + 1) ++ "attributes: \x7b\x7d,\n"
  else
    pad (depth + 1) ++ "attributes: \x7b\n" ++
      String.join (attributes.entries.map fun pair =>
        pad (depth + 2) ++ key pair.1 ++ ": " ++ literal pair.2 ++ ",\n") ++
      pad (depth + 1) ++ "\x7d,\n"

mutual

/-- The object of a node whose last line stands at a depth. -/
def nodeSource (depth : Nat) : Node → String
  | .text value => "\x7b type: \"text\", value: " ++ literal value ++ " \x7d"
  | .element name attributes children =>
    "\x7b\n" ++
      pad (depth + 1) ++ "type: \"element\",\n" ++
      pad (depth + 1) ++ "name: " ++ literal name ++ ",\n" ++
      attributesSource depth attributes ++
      (if children.isEmpty then
        pad (depth + 1) ++ "children: [],\n"
      else
        pad (depth + 1) ++ "children: [\n" ++ childrenSource (depth + 2) children ++
          pad (depth + 1) ++ "],\n") ++
      pad depth ++ "\x7d"

def childrenSource (depth : Nat) : List Node → String
  | [] => ""
  | node :: rest => pad depth ++ nodeSource depth node ++ ",\n" ++ childrenSource depth rest

end

def entrySource (entry : Entry) : String :=
  pad 3 ++ "\x7b\n" ++
    pad 4 ++ "variant: " ++ literal entry.variant.name ++ ",\n" ++
    pad 4 ++ "svg: " ++ nodeSource 4 entry.drawing ++ "\n" ++
    pad 3 ++ "\x7d,\n"

def iconSource (icon : Icon) : String :=
  pad 1 ++ "\x7b\n" ++
    pad 2 ++ "name: " ++ literal icon.name ++ ",\n" ++
    pad 2 ++ "variants: [\n" ++
    String.join (icon.entries.map entrySource) ++
    pad 2 ++ "],\n" ++
    pad 1 ++ "\x7d,\n"

def source (collection : Collection) : String :=
  "export default [\n" ++ String.join (collection.map iconSource) ++ "] as const;\n"

end IconForge.Module
