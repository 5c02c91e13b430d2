import IconForge.Svg.Node

/-!
Contract: the compact markup of a tree.

Owns: the escaped form of a text, and the markup of nodes: no blanks between
tags, attributes in their order, an element without children as one tag.

Does not own: reading markup.
-/

namespace IconForge.Svg

/-- A character as it stands in markup: the five characters that markup gives
a meaning to are written as entities. -/
def escapeChar (c : Char) : List Char :=
  match c with
  | '<' => ['&', 'l', 't', ';']
  | '>' => ['&', 'g', 't', ';']
  | '&' => ['&', 'a', 'm', 'p', ';']
  | '\'' => ['&', 'a', 'p', 'o', 's', ';']
  | '"' => ['&', 'q', 'u', 'o', 't', ';']
  | _ => [c]

def escape (text : String) : String :=
  String.ofList (text.toList.flatMap escapeChar)

/-- An attribute as it stands in a tag, with the blank in front of it. -/
def attributeMarkup (pair : String × String) : String :=
  " " ++ pair.1 ++ "=\"" ++ escape pair.2 ++ "\""

/-- A start tag up to, but without, what ends it. -/
def tagMarkup (name : String) (attributes : Attributes) : String :=
  "<" ++ name ++ String.join (attributes.entries.map attributeMarkup)

mutual

def Node.markup : Node → String
  | .text value => escape value
  | .element name attributes children =>
    if children.isEmpty then
      tagMarkup name attributes ++ "/>"
    else
      tagMarkup name attributes ++ ">" ++ Node.markupAll children ++ "</" ++ name ++ ">"

def Node.markupAll : List Node → String
  | [] => ""
  | node :: rest => node.markup ++ Node.markupAll rest

end

end IconForge.Svg
