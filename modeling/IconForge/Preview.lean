import IconForge.Svg.Markup
import IconForge.Text.Base64

/-!
Contract: small pictures of drawings for documentation comments.

Owns: the drawing with a fixed size and a white background, and its form as an
embedded picture.
-/

namespace IconForge.Preview

open IconForge.Svg

def side : String := "20"

/-- The white rectangle with round corners behind a preview. -/
def background : Node :=
  .element "rect"
    (Attributes.ofList
      [("width", "100%"), ("height", "100%"), ("fill", "white"), ("rx", "2"), ("ry", "2")])
    []

/-- The attributes with the preview's width and height at the end, in place of
those that were there. -/
def resize (attributes : Attributes) : Attributes :=
  ((attributes.filter fun pair => pair.1 != "width" && pair.1 != "height").insert
    "width" side).insert "height" side

/-- The drawing that a preview shows; only a drawing with an `svg` root is
resized and gets a background. -/
def drawing (node : Node) : Node :=
  match node with
  | .element "svg" attributes children =>
    .element "svg" (resize attributes) (background :: children)
  | _ => node

def markup (node : Node) : String :=
  (drawing node).markup

def picture (node : Node) : String :=
  "![img](data:image/svg+xml;base64," ++ Text.Base64.encode (markup node) ++ ")"

end IconForge.Preview
