import IconForge.Svg.Node
import IconForge.Variant

/-!
Contract: icons as named records of drawings, one for each variant.

Owns: insertion in canonical order, look-up of a variant, and the choice of a
drawing for a requested name.

Does not own: where drawings come from.
-/

namespace IconForge

/-- The drawing of one variant. -/
structure Entry where
  variant : Variant
  drawing : Svg.Node
deriving BEq, Repr, Inhabited

/-- An icon: a name and the drawings of its variants. -/
structure Icon where
  name : String
  entries : List Entry
deriving BEq, Repr, Inhabited

/-- The icons of a set in the order in which they were found. -/
abbrev Collection := List Icon

/-- The entries with a drawing under a variant: in the place of the entry of
that variant if there is one, and else in front of the first later variant. -/
def insertEntry (variant : Variant) (drawing : Svg.Node) : List Entry → List Entry
  | [] => [⟨variant, drawing⟩]
  | entry :: rest =>
    if entry.variant.rank < variant.rank then entry :: insertEntry variant drawing rest
    else if entry.variant = variant then ⟨variant, drawing⟩ :: rest
    else ⟨variant, drawing⟩ :: entry :: rest

namespace Icon

def new (name : String) : Icon where
  name := name
  entries := []

def insert (icon : Icon) (variant : Variant) (drawing : Svg.Node) : Icon :=
  { icon with entries := insertEntry variant drawing icon.entries }

def get? (icon : Icon) (variant : Variant) : Option Svg.Node :=
  (icon.entries.find? fun entry => entry.variant == variant).map Entry.drawing

/-- The drawing for a requested name: that of the variant it selects, or else
that of the fallback. -/
def resolve? (icon : Icon) (request : Option String) : Option Svg.Node :=
  (icon.get? (Variant.requested request)).or (icon.get? Variant.fallback)

end Icon

end IconForge
