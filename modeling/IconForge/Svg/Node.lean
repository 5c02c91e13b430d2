import IconForge.Keyed

/-!
Contract: drawings as trees of elements and texts.

Owns:
- attribute lists, in which every key occurs once and keeps its place;
- the tree type, its views, and equality of trees.

Does not own: reading trees from markup or writing them.
-/

namespace IconForge.Svg

/-- Attributes in order, each key once. -/
structure Attributes where
  entries : List (String × String)
  distinct : (entries.map Prod.fst).Nodup := by decide
deriving DecidableEq, Repr

namespace Attributes

def empty : Attributes where
  entries := []

instance : Inhabited Attributes := ⟨empty⟩

/-- The attributes with `value` under `key`; a key that is there already keeps
its place. -/
def insert (attributes : Attributes) (key value : String) : Attributes where
  entries := Keyed.upsert key value attributes.entries
  distinct := Keyed.nodup_map_fst_upsert attributes.distinct

/-- The attributes of a list of pairs, of which a later one replaces an
earlier one with the same key. -/
def ofList (pairs : List (String × String)) : Attributes :=
  pairs.foldl (fun attributes pair => attributes.insert pair.1 pair.2) empty

/-- The attributes whose entries pass a test, in order. -/
def filter (attributes : Attributes) (keep : String × String → Bool) : Attributes where
  entries := attributes.entries.filter keep
  distinct := List.Nodup.sublist (List.filter_sublist.map Prod.fst) attributes.distinct

end Attributes

/-- A drawing or a part of one. -/
inductive Node where
  /-- A named element with attributes and, inside it, further nodes. -/
  | element (name : String) (attributes : Attributes) (children : List Node)
  | text (value : String)
deriving BEq, Repr, Inhabited

namespace Node

/-- The name of an element; a text has none. -/
def name? : Node → Option String
  | element name _ _ => some name
  | text _ => none

end Node

end IconForge.Svg
