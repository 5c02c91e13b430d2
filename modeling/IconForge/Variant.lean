/-!
Contract: the five variants of an icon.

Owns:
- their names and their canonical order, each of which tells them apart;
- the choice of a variant for a requested name.
-/

namespace IconForge

/-- A drawing style of an icon. -/
inductive Variant where
  | light
  | regular
  | filled
  | duotone
  | duotoneLine
deriving DecidableEq, Repr, Inhabited

namespace Variant

def all : List Variant :=
  [light, regular, filled, duotone, duotoneLine]

/-- The place of a variant in the canonical order. -/
def rank : Variant → Nat
  | light => 0
  | regular => 1
  | filled => 2
  | duotone => 3
  | duotoneLine => 4

/-- The variant that stands in when none is requested or the requested one is
unknown. -/
def fallback : Variant := regular

def name : Variant → String
  | light => "light"
  | regular => "regular"
  | filled => "filled"
  | duotone => "duotone"
  | duotoneLine => "duotone-line"

def ofName? (text : String) : Option Variant :=
  all.find? fun variant => variant.name == text

/-- What is said about a name that no variant has. -/
def unknownMessage (text : String) : String :=
  "未知的图标变体: " ++ text

/-- The variant that a request selects: the one it names, or else the
fallback. -/
def requested (request : Option String) : Variant :=
  (request.bind ofName?).getD fallback

theorem mem_all (variant : Variant) : variant ∈ all := by
  cases variant <;> decide

theorem eq_of_rank_eq {one other : Variant} (same : one.rank = other.rank) : one = other := by
  cases one <;> cases other <;> first | rfl | cases same

theorem eq_of_name_eq {one other : Variant} (same : one.name = other.name) : one = other := by
  cases one <;> cases other <;> first | rfl | exact absurd same (by decide)

end Variant

end IconForge
