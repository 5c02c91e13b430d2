import IconForge.Proofs.Script.Printing
import IconForge.Proofs.Script.PropName
import IconForge.Proofs.Svg.Building

/-!
Contract: the names of the properties that are written for a parsed drawing.

Owns:
- when the properties of an element have different names: no attribute may spell `key`,
  which the element's place stands under, and no two may have the same property name;
- what the object of an element's properties holds, where a later property replaces an
  earlier one of the same name;
- when an element has a property named `fill`, although its attribute of that name is left
  out.

Main statements: `nodup_names_iff`, `fill_mem_names_iff`.

Does not own: which keys have a given property name.
-/

namespace IconForge.Script.Reader

open IconForge.Naming
open IconForge.Svg

/-- The object that properties make, one after another. -/
def objectOf (props : List (String × PropValue)) : List (String × PropValue) :=
  props.foldl (fun entries prop => Keyed.upsert prop.1 prop.2 entries) []

namespace Placed

/-- The attributes that an element's properties are made of. -/
def kept (element : Placed) : List (String × String) :=
  element.attributes.entries.filter fun pair => pair.1 != "fill"

def keptKeys (element : Placed) : List String :=
  element.kept.map Prod.fst

/-- The names of an element's properties. -/
def names (element : Placed) : List String :=
  element.props.map Prod.fst

variable {element : Placed}

theorem props_eq (element : Placed) :
    element.props = ("key", .number element.place) ::
      element.kept.map fun pair => (propName pair.1, .text pair.2) :=
  rfl

theorem names_eq (element : Placed) : element.names = "key" :: element.keptKeys.map propName := by
  rw [names, props_eq, keptKeys, List.map_cons, List.map_map, List.map_map]
  rfl

theorem key_notMem_iff : "key" ∉ element.keptKeys.map propName ↔
    ∀ key ∈ element.keptKeys, spells "key" key = false := by
  simp only [List.mem_map, propName_eq_key_iff, not_exists, not_and, Bool.not_eq_true]

/-- The properties of an element have different names exactly if none of its attributes
spells `key`, and no two have the same property name. -/
theorem nodup_names (element : Placed) :
    element.names.Nodup ↔
      (∀ key ∈ element.keptKeys, spells "key" key = false) ∧
        element.keptKeys.Pairwise fun key other => propName key ≠ propName other := by
  rw [names_eq, List.nodup_cons, key_notMem_iff, List.Nodup, List.pairwise_map]

theorem noneSpells_iff_of_plain (plain : ∀ key ∈ element.keptKeys, isPlain key = true) :
    (∀ key ∈ element.keptKeys, spells "key" key = false) ↔ "key" ∉ element.keptKeys := by
  have isWord : "key".toList = ['k', 'e', 'y'] := rfl
  constructor
  · intro noneSpells isKept
    have spelled : spells "key" "key" = true := by decide
    rw [noneSpells "key" isKept] at spelled
    cases spelled
  · intro notKept key member
    cases spelled : spells "key" key with
    | false => rfl
    | true =>
      cases eq_of_spells isWord (by decide) (plain key member) spelled
      exact absurd member notKept

/-- Properties of plain keys have different names exactly if the keys are different in
hyphens, and none is `key`. -/
theorem nodup_names_of_plain (plain : ∀ key ∈ element.keptKeys, isPlain key = true) :
    element.names.Nodup ↔
      "key" ∉ element.keptKeys ∧ (element.keptKeys.map hyphened).Nodup := by
  rw [nodup_names, noneSpells_iff_of_plain plain, List.Nodup, List.pairwise_map]
  refine and_congr_right fun _ => List.Pairwise.iff_of_mem fun member alsoMember => ?_
  exact not_congr (propName_inj_iff (plain _ member) (plain _ alsoMember))

/-- An element's object holds each of its properties exactly if they have different
names. -/
theorem objectOf_props_iff (element : Placed) :
    objectOf element.props = element.props ↔ element.names.Nodup := by
  constructor
  · intro same
    rw [names, ← same]
    exact Keyed.nodup_map_fst_foldl_upsert List.nodup_nil
  · exact Keyed.foldl_upsert_of_nodup

/-- An element's object holds its place under `key` exactly if none of its attributes
spells `key`. -/
theorem get?_key (element : Placed) :
    Keyed.get? "key" (objectOf element.props) = some (.number element.place) ↔
      ∀ key ∈ element.keptKeys, spells "key" key = false := by
  have laterNames : (element.kept.map fun pair => (propName pair.1, PropValue.text pair.2)).map
      Prod.fst = element.keptKeys.map propName := by
    rw [keptKeys, List.map_map, List.map_map]
    rfl
  rw [← key_notMem_iff, objectOf, props_eq, List.foldl_cons]
  constructor
  · intro isPlace isKept
    rw [← laterNames] at isKept
    obtain ⟨value, member, found⟩ := Keyed.exists_get?_foldl_upsert isKept
    obtain ⟨pair, -, isPair⟩ := List.mem_map.mp member
    rw [found, ← (Prod.mk.inj isPair).2] at isPlace
    cases isPlace
  · intro notKept
    rw [← laterNames] at notKept
    rw [Keyed.get?_foldl_upsert_of_notMem notKept]
    rfl

/-- An element has a property named `fill` exactly if one of its attributes spells it and
is not named so itself. -/
theorem fill_mem_names (element : Placed) :
    "fill" ∈ element.names ↔ ∃ key ∈ element.keptKeys, spells "fill" key = true := by
  have notKey : "fill" ≠ "key" := by decide
  rw [names_eq, List.mem_cons, or_iff_right notKey]
  simp only [List.mem_map, propName_eq_fill_iff]

end Placed

/-! ### Parsed drawings -/

variable {source : String} {drawing : Node}

theorem name?_of_parse (parsed : parse source = .ok drawing) : drawing.name? = some "svg" :=
  (readTree_plain_iff.mp parsed).2

/-- What is written for a parsed drawing is the text of an expression with an object of
properties for each element inside it. Their names are different exactly if no attribute
spells `key` and no two have the same property name, which for plain keys is that they
are different in hyphens; exactly then the object holds each of them. The place of the
element stands under `key` exactly if no attribute spells that. -/
theorem nodup_names_iff (parsed : parse source = .ok drawing) (indent : String) :
    (∃ depth, rootExpression indent drawing = (rootMeaning drawing).layout indent depth) ∧
      (rootMeaning drawing).objects = (inside drawing).map Placed.props ∧
        ∀ element ∈ inside drawing,
          (element.names.Nodup ↔
            (∀ key ∈ element.keptKeys, spells "key" key = false) ∧
              element.keptKeys.Pairwise fun key other => propName key ≠ propName other) ∧
          ((∀ key ∈ element.keptKeys, isPlain key = true) →
            (element.names.Nodup ↔
              "key" ∉ element.keptKeys ∧ (element.keptKeys.map hyphened).Nodup)) ∧
          (objectOf element.props = element.props ↔ element.names.Nodup) ∧
          (Keyed.get? "key" (objectOf element.props) = some (.number element.place) ↔
            ∀ key ∈ element.keptKeys, spells "key" key = false) := by
  refine ⟨rootExpression_eq_layout indent drawing, objects_rootMeaning (name?_of_parse parsed),
    fun element _ => ⟨element.nodup_names, Placed.nodup_names_of_plain,
      element.objectOf_props_iff, element.get?_key⟩⟩

/-- A path of which the fill is left out. -/
def strokedPath : String := "<svg><path fill=\"red\" stroke-width=\"2\"/></svg>"

def strokedPathTree : Node :=
  .element "svg" .empty
    [.element "path" (Attributes.ofList [("fill", "red"), ("stroke-width", "2")]) []]

theorem parse_strokedPath : parse strokedPath = .ok strokedPathTree := by
  apply readTree_plain_iff.mpr
  constructor
  · decide +kernel
  · rfl

theorem nodup_names_iff_strokedPath :
    parse strokedPath = .ok strokedPathTree ∧
      (∃ depth, rootExpression "" strokedPathTree =
        (rootMeaning strokedPathTree).layout "" depth) ∧
      ∀ element ∈ inside strokedPathTree,
        element.names.Nodup ∧ objectOf element.props = element.props ∧
          Keyed.get? "key" (objectOf element.props) = some (.number element.place) := by
  obtain ⟨laidOut, -, each⟩ := nodup_names_iff parse_strokedPath ""
  refine ⟨parse_strokedPath, laidOut, fun element isInside => ?_⟩
  obtain ⟨-, ofPlain, whole, onKey⟩ := each element isInside
  cases List.mem_singleton.mp isInside
  have distinct := (ofPlain (by decide)).mpr (by decide)
  exact ⟨distinct, whole.mpr distinct, onKey.mpr (by decide)⟩

/-- An attribute named `key` stands beside the place of its element. -/
def keyedPath : String := "<svg><path key=\"a\"/></svg>"

def keyedPathTree : Node :=
  .element "svg" .empty [.element "path" (Attributes.ofList [("key", "a")]) []]

theorem objects_key_twice :
    ¬∀ source drawing, parse source = .ok drawing →
      ∀ object ∈ (rootMeaning drawing).objects, (object.map Prod.fst).Nodup := by
  intro allDistinct
  have parsed : parse keyedPath = .ok keyedPathTree := by
    apply readTree_plain_iff.mpr
    constructor
    · decide +kernel
    · rfl
  have distinct := allDistinct _ _ parsed [("key", .number 0), ("key", .text "a")]
    List.mem_cons_self
  revert distinct
  decide

/-- What is written for a parsed drawing is the text of an expression with an object of
properties for each element inside it. An object has a property named `fill` exactly if
the element has an attribute under another key that spells it. -/
theorem fill_mem_names_iff (parsed : parse source = .ok drawing) (indent : String) :
    (∃ depth, rootExpression indent drawing = (rootMeaning drawing).layout indent depth) ∧
      (rootMeaning drawing).objects = (inside drawing).map Placed.props ∧
        ∀ element ∈ inside drawing,
          ("fill" ∈ element.names ↔
            ∃ key ∈ element.keptKeys, spells "fill" key = true) := by
  exact ⟨rootExpression_eq_layout indent drawing, objects_rootMeaning (name?_of_parse parsed),
    fun element _ => element.fill_mem_names⟩

theorem fill_mem_names_iff_strokedPath :
    parse strokedPath = .ok strokedPathTree ∧
      (rootMeaning strokedPathTree).objects = (inside strokedPathTree).map Placed.props ∧
        ∀ element ∈ inside strokedPathTree, "fill" ∉ element.names := by
  obtain ⟨-, objects, each⟩ := fill_mem_names_iff parse_strokedPath ""
  refine ⟨parse_strokedPath, objects, fun element isInside isNamed => ?_⟩
  obtain ⟨key, isKept, spelled⟩ := (each element isInside).mp isNamed
  cases List.mem_singleton.mp isInside
  cases List.mem_singleton.mp isKept
  revert spelled
  decide

/-- An attribute that is left out only in small letters. -/
def capitalFill : String := "<svg><path Fill=\"red\"/></svg>"

def capitalFillTree : Node :=
  .element "svg" .empty [.element "path" (Attributes.ofList [("Fill", "red")]) []]

theorem objects_fill_left :
    ¬∀ source drawing, parse source = .ok drawing →
      ∀ object ∈ (rootMeaning drawing).objects, "fill" ∉ object.map Prod.fst := by
  intro noFill
  have parsed : parse capitalFill = .ok capitalFillTree := by
    apply readTree_plain_iff.mpr
    constructor
    · decide +kernel
    · rfl
  have absent := noFill _ _ parsed [("key", .number 0), ("fill", .text "red")]
    List.mem_cons_self
  revert absent
  decide

end IconForge.Script.Reader
