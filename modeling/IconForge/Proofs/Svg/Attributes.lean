import IconForge.Svg.Node

/-!
Contract: attribute lists as the entries that are put into them.

Owns: equality of attribute lists by their entries, and the list that distinct
entries make when they are put in one after the other.

Does not own: where entries come from.
-/

namespace IconForge.Svg

namespace Attributes

@[ext] theorem ext {first second : Attributes} (entries : first.entries = second.entries) :
    first = second := by
  cases first
  cases second
  congr

theorem entries_foldl_insert (pairs : List (String × String)) (attributes : Attributes) :
    (pairs.foldl (fun attributes pair => attributes.insert pair.1 pair.2) attributes).entries =
      pairs.foldl (fun entries pair => Keyed.upsert pair.1 pair.2 entries) attributes.entries := by
  induction pairs generalizing attributes with
  | nil => rfl
  | cons pair rest inductionHypothesis => exact inductionHypothesis _

theorem entries_ofList {pairs : List (String × String)} (distinct : (pairs.map Prod.fst).Nodup) :
    (ofList pairs).entries = pairs :=
  (entries_foldl_insert pairs empty).trans (Keyed.foldl_upsert_of_nodup distinct)

theorem ofList_entries (attributes : Attributes) : ofList attributes.entries = attributes :=
  ext (entries_ofList attributes.distinct)

end Attributes

end IconForge.Svg
