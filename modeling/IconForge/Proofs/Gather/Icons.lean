import IconForge.Proofs.Gather.Reading
import IconForge.Proofs.Icon.Insertion
import Mathlib.Data.List.Induction

/-!
Contract: the icons that drawings make when they are put together one by one.

Owns:
- a drawing put into a collection, as a change of one icon or a new icon;
- what a collection holds of the drawings put into it, in order.

Main statement: `collects_foldl`.

Does not own: where drawings come from.
-/

namespace IconForge

open IconForge.Gather

variable {collection : Collection} {name : String} {variant : Variant} {drawing : Svg.Node}
  {entries : List Entry}

/-- An entry of a later variant than all others comes behind them. -/
theorem insertEntry_of_later (later : ∀ entry ∈ entries, entry.variant.rank < variant.rank) :
    insertEntry variant drawing entries = entries ++ [⟨variant, drawing⟩] := by
  have behind : insertEntry variant drawing (entries ++ []) =
      entries ++ insertEntry variant drawing [] := insertEntry_append later
  rw [List.append_nil] at behind
  exact behind

/-- A drawing changes the icon of its name, or else makes a new one at the
end. -/
theorem Collection.insert_cases (collection : Collection) (name : String) (variant : Variant)
    (drawing : Svg.Node) :
    (∃ front icon back, collection = front ++ icon :: back ∧ icon.name = name ∧
      collection.insert name variant drawing = front ++ icon.insert variant drawing :: back) ∨
    (∀ icon ∈ collection, icon.name ≠ name) ∧
      collection.insert name variant drawing =
        collection ++ [⟨name, [⟨variant, drawing⟩]⟩] := by
  induction collection with
  | nil => exact Or.inr ⟨List.forall_mem_nil _, rfl⟩
  | cons icon rest inductionHypothesis =>
    rw [Collection.insert]
    by_cases named : icon.name = name
    · rw [if_pos named]
      exact Or.inl ⟨[], icon, rest, rfl, named, rfl⟩
    · rw [if_neg named]
      rcases inductionHypothesis with ⟨front, found, back, rfl, isNamed, inserted⟩ | ⟨absent,
        inserted⟩
      · exact Or.inl ⟨icon :: front, found, back, rfl, isNamed, by rw [inserted]; rfl⟩
      · refine Or.inr ⟨List.forall_mem_cons.mpr ⟨named, absent⟩, ?_⟩
        rw [inserted, List.cons_append]

namespace Gather

/-- A collection has an icon of a name, with an entry for a variant. -/
def HasEntry (collection : Collection) (name : String) (entry : Entry) : Prop :=
  ∃ icon ∈ collection, icon.name = name ∧ entry ∈ icon.entries

/-- The place of an icon's first drawing. -/
def firstSighting? (icon : Icon) : Option Sighting :=
  icon.entries.head?.map fun entry => ⟨entry.variant, iconFile icon.name⟩

/-- One of two places comes first, where both are known. -/
def Earlier (one other : Option Sighting) : Prop :=
  ∀ first ∈ one, ∀ second ∈ other, first.Before second

theorem hasEntry_append {front back : Collection} {entry : Entry} :
    HasEntry (front ++ back) name entry ↔ HasEntry front name entry ∨ HasEntry back name entry := by
  simp only [HasEntry, List.mem_append, or_and_right, exists_or]

theorem hasEntry_cons {icon : Icon} {entry : Entry} :
    HasEntry (icon :: collection) name entry ↔
      (icon.name = name ∧ entry ∈ icon.entries) ∨ HasEntry collection name entry := by
  simp only [HasEntry, List.mem_cons, or_and_right, exists_or, exists_eq_left]

theorem hasEntry_nil {entry : Entry} : ¬HasEntry [] name entry := by
  simp [HasEntry]

/-- What a collection holds of drawings put into it one after another. -/
structure Collects (drawn : List Drawn) (collection : Collection) : Prop where
  distinctNames : (collection.map Icon.name).Nodup
  holds : ∀ name variant drawing,
    HasEntry collection name ⟨variant, drawing⟩ ↔ ⟨name, variant, drawing⟩ ∈ drawn
  notEmpty : ∀ icon ∈ collection, icon.entries ≠ []
  canonical : ∀ icon ∈ collection,
    icon.entries.Pairwise fun one other => one.variant.rank < other.variant.rank
  asSeen : (collection.map firstSighting?).Pairwise Earlier

namespace Collects

variable {drawn : List Drawn} {new : Drawn}

theorem nil : Collects [] [] where
  distinctNames := List.nodup_nil
  holds _ _ _ := iff_of_false hasEntry_nil List.not_mem_nil
  notEmpty := List.forall_mem_nil _
  canonical := List.forall_mem_nil _
  asSeen := List.Pairwise.nil

variable (collects : Collects drawn collection)
  (isLast : ∀ old ∈ drawn, old.sighting.Before new.sighting)
include collects isLast

/-- The variants that an icon already has come before that of a drawing read
later. -/
theorem earlier_variants {icon : Icon} (member : icon ∈ collection)
    (named : icon.name = new.icon) :
    ∀ entry ∈ icon.entries, entry.variant.rank < new.variant.rank := by
  intro entry isEntry
  have wasDrawn := (collects.holds _ _ _).mp ⟨icon, member, named, isEntry⟩
  rcases isLast _ wasDrawn with less | ⟨-, different, -⟩
  · exact less
  · exact absurd rfl different

theorem first_before {icon : Icon} (member : icon ∈ collection) :
    ∀ first ∈ firstSighting? icon, first.Before new.sighting := by
  intro first isFirst
  obtain ⟨entry, isHead, rfl⟩ := Option.map_eq_some_iff.mp isFirst
  have isEntry : entry ∈ icon.entries := List.mem_of_mem_head? isHead
  exact isLast _ ((collects.holds _ _ _).mp ⟨icon, member, rfl, isEntry⟩)

theorem addTo_new (absent : ∀ icon ∈ collection, icon.name ≠ new.icon) :
    Collects (drawn ++ [new]) (collection ++ [⟨new.icon, [⟨new.variant, new.drawing⟩]⟩]) where
  distinctNames := by
    rw [List.map_append]
    refine List.nodup_append.mpr ⟨collects.distinctNames, List.nodup_singleton _, ?_⟩
    intro one isOne other isOther
    obtain ⟨icon, member, rfl⟩ := List.mem_map.mp isOne
    rw [List.mem_map] at isOther
    obtain ⟨_, isNew, rfl⟩ := isOther
    rw [List.mem_singleton.mp isNew]
    exact absent icon member
  holds name variant drawing := by
    rw [hasEntry_append, hasEntry_cons, List.mem_append, collects.holds]
    refine or_congr Iff.rfl ?_
    obtain ⟨newName, newVariant, newDrawing⟩ := new
    simp [hasEntry_nil, eq_comm]
  notEmpty := by
    rw [List.forall_mem_append]
    exact ⟨collects.notEmpty, by simp⟩
  canonical := by
    rw [List.forall_mem_append]
    exact ⟨collects.canonical, by simp⟩
  asSeen := by
    rw [List.map_append]
    refine List.pairwise_append.mpr ⟨collects.asSeen, List.pairwise_singleton _ _, ?_⟩
    intro one isOne other isOther first isFirst second isSecond
    obtain ⟨icon, member, rfl⟩ := List.mem_map.mp isOne
    rw [List.map_singleton, List.mem_singleton] at isOther
    cases isOther
    cases isSecond
    exact collects.first_before isLast member first isFirst

theorem addTo_changed {front back : Collection} {icon : Icon}
    (isCollection : collection = front ++ icon :: back) (named : icon.name = new.icon) :
    Collects (drawn ++ [new])
      (front ++ ⟨icon.name, icon.entries ++ [⟨new.variant, new.drawing⟩]⟩ :: back) where
  distinctNames := by
    have distinct := collects.distinctNames
    rw [isCollection, List.map_append, List.map_cons] at distinct
    rw [List.map_append, List.map_cons]
    exact distinct
  holds name variant drawing := by
    rw [List.mem_append, ← collects.holds, isCollection, hasEntry_append, hasEntry_append,
      hasEntry_cons, hasEntry_cons, List.mem_append, and_or_left, named]
    obtain ⟨newName, newVariant, newDrawing⟩ := new
    have same : (newName = name ∧ (⟨variant, drawing⟩ : Entry) ∈ [⟨newVariant, newDrawing⟩]) ↔
        (⟨name, variant, drawing⟩ : Drawn) ∈ [⟨newName, newVariant, newDrawing⟩] := by
      simp [eq_comm]
    rw [same]
    tauto
  notEmpty := by
    have notEmpty := collects.notEmpty
    rw [isCollection, List.forall_mem_append, List.forall_mem_cons] at notEmpty
    rw [List.forall_mem_append, List.forall_mem_cons]
    exact ⟨notEmpty.1, by simp, notEmpty.2.2⟩
  canonical := by
    have earlier : ∀ entry ∈ icon.entries, entry.variant.rank < new.variant.rank :=
      collects.earlier_variants isLast (by simp [isCollection]) named
    have canonical := collects.canonical
    rw [isCollection, List.forall_mem_append, List.forall_mem_cons] at canonical
    rw [List.forall_mem_append, List.forall_mem_cons]
    refine ⟨canonical.1, ?_, canonical.2.2⟩
    refine List.pairwise_append.mpr ⟨canonical.2.1, List.pairwise_singleton _ _, ?_⟩
    intro entry isEntry last isNew
    rw [List.mem_singleton.mp isNew]
    exact earlier entry isEntry
  asSeen := by
    have notEmpty : icon.entries ≠ [] := collects.notEmpty icon (by simp [isCollection])
    have sameFirst : firstSighting? ⟨icon.name, icon.entries ++ [⟨new.variant, new.drawing⟩]⟩ =
        firstSighting? icon := by
      unfold firstSighting?
      rw [List.head?_append_of_ne_nil _ notEmpty]
    have asSeen := collects.asSeen
    rw [isCollection, List.map_append, List.map_cons] at asSeen
    rw [List.map_append, List.map_cons, sameFirst]
    exact asSeen

/-- A drawing read after all others is one more that the collection holds. -/
theorem addTo : Collects (drawn ++ [new]) (Drawn.addTo collection new) := by
  unfold Drawn.addTo
  rcases collection.insert_cases new.icon new.variant new.drawing with
    ⟨front, icon, back, isCollection, named, inserted⟩ | ⟨absent, inserted⟩
  · have member : icon ∈ collection := by simp [isCollection]
    rw [inserted, Icon.insert, insertEntry_of_later (collects.earlier_variants isLast member named)]
    exact collects.addTo_changed isLast isCollection named
  · rw [inserted]
    exact collects.addTo_new isLast absent

end Collects

/-- Drawings read in order make the collection that holds them. -/
theorem collects_foldl {drawn : List Drawn}
    (inOrder : (drawn.map Drawn.sighting).Pairwise Sighting.Before) :
    Collects drawn (drawn.foldl Drawn.addTo []) := by
  induction drawn using List.reverseRecOn with
  | nil => exact Collects.nil
  | append_singleton front last inductionHypothesis =>
    rw [List.map_append, List.pairwise_append] at inOrder
    rw [List.foldl_append]
    refine (inductionHypothesis inOrder.1).addTo fun old isOld => ?_
    exact inOrder.2.2 _ (List.mem_map_of_mem isOld) _ (List.mem_singleton_self _)

end Gather

end IconForge
