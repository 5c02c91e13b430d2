import IconForge.Files.Path
import IconForge.Keyed

/-!
Contract: files and directories as a tree.

Owns:
- places, and what stands at a place;
- the laws of a tree: nothing stands at one place twice, what stands somewhere
  stands in a directory, and a path can lead to it;
- putting something into a directory and taking it out again.

Does not own: paths, which lead to places.
-/

namespace IconForge.Files

/-- Where something stands: its name, then that of the directory around it, and
so on to the top, which has no name. -/
abbrev Place := List Name

/-- What stands at a place. -/
inductive Item where
  | file (content : ByteArray)
  | directory
deriving BEq, Inhabited

def Item.isDirectory : Item → Bool
  | .file _ => false
  | .directory => true

theorem Item.isDirectory_iff {item : Item} : item.isDirectory = true ↔ item = .directory := by
  cases item <;> simp [isDirectory]

/-- Whether items have a directory at a place; there always is one at the top. -/
def HasDirectory (items : List (Place × Item)) (place : Place) : Prop :=
  place = [] ∨ (place, Item.directory) ∈ items

def StandsIn (items : List (Place × Item)) (entry : Place × Item) : Prop :=
  ∃ name parent, entry.1 = name :: parent ∧ HasDirectory items parent

/-- A tree of files and directories below a top directory. -/
structure Tree where
  items : List (Place × Item)
  distinct : (items.map Prod.fst).Nodup
  grounded : ∀ entry ∈ items, StandsIn items entry
  named : ∀ entry ∈ items, ∀ name ∈ entry.1, Path.leadsDown name = true

namespace Tree

def empty : Tree where
  items := []
  distinct := List.nodup_nil
  grounded := fun _ member => absurd member List.not_mem_nil
  named := fun _ member => absurd member List.not_mem_nil

instance : Inhabited Tree := ⟨empty⟩

def get? (tree : Tree) (place : Place) : Option Item :=
  if place.isEmpty then some .directory else Keyed.get? place tree.items

def isDirectory (tree : Tree) (place : Place) : Bool :=
  (tree.get? place).any Item.isDirectory

theorem isDirectory_iff {tree : Tree} {place : Place} :
    tree.isDirectory place = true ↔ tree.get? place = some .directory := by
  simp [isDirectory, Option.any_eq_true, Item.isDirectory_iff]

def children (tree : Tree) (place : Place) : List (Name × Item) :=
  tree.items.filterMap fun entry =>
    match entry.1 with
    | [] => none
    | name :: parent => if parent = place then some (name, entry.2) else none

/-- What stands anywhere below a place, by the names on the way from there. -/
def descendants (tree : Tree) (place : Place) : List (List Name × Item) :=
  tree.items.filterMap fun entry =>
    if place.isSuffixOf entry.1 && entry.1 != place then
      some ((entry.1.take (entry.1.length - place.length)).reverse, entry.2)
    else none

theorem hasDirectory_of_isDirectory {tree : Tree} {place : Place}
    (present : tree.isDirectory place = true) : HasDirectory tree.items place := by
  rw [isDirectory_iff, get?] at present
  split at present
  · next isTop => exact Or.inl (List.isEmpty_iff.mp isTop)
  · exact Or.inr (Keyed.mem_of_get? present)

theorem isDirectory_of_hasDirectory {tree : Tree} {place : Place}
    (present : HasDirectory tree.items place) : tree.isDirectory place = true := by
  rw [isDirectory_iff, get?]
  rcases present with isTop | listed
  · simp [isTop]
  · split
    · rfl
    · exact Keyed.get?_of_mem tree.distinct listed

theorem hasDirectory_upsert {items : List (Place × Item)} {place other : Place} {item : Item}
    (present : HasDirectory items other)
    (keeps : item = .directory ∨ other ≠ place) :
    HasDirectory (Keyed.upsert place item items) other := by
  rcases present with isTop | listed
  · exact Or.inl isTop
  · by_cases same : other = place
    · rcases keeps with isDirectory | different
      · subst same isDirectory
        exact Or.inr (Keyed.mem_upsert_self _ _ _)
      · exact absurd same different
    · exact Or.inr (Keyed.mem_upsert_of_ne listed same)

theorem named_of_isDirectory {tree : Tree} {place : Place}
    (present : tree.isDirectory place = true) : ∀ name ∈ place, Path.leadsDown name = true := by
  rcases hasDirectory_of_isDirectory present with isTop | listed
  · simp [isTop]
  · exact tree.named _ listed

/-- The tree with an item under a name in a directory. Only a directory may
take the place of a directory. -/
def put (tree : Tree) (name : Name) (parent : Place) (item : Item)
    (leads : Path.leadsDown name = true) (inDirectory : tree.isDirectory parent = true)
    (fits : item = .directory ∨ tree.isDirectory (name :: parent) = false) : Tree where
  items := Keyed.upsert (name :: parent) item tree.items
  distinct := Keyed.nodup_map_fst_upsert tree.distinct
  grounded := by
    intro entry member
    rcases Keyed.mem_upsert member with isNew | isOld
    · refine ⟨name, parent, by rw [isNew], ?_⟩
      refine hasDirectory_upsert (hasDirectory_of_isDirectory inDirectory) (Or.inr ?_)
      exact fun same => List.cons_ne_self name parent same.symm
    · obtain ⟨entryName, entryParent, entryPlace, present⟩ := tree.grounded entry isOld
      refine ⟨entryName, entryParent, entryPlace, hasDirectory_upsert present ?_⟩
      rcases fits with isDirectory | noDirectory
      · exact Or.inl isDirectory
      · refine Or.inr fun same => ?_
        have directory := isDirectory_of_hasDirectory present
        rw [same, noDirectory] at directory
        exact Bool.false_ne_true directory
  named := by
    intro entry member
    rcases Keyed.mem_upsert member with isNew | isOld
    · rw [isNew]
      exact List.forall_mem_cons.mpr ⟨leads, named_of_isDirectory inDirectory⟩
    · exact tree.named entry isOld

theorem get?_put {tree : Tree} {name : Name} {parent : Place} {item : Item}
    {leads : Path.leadsDown name = true} {inDirectory : tree.isDirectory parent = true}
    {fits : item = .directory ∨ tree.isDirectory (name :: parent) = false} (place : Place) :
    (tree.put name parent item leads inDirectory fits).get? place =
      if place = name :: parent then some item else tree.get? place := by
  cases place with
  | nil => simp [get?]
  | cons first rest =>
    simp only [get?, put, List.isEmpty_cons, Bool.false_eq_true, if_false]
    exact Keyed.get?_upsert _ _ _ _

def remove (tree : Tree) (place : Place) : Tree where
  items := tree.items.filter fun entry => !place.isSuffixOf entry.1
  distinct := List.Nodup.sublist (List.filter_sublist.map Prod.fst) tree.distinct
  grounded := by
    intro entry member
    obtain ⟨listed, outside⟩ := List.mem_filter.mp member
    obtain ⟨name, parent, entryPlace, present⟩ := tree.grounded entry listed
    refine ⟨name, parent, entryPlace, ?_⟩
    rcases present with isTop | directory
    · exact Or.inl isTop
    · refine Or.inr (List.mem_filter.mpr ⟨directory, ?_⟩)
      rw [Bool.not_eq_true'] at outside ⊢
      rw [← Bool.not_eq_true] at outside ⊢
      intro within
      refine outside ?_
      rw [List.isSuffixOf_iff_suffix] at within ⊢
      rw [entryPlace]
      exact within.trans (List.suffix_cons name parent)
  named := fun entry member => tree.named entry (List.mem_filter.mp member).1

end Tree

end IconForge.Files
