import IconForge.Gather
import IconForge.Proofs.Files.Access
import IconForge.Proofs.Files.Name
import Mathlib.Data.List.Sort

/-!
Contract: the drawings' files below a directory, in the order in which they are
read.

Owns:
- the files that count as drawings, as a property of what stands where;
- the order of variants and names, and the files in that order.

Main statements: `mem_scan`, `pairwise_scan`, `scan_eq`.

Does not own: what the files hold.
-/

namespace IconForge.Gather

open IconForge.Files

/-- A place for a drawing: the directory of a variant, and a name in it. -/
structure Sighting where
  variant : Variant
  file : Name

namespace Sighting

def directory (root : Path) (sighting : Sighting) : Path :=
  root.child sighting.variant.name

def path (root : Path) (sighting : Sighting) : Path :=
  filePath (sighting.directory root) sighting.file

/-- Whether one place is read before another: places are ordered by variants,
and in one directory by the bytes of names. -/
def Before (one other : Sighting) : Prop :=
  one.variant.rank < other.variant.rank ∨
    one.variant = other.variant ∧ one.file ≠ other.file ∧
      Name.precedes one.file other.file = true

instance : Std.Irrefl Before where
  irrefl _ before := by
    rcases before with less | ⟨-, different, -⟩
    · exact Nat.lt_irrefl _ less
    · exact different rfl

instance : Std.Antisymm Before where
  antisymm one other before behind := by
    rcases before with less | ⟨same, different, precedes⟩
    · rcases behind with greater | ⟨same, -, -⟩
      · exact absurd less (Nat.lt_asymm greater)
      · exact absurd less (by simp [same])
    · rcases behind with greater | ⟨-, -, alsoPrecedes⟩
      · exact absurd greater (by simp [same])
      · exact absurd (Name.precedes_antisymm precedes alsoPrecedes) different

end Sighting

/-- A drawing's file: a regular file in the directory of a variant, with the
extension of drawings. -/
structure IsDrawing (tree : Tree) (root : Path) (sighting : Sighting) : Prop where
  inDirectory : tree.hasDirectoryAt (sighting.directory root) = true
  isName : Path.leadsDown sighting.file = true
  hasExtension : sighting.file.extension? = some extension
  isFile : tree.hasFileAt (sighting.path root) = true

/-! ### Files in order -/

variable {tree other : Tree} {root directory : Path} {name : Name} {names : List Name}
  {variant : Variant} {sighting : Sighting}

def scanVariant (tree : Tree) (root : Path) (variant : Variant) : List Sighting :=
  match drawingNames tree (root.child variant.name) with
  | .ok names => names.map (⟨variant, ·⟩)
  | .error _ => []

/-- The drawings' files in the order in which they are read. -/
def scan (tree : Tree) (root : Path) : List Sighting :=
  Variant.all.flatMap (scanVariant tree root)

theorem drawingNames_of_hasDirectoryAt (present : tree.hasDirectoryAt directory = true) :
    ∃ names, drawingNames tree directory = .ok names := by
  obtain ⟨place, found⟩ := Tree.hasDirectoryAt_iff.mp present
  unfold drawingNames
  rw [Tree.list_of_lookUp found]
  exact ⟨_, rfl⟩

theorem lookUp_of_drawingNames (listed : drawingNames tree directory = .ok names) :
    ∃ place, tree.lookUp directory = .ok (place, .directory) ∧
      names = (((tree.children place).map Prod.fst).filter
        (Gather.isDrawing tree directory)).mergeSort Name.precedes := by
  unfold drawingNames Tree.list Tree.directoryAt at listed
  cases found : tree.lookUp directory with
  | error error =>
    rw [found] at listed
    cases listed
  | ok at_ =>
    obtain ⟨place, item⟩ := at_
    rw [found] at listed
    cases item with
    | file content => cases listed
    | directory =>
      cases listed
      exact ⟨place, rfl, rfl⟩

theorem mem_drawingNames_iff (listed : drawingNames tree directory = .ok names) :
    name ∈ names ↔ Path.leadsDown name = true ∧ name.extension? = some extension ∧
      tree.hasFileAt (filePath directory name) = true := by
  obtain ⟨place, found, rfl⟩ := lookUp_of_drawingNames listed
  simp only [List.mem_mergeSort, List.mem_filter, Gather.isDrawing, Bool.and_eq_true, beq_iff_eq]
  constructor
  · rintro ⟨isChild, hasExtension, isFile⟩
    obtain ⟨⟨_, item⟩, listed, rfl⟩ := List.mem_map.mp isChild
    have leads := Tree.named_of_get? (Tree.mem_children_iff.mp listed)
    exact ⟨leads _ List.mem_cons_self, hasExtension, isFile⟩
  · rintro ⟨leads, hasExtension, isFile⟩
    exact ⟨Tree.mem_names_children_of_hasFileAt leads found isFile, hasExtension, isFile⟩

theorem pairwise_drawingNames (listed : drawingNames tree directory = .ok names) :
    names.Pairwise fun one other => one ≠ other ∧ Name.precedes one other = true := by
  obtain ⟨place, -, rfl⟩ := lookUp_of_drawingNames listed
  rw [List.pairwise_and_iff]
  constructor
  · rw [← List.nodup_iff_pairwise_ne, (List.mergeSort_perm _ _).nodup_iff]
    exact Tree.nodup_names_children.filter _
  · refine List.pairwise_mergeSort ?_ ?_ _
    · exact fun _ _ _ => Name.precedes_trans
    · exact fun one other => Bool.or_eq_true_iff.mpr (Name.precedes_total one other)

theorem scanVariant_of_absent
    (absent : ¬tree.hasDirectoryAt (root.child variant.name) = true) :
    scanVariant tree root variant = [] := by
  unfold scanVariant
  split
  · next names listed =>
    obtain ⟨place, found, -⟩ := lookUp_of_drawingNames listed
    exact absurd (Tree.hasDirectoryAt_iff.mpr ⟨place, found⟩) absent
  · rfl

theorem mem_scanVariant :
    sighting ∈ scanVariant tree root variant ↔
      sighting.variant = variant ∧ IsDrawing tree root sighting := by
  obtain ⟨ofVariant, file⟩ := sighting
  unfold scanVariant
  split
  · next names listed =>
    obtain ⟨place, found, -⟩ := lookUp_of_drawingNames listed
    rw [List.mem_map]
    constructor
    · rintro ⟨name, member, same⟩
      cases same
      obtain ⟨leads, hasExtension, isFile⟩ := (mem_drawingNames_iff listed).mp member
      exact ⟨rfl, Tree.hasDirectoryAt_iff.mpr ⟨place, found⟩, leads, hasExtension, isFile⟩
    · rintro ⟨rfl, drawing⟩
      refine ⟨file, (mem_drawingNames_iff listed).mpr ?_, rfl⟩
      exact ⟨drawing.isName, drawing.hasExtension, drawing.isFile⟩
  · next fault failed =>
    refine iff_of_false List.not_mem_nil ?_
    rintro ⟨rfl, drawing⟩
    obtain ⟨names, listed⟩ := drawingNames_of_hasDirectoryAt drawing.inDirectory
    rw [show drawingNames tree (root.child ofVariant.name) = .ok names from listed] at failed
    cases failed

/-- Scanning meets the drawings' files and nothing else. -/
theorem mem_scan : sighting ∈ scan tree root ↔ IsDrawing tree root sighting := by
  simp only [scan, List.mem_flatMap, mem_scanVariant]
  constructor
  · rintro ⟨variant, -, -, drawing⟩
    exact drawing
  · intro drawing
    refine ⟨sighting.variant, ?_, rfl, drawing⟩
    cases sighting.variant <;> decide

theorem pairwise_scanVariant : (scanVariant tree root variant).Pairwise Sighting.Before := by
  unfold scanVariant
  split
  · next names listed =>
    refine (pairwise_drawingNames listed).map _ ?_
    rintro one other ⟨different, precedes⟩
    exact Or.inr ⟨rfl, different, precedes⟩
  · exact List.Pairwise.nil

/-- Scanning meets files in order, each of them once. -/
theorem pairwise_scan (tree : Tree) (root : Path) :
    (scan tree root).Pairwise Sighting.Before := by
  unfold scan
  rw [List.pairwise_flatMap]
  refine ⟨fun variant _ => pairwise_scanVariant, ?_⟩
  have ordered : Variant.all.Pairwise fun one other => one.rank < other.rank := by decide
  refine ordered.imp fun less one isOne two isTwo => Or.inl ?_
  rw [(mem_scanVariant.mp isOne).1, (mem_scanVariant.mp isTwo).1]
  exact less

theorem IsDrawing.of_sameContent (same : tree.SameContent other)
    (drawing : IsDrawing tree root sighting) : IsDrawing other root sighting where
  inDirectory := (same.hasDirectoryAt_eq _).symm.trans drawing.inDirectory
  isName := drawing.isName
  hasExtension := drawing.hasExtension
  isFile := (same.hasFileAt_eq _).symm.trans drawing.isFile

/-- The order in which directories list what is in them does not matter. -/
theorem scan_eq (same : tree.SameContent other) (root : Path) :
    scan tree root = scan other root := by
  refine List.Pairwise.eq_of_mem_iff (pairwise_scan tree root) (pairwise_scan other root) ?_
  intro sighting
  rw [mem_scan, mem_scan]
  exact ⟨.of_sameContent same, .of_sameContent same.symm⟩

end IconForge.Gather
