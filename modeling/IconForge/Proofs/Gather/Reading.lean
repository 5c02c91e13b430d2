import IconForge.Proofs.Gather.Scan
import IconForge.Proofs.Task.Steps

/-!
Contract: gathering as reading files one after another.

Owns:
- what one file yields: a drawing, with the icon and the variant it is of;
- reading files in turn, up to the first that yields nothing;
- gathering as reading the scanned files and putting together what they yield.

Main statements: `mapM_read_cases`, `gives_gather`.

Does not own: what the collection looks like.
-/

namespace IconForge.Gather

open IconForge.Files

/-- A drawing, with the icon and the variant it is of. -/
structure Drawn where
  icon : String
  variant : Variant
  drawing : Svg.Node

/-- The name of the file that holds a drawing of an icon. -/
def iconFile (icon : String) : Name :=
  Name.ofText (icon ++ ".svg")

namespace Drawn

def sighting (drawn : Drawn) : Sighting :=
  ⟨drawn.variant, iconFile drawn.icon⟩

def addTo (collection : Collection) (drawn : Drawn) : Collection :=
  collection.insert drawn.icon drawn.variant drawn.drawing

end Drawn

/-- What a drawing's file yields. -/
def read (tree : Tree) (root : Path) (sighting : Sighting) : Except Fault Drawn :=
  match Text.ofOctets? sighting.file.stem with
  | none => .error (.refused (.unreadableName (sighting.path root)))
  | some icon =>
    (loadDrawing tree (sighting.path root)).map fun drawing => ⟨icon, sighting.variant, drawing⟩

/-- The collection below a directory: what its files yield put together, or the
fault of the first file that yields nothing. -/
def gathered (tree : Tree) (root : Path) : Except Fault Collection :=
  ((scan tree root).mapM (read tree root)).map fun drawn => drawn.foldl Drawn.addTo []

variable {tree other : Tree} {root directory : Path} {name : Name} {icon : String}
  {variant : Variant} {sighting : Sighting} {drawn : Drawn} {drawing : Svg.Node}
  {collection : Collection}

/-! ### Files of icons -/

theorem iconFile_eq (icon : String) :
    iconFile icon = Text.octets icon ++ Name.dot :: extension := by
  have dotted : Text.octets ".svg" = Name.dot :: extension := by decide
  rw [iconFile, Name.ofText, Text.octets_append, dotted]

theorem iconFile_injective {icon other : String} (same : iconFile icon = iconFile other) :
    icon = other := by
  rw [iconFile_eq, iconFile_eq] at same
  exact Text.octets_injective (List.append_cancel_right same)

/-- A drawing's file is named for an icon exactly if its stem stores the icon's
name. -/
theorem ofOctets?_stem_iff (hasExtension : name.extension? = some extension) :
    Text.ofOctets? name.stem = some icon ↔ name = iconFile icon := by
  obtain ⟨notEmpty, -, isName⟩ :=
    Name.cut_eq_some_iff.mp (Name.extension?_eq_some_iff.mp hasExtension)
  rw [iconFile_eq]
  constructor
  · intro stored
    rw [Text.octets_of_ofOctets? stored]
    exact isName
  · intro named
    rw [isName] at named
    rw [List.append_cancel_right named]
    exact Text.ofOctets?_octets icon

/-! ### Reading files -/

theorem loadDrawing_eq (same : tree.SameContent other) (file : Path) :
    loadDrawing tree file = loadDrawing other file := by
  unfold loadDrawing
  rw [same.readText_eq]

theorem read_eq (same : tree.SameContent other) (root : Path) :
    read tree root = read other root := by
  funext sighting
  unfold read
  rw [loadDrawing_eq same]

theorem read_eq_ok_iff (isDrawing : IsDrawing tree root sighting) :
    read tree root sighting = .ok drawn ↔
      sighting = drawn.sighting ∧ loadDrawing tree (sighting.path root) = .ok drawn.drawing := by
  obtain ⟨variant, file⟩ := sighting
  obtain ⟨icon, ofVariant, drawing⟩ := drawn
  have named (icon : String) : Text.ofOctets? file.stem = some icon ↔ file = iconFile icon :=
    ofOctets?_stem_iff isDrawing.hasExtension
  unfold read Drawn.sighting
  simp only [Sighting.mk.injEq, ← named]
  cases stored : Text.ofOctets? file.stem with
  | none => simp
  | some stem =>
    cases loadDrawing tree (Sighting.path root ⟨variant, file⟩) with
    | error fault => simp [Except.map]
    | ok loaded => simp [Except.map, and_comm, and_assoc]

/-- Files are read in turn. Either all of them yield a drawing, or there is a
first one that does not, and its fault is the outcome. -/
theorem mapM_cases {α β : Type} (reads : α → Except Fault β) (files : List α) :
    (∃ yielded, files.mapM reads = .ok yielded ∧
      List.Forall₂ (fun file value => reads file = .ok value) files yielded) ∨
    ∃ front file back fault, files = front ++ file :: back ∧
      (∀ before ∈ front, ∃ value, reads before = .ok value) ∧
      reads file = .error fault ∧ files.mapM reads = .error fault := by
  induction files with
  | nil => exact Or.inl ⟨[], rfl, .nil⟩
  | cons file rest inductionHypothesis =>
    rw [List.mapM_cons]
    cases isRead : reads file with
    | error fault =>
      exact Or.inr ⟨[], file, rest, fault, rfl, List.forall_mem_nil _, isRead, rfl⟩
    | ok value =>
      rcases inductionHypothesis with ⟨yielded, all, each⟩ | ⟨front, bad, back, fault, rfl, good,
        failed, all⟩
      · exact Or.inl ⟨value :: yielded, by rw [all]; rfl, .cons isRead each⟩
      · refine Or.inr ⟨file :: front, bad, back, fault, rfl, ?_, failed, by rw [all]; rfl⟩
        exact List.forall_mem_cons.mpr ⟨⟨value, isRead⟩, good⟩

/-! ### Gathering -/

theorem foldlM_eq_mapM {α β γ : Type} {reads : α → Except Fault β} {adds : γ → β → γ}
    (files : List α) (state : γ) :
    files.foldlM (fun state file => (reads file).map (adds state)) state =
      (files.mapM reads).map fun values => values.foldl adds state := by
  induction files generalizing state with
  | nil => rfl
  | cons file rest inductionHypothesis =>
    rw [List.foldlM_cons, List.mapM_cons]
    cases reads file with
    | error fault => rfl
    | ok value =>
      refine (inductionHypothesis (adds state value)).trans ?_
      cases rest.mapM reads <;> rfl

theorem gives_gatherFile :
    (gatherFile (root.child variant.name) variant collection name).Gives tree
      ((read tree root ⟨variant, name⟩).map (Drawn.addTo collection)) := by
  unfold gatherFile read
  cases Text.ofOctets? name.stem with
  | none => exact Task.gives_refuse
  | some icon =>
    let file := Sighting.path root ⟨variant, name⟩
    have reads : (do
        let tree ← Task.tree
        let drawing ← Task.ofExcept (loadDrawing tree file)
        return collection.insert icon variant drawing).Gives tree
          ((loadDrawing tree file).bind fun drawing =>
            .ok (collection.insert icon variant drawing)) :=
      Task.gives_tree.bind_ok (Task.gives_ofExcept.bind fun _ => Task.gives_pure)
    have same : (loadDrawing tree file).bind
          (fun drawing => .ok (collection.insert icon variant drawing)) =
        ((loadDrawing tree file).map (Drawn.mk icon variant)).map (Drawn.addTo collection) := by
      cases loadDrawing tree file <;> rfl
    rw [same] at reads
    simp only
    split
    · exact Task.gives_tell.bind_ok reads
    · exact reads

theorem gives_gatherVariant (tree : Tree) (root : Path) (collection : Collection)
    (variant : Variant) :
    (gatherVariant root collection variant).Gives tree
      ((scanVariant tree root variant).foldlM
        (fun state sighting => (read tree root sighting).map (Drawn.addTo state)) collection) := by
  unfold gatherVariant
  refine Task.gives_tree.bind_ok ?_
  split
  · next present =>
    obtain ⟨names, listed⟩ := drawingNames_of_hasDirectoryAt present
    unfold scanVariant
    rw [listed, List.foldlM_map]
    exact Task.gives_ofExcept.bind_ok (Task.Gives.foldlM (fun _ _ => gives_gatherFile) _ _)
  · next absent =>
    rw [scanVariant_of_absent absent]
    exact Task.gives_tell.bind_ok Task.gives_pure

theorem foldlM_flatMap {α β γ : Type} {step : γ → β → Except Fault γ} {files : α → List β}
    (variants : List α) (state : γ) :
    (variants.flatMap files).foldlM step state =
      variants.foldlM (fun state variant => (files variant).foldlM step state) state := by
  induction variants generalizing state with
  | nil => rfl
  | cons variant rest inductionHypothesis =>
    rw [List.flatMap_cons, List.foldlM_append, List.foldlM_cons]
    exact congrArg _ (funext inductionHypothesis)

/-- Gathering comes to what the scanned files yield, put together. -/
theorem gives_gather (tree : Tree) (root : Path) :
    (gather root).Gives tree
      (if tree.hasDirectoryAt root = true then gathered tree root
        else .error (.refused (.noIconsDirectory root))) := by
  unfold gather
  refine Task.gives_tree.bind_ok ?_
  split
  · have all := Task.Gives.foldlM (gives_gatherVariant tree root) Variant.all []
    rw [← foldlM_flatMap, foldlM_eq_mapM] at all
    have unchanged : (gathered tree root).bind .ok = gathered tree root := by
      cases gathered tree root <;> rfl
    rw [← unchanged]
    exact Task.Gives.bind all fun _ => Task.gives_tell.bind_ok Task.gives_pure
  · exact Task.gives_refuse

end IconForge.Gather
