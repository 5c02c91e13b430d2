import IconForge.Gather
import IconForge.Proofs.Files.Change
import IconForge.Proofs.Outcome
import IconForge.Proofs.Svg.Containers
import IconForge.Proofs.Svg.Elements
import IconForge.Proofs.Task.Steps

/-!
Contract: what is in a drawing that has been loaded from a file.

Owns:
- loading as reading a file with cleaning, writing the clean tree, and reading that markup
  again;
- that a text with plain names is loaded if it can be optimized, and that all elements of the
  drawing show;
- when a loaded drawing has a container without children: the clean tree has none, but the
  second reading drops blank texts, and a container may hold nothing else.

Main statements: `loadDrawing_of_optimize`, `exists_emptyContainer_iff`.

Does not own: which files are loaded.
-/

namespace IconForge.Gather

open IconForge.Files

variable {tree : Tree} {file : Path} {source markup : String} {cleaned drawing : Svg.Node}

/-! ### Loading -/

theorem optimize_eq_ok_iff :
    Svg.optimize source = .ok markup ↔
      ∃ cleaned, Svg.readTree .cleaning source = .ok cleaned ∧ cleaned.markup = markup :=
  map_eq_ok_iff

/-- A drawing is loaded by reading its file with cleaning, and then reading the markup of
what has been read. -/
theorem loadDrawing_eq_ok_iff :
    loadDrawing tree file = .ok drawing ↔
      ∃ source cleaned, tree.readText file = .ok source ∧
        Svg.readTree .cleaning source = .ok cleaned ∧
          Svg.parse cleaned.markup = .ok drawing := by
  unfold loadDrawing
  simp only [bind_eq_ok_iff, Task.during_eq_ok_iff, optimize_eq_ok_iff]
  constructor
  · rintro ⟨source, read, markup, ⟨cleaned, isCleaned, rfl⟩, parsed⟩
    exact ⟨source, cleaned, read, isCleaned, parsed⟩
  · rintro ⟨source, cleaned, read, isCleaned, parsed⟩
    exact ⟨source, read, cleaned.markup, ⟨cleaned, isCleaned, rfl⟩, parsed⟩

/-! ### Containers -/

/-- A loaded drawing is what is read from the markup of a clean tree, which has no
container without children. If the tags of that tree are legible, the drawing has one
exactly if the tree has a container that holds blank texts only. If the markup is stable,
the drawing has none. -/
theorem exists_emptyContainer_iff (loaded : loadDrawing tree file = .ok drawing) :
    ∃ source cleaned, tree.readText file = .ok source ∧
      Svg.readTree .cleaning source = .ok cleaned ∧
        (∀ part ∈ cleaned.parts, Svg.isEmptyContainer part = false) ∧
          (cleaned.Legible → ((∃ part ∈ drawing.parts, Svg.isEmptyContainer part = true) ↔
            ∃ part ∈ cleaned.parts, part.isHollow = true)) ∧
          (Svg.IsStable cleaned.markup →
            ∀ part ∈ drawing.parts, Svg.isEmptyContainer part = false) := by
  obtain ⟨source, cleaned, read, isRead, parsed⟩ := loadDrawing_eq_ok_iff.mp loaded
  have isCleaned := Svg.cleaned_of_readTree isRead
  have noneFirst := Svg.Node.isEmptyContainer_of_clean isCleaned.clean
    (Svg.Node.isEmptyContainer_of_root isCleaned.root)
  refine ⟨source, cleaned, read, isRead, noneFirst, ?_, ?_⟩
  · intro legible
    have normal := Svg.readTree_markup_of_legible legible isCleaned.root
    cases normal.symm.trans parsed
    exact Svg.Node.exists_emptyContainer_normal_iff cleaned
  · intro stable
    obtain ⟨settled, isSettled, sameMarkup⟩ := Svg.Node.isStable_iff.mp stable
    have normal := Svg.readTree_markup_of_legible isSettled.legible isSettled.root
    rw [sameMarkup] at normal
    cases normal.symm.trans parsed
    have clean := Svg.Node.clean_normal isSettled.clean isSettled.trimmed isSettled.filled
    have root := (Svg.readTree_plain_iff.mp parsed).2
    exact Svg.Node.isEmptyContainer_of_clean clean (Svg.Node.isEmptyContainer_of_root root)

/-! ### Elements -/

/-- A file whose text has plain names is loaded as a drawing if its text can be optimized, and
no element of the drawing, at any depth, is there for an editor or for a description. -/
theorem loadDrawing_of_optimize (read : tree.readText file = .ok source)
    (plain : Svg.hasPlainNames source = true) (optimized : Svg.optimize source = .ok markup) :
    ∃ drawing, loadDrawing tree file = .ok drawing ∧
      ∀ element ∈ drawing.elements, Svg.IsShown element := by
  obtain ⟨cleaned, isCleaned, -⟩ := optimize_eq_ok_iff.mp optimized
  have parsed := Svg.parse_markup_of_plain plain isCleaned
  refine ⟨cleaned.normal, loadDrawing_eq_ok_iff.mpr ⟨source, cleaned, read, isCleaned, parsed⟩, ?_⟩
  rw [Svg.Node.elements_normal]
  have cleanedTree := Svg.cleaned_of_readTree isCleaned
  exact Svg.Node.isShown_of_clean cleanedTree.clean (Svg.Node.isDropped_of_root cleanedTree.root)

/-! ### A drawing in a file of its own -/

def drawingFile : Path := .ofText "icon.svg"

/-- A tree with a single file. -/
def soleDrawing (source : String) : Tree :=
  (Tree.empty.writeText drawingFile source).toOption.getD Tree.empty

theorem readText_soleDrawing (source : String) :
    (soleDrawing source).readText drawingFile = .ok source := by
  have ready : Tree.empty.isReady drawingFile = true := by decide
  obtain ⟨behind, written, -⟩ := Tree.write_of_isReady source.toUTF8 ready
  obtain ⟨place, saves⟩ := Tree.saves_of_write written
  have isSole : soleDrawing source = behind := by
    unfold soleDrawing Tree.writeText
    rw [written]
    rfl
  rw [isSole]
  exact Tree.readText_of_readBytes saves.readBytes_eq

/-- A drawing with what editors and descriptions leave in it, in elements of either form and
in attributes, and with a value that refers to a line break. -/
def editedDrawing : String :=
  "<svg id='a&#10; b' xmlns:sketch='u'><title>t<b/></title><sodipodi:view/>" ++
    "<g inkscape:label='g'><path d=' M0 '/></g></svg>"

theorem loadDrawing_of_optimize_editedDrawing :
    (soleDrawing editedDrawing).readText drawingFile = .ok editedDrawing ∧
      Svg.hasPlainNames editedDrawing = true ∧
        Svg.optimize editedDrawing = .ok "<svg id=\"a b\"><g><path d=\"M0\"/></g></svg>" ∧
          ∃ drawing, loadDrawing (soleDrawing editedDrawing) drawingFile = .ok drawing ∧
            ∀ element ∈ drawing.elements, Svg.IsShown element := by
  have read := readText_soleDrawing editedDrawing
  have plain : Svg.hasPlainNames editedDrawing = true := by decide +kernel
  have optimized : Svg.optimize editedDrawing =
      .ok "<svg id=\"a b\"><g><path d=\"M0\"/></g></svg>" := by decide +kernel
  exact ⟨read, plain, optimized, loadDrawing_of_optimize read plain optimized⟩

/-- A drawing that is clean already, and has proper names, is loaded as its normal form. -/
theorem loadDrawing_soleDrawing {plain : Svg.Node} (parsed : Svg.parse source = .ok plain)
    (clean : plain.clean = plain) (proper : plain.isProper = true) :
    loadDrawing (soleDrawing source) drawingFile = .ok plain.normal := by
  have root := (Svg.readTree_plain_iff.mp parsed).2
  have cleaning := Svg.readTree_cleaning_of_plain parsed
  rw [clean] at cleaning
  exact loadDrawing_eq_ok_iff.mpr ⟨source, plain, readText_soleDrawing source, cleaning,
    Svg.readTree_markup_of_legible (Svg.legible_of_isProper proper) root⟩

/-- A group of which the content is written as a reference to a space, beside one that
holds something. -/
def blankGroup : String := "<svg><g>&#32;</g><g><path/></g></svg>"

def blankGroupTree : Svg.Node :=
  .element "svg" .empty
    [.element "g" .empty [.text " "], .element "g" .empty [.element "path" .empty []]]

def emptyGroupTree : Svg.Node :=
  .element "svg" .empty
    [.element "g" .empty [], .element "g" .empty [.element "path" .empty []]]

theorem parse_blankGroup : Svg.parse blankGroup = .ok blankGroupTree := by
  apply Svg.readTree_plain_iff.mpr
  constructor
  · decide +kernel
  · rfl

theorem loadDrawing_blankGroup :
    loadDrawing (soleDrawing blankGroup) drawingFile = .ok emptyGroupTree :=
  loadDrawing_soleDrawing parse_blankGroup rfl (by decide)

theorem exists_emptyContainer_iff_blankGroup :
    loadDrawing (soleDrawing blankGroup) drawingFile = .ok emptyGroupTree ∧
      blankGroupTree.Legible ∧
        ((∃ part ∈ emptyGroupTree.parts, Svg.isEmptyContainer part = true) ↔
          ∃ part ∈ blankGroupTree.parts, part.isHollow = true) := by
  have legible : blankGroupTree.Legible := Svg.legible_of_isProper (by decide)
  obtain ⟨source, cleaned, read, isRead, -, onlyHollow, -⟩ :=
    exists_emptyContainer_iff loadDrawing_blankGroup
  cases (readText_soleDrawing blankGroup).symm.trans read
  cases (Svg.readTree_cleaning_of_plain parse_blankGroup).symm.trans isRead
  exact ⟨loadDrawing_blankGroup, legible, onlyHollow legible⟩

/-- A group that holds a referenced space is kept by cleaning, and is read without the
space afterwards. -/
theorem loadDrawing_empty_group :
    ¬∀ tree file drawing, loadDrawing tree file = .ok drawing →
      ∀ part ∈ drawing.parts, Svg.isEmptyContainer part = false := by
  intro noneEmpty
  have none := noneEmpty _ _ _ loadDrawing_blankGroup (.element "g" .empty [])
    (List.mem_cons_of_mem _ List.mem_cons_self)
  cases none

end IconForge.Gather
