import IconForge.Output
import IconForge.Proofs.Outcome
import IconForge.Proofs.Task.Steps

/-!
Contract: the templates at hand, as what a tree and an engine make of a directory.

Owns:
- what loading comes to, and that it changes no file;
- when loading succeeds, with a directory of templates and without one;
- engines that answer alike about the templates of a directory.

Main statements: `gives_library`, `loaded_eq_of_steady`.

Does not own: which files are templates, or what templates yield.
-/

namespace IconForge.Output

open IconForge.Files
open IconForge.Template

section

variable [Engine] {tree : Tree} {directory : Option Path} {path : Path} {library : Library}
  {own : Texts}

/-- The templates at hand in a tree, if they can be loaded. -/
def loaded (tree : Tree) (directory : Option Path) : Except Fault Library := do
  let own ← ownTexts tree directory
  during .loadEmbedded .template (Library.withEmbedded own)

theorem gives_library (directory : Option Path) (tree : Tree) :
    (Output.library directory).Gives tree (loaded tree directory) := by
  refine Task.gives_tree.bind_ok (Task.gives_ofExcept.bind fun own => ?_)
  cases directory with
  | none => exact Task.gives_pure.bind_ok Task.gives_ofExcept
  | some path => exact Task.gives_tell.bind_ok Task.gives_ofExcept

theorem exists_perform_library {world : World}
    (isLoaded : loaded world.tree directory = .ok library) :
    ∃ finished, (Output.library directory).perform world = (.ok library, finished) := by
  obtain ⟨told, gives⟩ := gives_library directory world.tree
  rw [isLoaded] at gives
  exact ⟨_, gives world.notices⟩

/-! ### Loading that succeeds -/

theorem withEmbedded_eq_ok_iff :
    Library.withEmbedded own = .ok library ↔
      Engine.add own (missing own) = .ok () ∧ library = .ofTexts (own ++ missing own) := by
  unfold Library.withEmbedded
  rw [bind_eq_ok_iff]
  constructor
  · rintro ⟨_, accepted, isLibrary⟩
    cases isLibrary
    exact ⟨accepted, rfl⟩
  · rintro ⟨accepted, rfl⟩
    exact ⟨(), accepted, rfl⟩

theorem loaded_none_eq_ok_iff :
    loaded tree none = .ok library ↔
      Engine.add [] Embedded.all = .ok () ∧ library = .embedded := by
  change during .loadEmbedded .template (Library.withEmbedded []) = .ok library ↔ _
  rw [Task.during_eq_ok_iff, withEmbedded_eq_ok_iff]
  rfl

theorem loaded_some_eq_ok_iff :
    loaded tree (some path) = .ok library ↔
      ∃ place own, tree.directoryAt path = .ok place ∧
        Engine.load (templatePattern path) (filesBelow tree place) = .ok own ∧
        Engine.add own (missing own) = .ok () ∧ library = .ofTexts (own ++ missing own) := by
  simp only [loaded, ownTexts, bind_eq_ok_iff, Task.during_eq_ok_iff, withEmbedded_eq_ok_iff]
  cases tree.directoryAt path with
  | error error => simp
  | ok place => simp [Task.during_eq_ok_iff]

/-- Where no directory of templates is given, loading tells nothing. -/
theorem perform_library_none (world : World) :
    (Output.library none).perform world = (loaded world.tree none, world) := by
  have silent : (none : Option Path).forM (fun path => Task.tell (.templatesUsed path)) =
      pure () := rfl
  simp only [Output.library, ownTexts, silent, Task.perform_bind, Task.perform_tree,
    Task.perform_ofExcept, Task.perform_pure]
  rfl

end

/-! ### Engines that answer alike -/

/-- Whether the engines of two runs answer alike about the templates of a directory and
those that come with the program: they take them up alike, and have each yield the same
whatever it is filled with. So it is with templates that tell neither time nor chance. -/
structure Steady (one other : Engine) (tree : Tree) (directory : Option Path) : Prop where
  load : ∀ path ∈ directory, ∀ place, tree.directoryAt path = .ok place →
    one.load (templatePattern path) (filesBelow tree place) =
      other.load (templatePattern path) (filesBelow tree place)
  add : ∀ own, @ownTexts one tree directory = .ok own →
    one.add own (missing own) = other.add own (missing own)
  render : ∀ own, @ownTexts one tree directory = .ok own →
    one.render (own ++ missing own) = other.render (own ++ missing own)

variable {one other : Engine} {tree : Tree} {directory : Option Path}

theorem Steady.self (engine : Engine) (tree : Tree) (directory : Option Path) :
    Steady engine engine tree directory :=
  ⟨fun _ _ _ _ => rfl, fun _ _ => rfl, fun _ _ => rfl⟩

theorem ownTexts_eq_of_steady (steady : Steady one other tree directory) :
    @ownTexts one tree directory = @ownTexts other tree directory := by
  cases directory with
  | none => rfl
  | some path =>
    have load := steady.load path rfl
    simp only [ownTexts]
    cases isDirectory : tree.directoryAt path with
    | error error => rfl
    | ok place => simp only [load place isDirectory]

/-- Engines that answer alike have the same templates at hand. -/
theorem loaded_eq_of_steady (steady : Steady one other tree directory) :
    @loaded one tree directory = @loaded other tree directory := by
  unfold loaded
  rw [← ownTexts_eq_of_steady steady]
  cases isOwn : @ownTexts one tree directory with
  | error fault => rfl
  | ok own =>
    have together : @Library.ofTexts one (own ++ missing own) =
        @Library.ofTexts other (own ++ missing own) :=
      congrArg (Library.mk (own ++ missing own)) (steady.render own isOwn)
    simp only [bind, Except.bind, Library.withEmbedded, steady.add own isOwn, together]

end IconForge.Output
