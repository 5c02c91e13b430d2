import IconForge.Proofs.Files.Change
import IconForge.Proofs.Task.Steps

/-!
Contract: what the steps of a run that change files do to them.

Owns:
- making directories, and writing a text to a file;
- steps that succeed as long as directories stay where they are.

Main statements: `saves_of_save`, `growsAlong_of_save_error`, `works_save`.

Does not own: which files a run writes.
-/

namespace IconForge.Task

open IconForge.Files

variable {world finished : World} {action : Action} {path : Path} {text : String}

theorem makePath_growsAlong (action : Option Action) (path : Path) (world : World) :
    Tree.GrowsAlong path.ancestors world.tree ((makePath action path).perform world).2.tree := by
  have grows := Tree.makePath_growsAlong world.tree path
  unfold makePath
  rw [perform_bind, perform_tree]
  simp only
  rcases made : world.tree.makePath path with ⟨behind, error⟩
  rw [made] at grows
  cases error <;> exact grows

/-- The paths above the path of a file: that of its directory, and those above
it. -/
def directoryPaths (path : Path) : List Path :=
  (path.parent?.map Path.ancestors).getD []

theorem makeParent_growsAlong (path : Path) (world : World) :
    Tree.GrowsAlong (directoryPaths path) world.tree ((makeParent path).perform world).2.tree := by
  unfold makeParent directoryPaths
  split
  · exact .refl _ world.tree
  · next parent isParent =>
    rw [isParent, perform_bind, perform_tree]
    simp only
    split
    · exact .refl _ world.tree
    · exact makePath_growsAlong _ _ world

theorem perform_change (action : Action) (changed : Tree → Except Files.Error Tree)
    (world : World) :
    (change action changed).perform world =
      match changed world.tree with
      | .ok behind => (.ok (), { world with tree := behind })
      | .error error => (.error (.failed (some action) (.files error)), world) := by
  unfold change
  rw [perform_bind, perform_tree]
  simp only
  rw [perform_bind, perform_ofExcept]
  cases changed world.tree <;> rfl

/-- A text that has been saved stands in its file, and besides there is nothing
new but directories. -/
theorem saves_of_save (performed : (save action path text).perform world = (.ok (), finished)) :
    ∃ place, Tree.Saves world.tree finished.tree path text.toUTF8 place := by
  obtain ⟨_, between, parentMade, written⟩ := perform_bind_eq_ok performed
  have grows := makeParent_growsAlong path world
  rw [parentMade] at grows
  rw [perform_change] at written
  cases isWritten : between.tree.writeText path text with
  | error error =>
    rw [isWritten] at written
    cases written
  | ok behind =>
    rw [isWritten] at written
    cases written
    obtain ⟨place, saves⟩ := Tree.saves_of_write isWritten
    exact ⟨place, saves.of_grows grows.grows⟩

/-- A text that could not be saved has left nothing but directories on the way
to its file. -/
theorem growsAlong_of_save_error {fault : Fault}
    (performed : (save action path text).perform world = (.error fault, finished)) :
    Tree.GrowsAlong (directoryPaths path) world.tree finished.tree := by
  have grows := makeParent_growsAlong path world
  rcases perform_bind_eq_error performed with stopped | ⟨_, between, parentMade, stopped⟩
  · rwa [stopped] at grows
  · rw [parentMade] at grows
    rw [perform_change] at stopped
    cases isWritten : between.tree.writeText path text with
    | error error =>
      rw [isWritten] at stopped
      cases stopped
      exact grows
    | ok behind =>
      rw [isWritten] at stopped
      cases stopped

/-! ### Steps that succeed -/

/-- A step that succeeds wherever directories are the ones of a tree, and leaves
them so. -/
def Works (task : Task Unit) (tree : Tree) : Prop :=
  ∀ world : World, Tree.SameDirectories tree world.tree →
    ∃ finished, task.perform world = (.ok (), finished) ∧
      Tree.SameDirectories tree finished.tree

theorem works_tell {tree : Tree} {notice : Notice} : Works (Task.tell notice) tree :=
  fun _ same => ⟨_, rfl, same⟩

theorem Works.bind {tree : Tree} {first second : Task Unit} (one : Works first tree)
    (other : Works second tree) : Works (first >>= fun _ => second) tree := by
  intro world same
  obtain ⟨between, performed, same⟩ := one world same
  obtain ⟨finished, alsoPerformed, same⟩ := other between same
  refine ⟨finished, ?_, same⟩
  rw [perform_bind, performed]
  exact alsoPerformed

theorem works_forM {α : Type} {tree : Tree} {step : α → Task Unit} {values : List α}
    (each : ∀ value ∈ values, Works (step value) tree) : Works (values.forM step) tree := by
  induction values with
  | nil => exact fun _ same => ⟨_, rfl, same⟩
  | cons value rest inductionHypothesis =>
    rw [List.forall_mem_cons] at each
    exact each.1.bind (inductionHypothesis each.2)

theorem perform_makeParent_of_isReady (ready : world.tree.isReady path = true) :
    (makeParent path).perform world = (.ok (), world) := by
  unfold makeParent
  cases isParent : path.parent? with
  | none => rfl
  | some above =>
    have present : (above.bytes.isEmpty || world.tree.hasAt above) = true := by
      unfold Tree.isReady at ready
      split at ready
      · rw [isParent, Bool.and_eq_true] at ready
        rcases Bool.or_eq_true_iff.mp ready.2 with isEmpty | isDirectory
        · exact Bool.or_eq_true_iff.mpr (Or.inl isEmpty)
        · exact Bool.or_eq_true_iff.mpr (Or.inr (Tree.hasAt_of_hasDirectoryAt isDirectory))
      · cases ready
    rw [perform_bind, perform_tree]
    simp only [present, if_true, perform_pure]

/-- Saving succeeds along a path that is ready. -/
theorem works_save {tree : Tree} (action : Action) (text : String)
    (ready : tree.isReady path = true) : Works (save action path text) tree := by
  intro world same
  have readyNow := same.isReady ready
  obtain ⟨behind, written, alsoSame⟩ := Tree.write_of_isReady text.toUTF8 readyNow
  refine ⟨{ world with tree := behind }, ?_, fun place => (alsoSame place).trans (same place)⟩
  unfold save
  rw [perform_bind, perform_makeParent_of_isReady readyNow]
  simp only
  rw [perform_change]
  simp only [Tree.writeText, written]

end IconForge.Task
