import IconForge.Proofs.Task.Steps

/-!
Contract: what steps do that does not depend on what has been told.

Owns:
- what a step started afresh comes to, and the files it leaves behind;
- steps for which notices given before make no difference, and what such steps do
  one after another.

Main statements: `effect_bind`, `IgnoresNotices.bind`, `ignoresNotices_save`.

Does not own: the steps of any one run.
-/

namespace IconForge.Task

open IconForge.Files

variable {α β : Type} {task : Task α} {next : α → Task β}

/-- What a step started afresh comes to, and the files it leaves behind. -/
def effect (task : Task α) (tree : Tree) : Except Fault α × Tree :=
  let (outcome, behind) := task.perform (.ofTree tree)
  (outcome, behind.tree)

/-- A step that does the same whatever has been told before. -/
def IgnoresNotices (task : Task α) : Prop :=
  ∀ world, ((task.perform world).1, (task.perform world).2.tree) = task.effect world.tree

theorem perform_of_effect {outcome : Except Fault α} {tree behind : Tree}
    (comes : task.effect tree = (outcome, behind)) :
    ∃ finished, task.perform (.ofTree tree) = (outcome, finished) ∧ finished.tree = behind := by
  unfold effect at comes
  cases comes
  exact ⟨_, rfl, rfl⟩

theorem effect_of_gives {tree : Tree} {outcome : Except Fault α}
    (gives : task.Gives tree outcome) : task.effect tree = (outcome, tree) := by
  obtain ⟨told, performs⟩ := gives
  unfold effect World.ofTree
  rw [performs []]

/-- A step that only reads files does the same whatever has been told before. -/
theorem ignoresNotices_of_gives (gives : ∀ tree, ∃ outcome, task.Gives tree outcome) :
    IgnoresNotices task := by
  intro world
  obtain ⟨outcome, reads⟩ := gives world.tree
  obtain ⟨told, performs⟩ := reads
  rw [effect_of_gives ⟨told, performs⟩, performs world.notices]

/-- A step behind another one starts from the files that the first one leaves. -/
theorem effect_bind (ignores : ∀ value, IgnoresNotices (next value)) (tree : Tree) :
    (task >>= next).effect tree =
      match task.effect tree with
      | (.ok value, between) => (next value).effect between
      | (.error fault, behind) => (.error fault, behind) := by
  unfold effect
  rw [perform_bind]
  rcases task.perform (.ofTree tree) with ⟨fault | value, between⟩
  · rfl
  · exact ignores value between

theorem IgnoresNotices.bind (first : IgnoresNotices task)
    (second : ∀ value, IgnoresNotices (next value)) : IgnoresNotices (task >>= next) := by
  intro world
  rw [effect_bind second, ← first world, perform_bind]
  rcases task.perform world with ⟨fault | value, between⟩
  · rfl
  · exact second value between

theorem ignoresNotices_pure {value : α} : IgnoresNotices (pure value : Task α) :=
  ignoresNotices_of_gives fun _ => ⟨_, gives_pure⟩

theorem ignoresNotices_tree : IgnoresNotices Task.tree :=
  ignoresNotices_of_gives fun _ => ⟨_, gives_tree⟩

theorem ignoresNotices_tell {notice : Notice} : IgnoresNotices (Task.tell notice) :=
  ignoresNotices_of_gives fun _ => ⟨_, gives_tell⟩

theorem ignoresNotices_ofExcept {outcome : Except Fault α} :
    IgnoresNotices (Task.ofExcept outcome) :=
  ignoresNotices_of_gives fun _ => ⟨_, gives_ofExcept⟩

theorem ignoresNotices_forM {values : List α} {step : α → Task Unit}
    (each : ∀ value, IgnoresNotices (step value)) : IgnoresNotices (values.forM step) := by
  induction values with
  | nil => exact ignoresNotices_pure
  | cons value rest inductionHypothesis => exact (each value).bind fun _ => inductionHypothesis

/-! ### Steps that change files -/

theorem ignoresNotices_change (action : Action) (changed : Tree → Except Files.Error Tree) :
    IgnoresNotices (change action changed) := by
  refine ignoresNotices_tree.bind fun before => ignoresNotices_ofExcept.bind fun behind => ?_
  exact fun world => rfl

theorem ignoresNotices_makePath (action : Option Action) (path : Path) :
    IgnoresNotices (makePath action path) := by
  refine ignoresNotices_tree.bind fun before => ?_
  rcases before.makePath path with ⟨behind, _ | error⟩
  · exact fun world => rfl
  · exact fun world => rfl

theorem ignoresNotices_makeParent (path : Path) : IgnoresNotices (makeParent path) := by
  unfold makeParent
  split
  · exact ignoresNotices_pure
  · next parent isParent =>
    refine ignoresNotices_tree.bind fun before => ?_
    split
    · exact ignoresNotices_pure
    · exact ignoresNotices_makePath _ parent

theorem ignoresNotices_save (action : Action) (path : Path) (text : String) :
    IgnoresNotices (save action path text) :=
  (ignoresNotices_makeParent path).bind fun _ => ignoresNotices_change action _

end IconForge.Task
