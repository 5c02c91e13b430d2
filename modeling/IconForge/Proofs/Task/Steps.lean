import IconForge.Task

/-!
Contract: what the steps of a run do, taken one after another.

Owns:
- what each kind of step does to files and notices, and what a step that
  follows another one does;
- steps that leave files alone, and what they come to whatever has been told
  before.

Main statements: `perform_bind`, `Gives.bind`, `Gives.foldlM`.

Does not own: the steps of any one run.
-/

namespace IconForge.Task

open IconForge.Files

variable {α β : Type} {task : Task α} {next : α → Task β} {world : World} {tree : Tree}
  {value : α} {fault : Fault}

/-! ### Performing steps -/

@[simp] theorem perform_pure : (pure value : Task α).perform world = (.ok value, world) := rfl

@[simp] theorem perform_tree : Task.tree.perform world = (.ok world.tree, world) := rfl

@[simp] theorem perform_tell {notice : Notice} :
    (Task.tell notice).perform world =
      (.ok (), { world with notices := world.notices ++ [notice] }) := rfl

@[simp] theorem perform_ofExcept {outcome : Except Fault α} :
    (Task.ofExcept outcome).perform world = (outcome, world) := by
  cases outcome <;> rfl

theorem perform_bind (task : Task α) (next : α → Task β) (world : World) :
    (task >>= next).perform world =
      match task.perform world with
      | (.ok value, behind) => (next value).perform behind
      | (.error fault, behind) => (.error fault, behind) := by
  unfold perform
  rw [ExceptT.run_bind, StateT.run_bind]
  rcases (ExceptT.run task).run world with ⟨fault | value, behind⟩ <;> rfl

theorem tree_of_tell {notice : Notice} {finished : World}
    (performed : (Task.tell notice).perform world = (.ok (), finished)) :
    finished.tree = world.tree := by
  rw [perform_tell] at performed
  cases performed
  rfl

/-- A run of two steps that succeeds is a run of each. -/
theorem perform_bind_eq_ok {result : β} {finished : World}
    (performed : (task >>= next).perform world = (.ok result, finished)) :
    ∃ value between, task.perform world = (.ok value, between) ∧
      (next value).perform between = (.ok result, finished) := by
  rw [perform_bind] at performed
  split at performed
  · next value between first => exact ⟨value, between, first, performed⟩
  · cases performed

/-- A run of two steps that fails has failed at the first one, or at the second
one behind the first. -/
theorem perform_bind_eq_error {finished : World}
    (failed : (task >>= next).perform world = (.error fault, finished)) :
    task.perform world = (.error fault, finished) ∨
      ∃ value between, task.perform world = (.ok value, between) ∧
        (next value).perform between = (.error fault, finished) := by
  rw [perform_bind] at failed
  split at failed
  · next value between first => exact Or.inr ⟨value, between, first, failed⟩
  · next firstFault behind first =>
    cases failed
    exact Or.inl first

/-- Telling when something has failed does not change when it succeeds. -/
theorem during_eq_ok_iff {α ε : Type} {action : Action} {cause : ε → Cause}
    {outcome : Except ε α} {value : α} :
    during action cause outcome = .ok value ↔ outcome = .ok value := by
  cases outcome with
  | error error => exact iff_of_false nofun nofun
  | ok found =>
    constructor
    · rintro ⟨⟩
      rfl
    · rintro ⟨⟩
      rfl

/-! ### Steps that leave files alone -/

/-- What a step comes to that reads a tree and changes nothing in it, whatever
has been told before. -/
def Gives (task : Task α) (tree : Tree) (outcome : Except Fault α) : Prop :=
  ∃ told, ∀ before, task.perform ⟨tree, before⟩ = (outcome, ⟨tree, before ++ told⟩)

theorem gives_of_perform {outcome : Except Fault α}
    (performs : ∀ before, task.perform ⟨tree, before⟩ = (outcome, ⟨tree, before⟩)) :
    Gives task tree outcome :=
  ⟨[], fun before => (performs before).trans (by rw [List.append_nil])⟩

theorem gives_pure : Gives (pure value : Task α) tree (.ok value) :=
  gives_of_perform fun _ => rfl

theorem gives_tree : Gives Task.tree tree (.ok tree) :=
  gives_of_perform fun _ => rfl

theorem gives_refuse {refusal : Refusal} :
    Gives (Task.refuse refusal : Task α) tree (.error (.refused refusal)) :=
  gives_of_perform fun _ => rfl

theorem gives_ofExcept {outcome : Except Fault α} : Gives (Task.ofExcept outcome) tree outcome :=
  gives_of_perform fun _ => perform_ofExcept

theorem gives_tell {notice : Notice} : Gives (Task.tell notice) tree (.ok ()) :=
  ⟨[notice], fun _ => rfl⟩

namespace Gives

theorem bind_ok {outcome : Except Fault β} (first : Gives task tree (.ok value))
    (second : Gives (next value) tree outcome) : Gives (task >>= next) tree outcome := by
  obtain ⟨told, first⟩ := first
  obtain ⟨alsoTold, second⟩ := second
  refine ⟨told ++ alsoTold, fun before => ?_⟩
  rw [perform_bind, first, ← List.append_assoc]
  exact second _

theorem bind_error (first : Gives task tree (.error fault)) :
    Gives (task >>= next) tree (.error fault) := by
  obtain ⟨told, first⟩ := first
  refine ⟨told, fun before => ?_⟩
  rw [perform_bind, first]

theorem outcome_eq {outcome result : Except Fault α} {finished : World}
    (gives : Gives task world.tree outcome) (performed : task.perform world = (result, finished)) :
    result = outcome := by
  obtain ⟨told, gives⟩ := gives
  rw [gives world.notices] at performed
  exact (congrArg Prod.fst performed).symm

theorem tree_eq {outcome result : Except Fault α} {finished : World}
    (gives : Gives task world.tree outcome) (performed : task.perform world = (result, finished)) :
    finished.tree = world.tree := by
  obtain ⟨told, gives⟩ := gives
  rw [gives world.notices] at performed
  exact (congrArg (fun reached => reached.2.tree) performed).symm

theorem unique {outcome other : Except Fault α} (gives : Gives task tree outcome)
    (alsoGives : Gives task tree other) : outcome = other := by
  obtain ⟨told, performs⟩ := alsoGives
  have here : task.perform ⟨tree, []⟩ = (other, ⟨tree, [] ++ told⟩) := performs []
  exact (outcome_eq gives here).symm

/-- A step behind another one comes to what the two come to in turn. -/
theorem bind {outcome : Except Fault α} {continued : α → Except Fault β}
    (first : Gives task tree outcome)
    (second : ∀ value, Gives (next value) tree (continued value)) :
    Gives (task >>= next) tree (outcome.bind continued) := by
  cases outcome with
  | error fault => exact first.bind_error
  | ok value => exact first.bind_ok (second value)

/-- A step for each of some values comes to what the steps come to in turn. -/
theorem foldlM {step : β → α → Task β} {stepped : β → α → Except Fault β}
    (each : ∀ state value, Gives (step state value) tree (stepped state value))
    (values : List α) (state : β) :
    Gives (values.foldlM step state) tree (values.foldlM stepped state) := by
  induction values generalizing state with
  | nil => exact gives_pure
  | cons value rest inductionHypothesis =>
    rw [List.foldlM_cons, List.foldlM_cons]
    exact (each state value).bind inductionHypothesis

end Gives

end IconForge.Task
