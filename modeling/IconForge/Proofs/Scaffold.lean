import IconForge.Proofs.Output.Interruption
import IconForge.Scaffold

/-!
Contract: what the first files of a project leave alone.

Owns:
- which files those are, and that they are written one after another;
- that files written below a free name replace nothing;
- what stands behind writing them, whether what is there is kept or replaced.

Main statement: `write_leaves`.

Does not own: the texts of the sample and of the templates.
-/

namespace IconForge.Scaffold

open IconForge.Files
open IconForge.Output

/-- The files that a project starts with, with their texts, in the order in which
they are written. -/
def files (directory : Path) : List (Path × String) :=
  (samplePath directory, sample) ::
    Template.Embedded.all.map fun template =>
      ((templatesPath directory).child template.1, template.2)

def sampleName : Name :=
  .ofText "zappgen.yaml"

def templatesName : Name :=
  .ofText "templates"

def plannedSample : Planned where
  place := [sampleName]
  text := .ok sample

/-- A template as a file to be written; its name may lead through directories. -/
def plannedTemplate (template : String × String) : Planned where
  place := (Path.ofText template.1).parts.reverse ++ [templatesName]
  text := .ok template.2

def plannedTemplates : List Planned :=
  Template.Embedded.all.map plannedTemplate

def planned : List Planned :=
  plannedSample :: plannedTemplates

/-- Whether all files of a plan stand at a name or below it. -/
def Within (name : Name) (plan : List Planned) : Prop :=
  ∀ file ∈ plan, ∃ front, file.place = front ++ [name] ∧
    ∀ inner ∈ front, Path.leadsDown inner = true

variable {directory out path : Path} {tree before between behind : Tree} {world finished : World}
  {name : Name} {front place there top : Place} {plan : List Planned}
  {task : Task Unit} {outcome : Except Fault Unit} {force : Bool}

/-! ### Below a name -/

theorem below_ne_nil (out : Path) (leads : Path.leadsDown name = true)
    (leadsOn : ∀ inner ∈ front, Path.leadsDown inner = true) :
    (below out (front ++ [name])).bytes ≠ [] := by
  cases front with
  | nil => exact Path.join_ne_nil out leads
  | cons inner rest => exact Path.join_ne_nil _ (leadsOn inner List.mem_cons_self)

theorem usable_below (leads : Path.leadsDown name = true)
    (leadsOn : ∀ inner ∈ front, Path.leadsDown inner = true)
    (usable : Tree.Usable (below out (front ++ [name]))) : Tree.Usable (out.join ⟨name⟩) := by
  induction front with
  | nil => exact usable
  | cons inner rest inductionHypothesis =>
    rw [List.forall_mem_cons] at leadsOn
    exact inductionHypothesis leadsOn.2
      (Tree.usable_of_join leadsOn.1 (below_ne_nil out leads leadsOn.2) usable)

theorem hasAt_below (leads : Path.leadsDown name = true)
    (leadsOn : ∀ inner ∈ front, Path.leadsDown inner = true)
    (present : tree.hasAt (below out (front ++ [name])) = true) :
    tree.hasAt (out.join ⟨name⟩) = true := by
  induction front with
  | nil => exact present
  | cons inner rest inductionHypothesis =>
    rw [List.forall_mem_cons] at leadsOn
    exact inductionHypothesis leadsOn.2
      (Tree.hasAt_of_join leadsOn.1 (below_ne_nil out leads leadsOn.2) present)

theorem hasAt_of_holds (leads : Path.leadsDown name = true) (within : Within name plan)
    (notEmpty : plan ≠ []) (holds : ∀ file ∈ plan, file.Holds tree out) :
    tree.hasAt (out.join ⟨name⟩) = true := by
  obtain ⟨file, others, rfl⟩ := List.exists_cons_of_ne_nil notEmpty
  obtain ⟨text, -, isRead⟩ := holds file List.mem_cons_self
  obtain ⟨front, isPlace, leadsOn⟩ := within file List.mem_cons_self
  rw [Planned.path, isPlace] at isRead
  exact hasAt_below leads leadsOn (Tree.hasAt_of_readBytes isRead)

/-- Files written below a name under which nothing was found replace none. -/
theorem keepsFiles_of_emitted (walked : before.walk [] out.steps = .ok top)
    (leads : Path.leadsDown name = true) (short : name.length ≤ longestName)
    (absent : before.hasAt (out.join ⟨name⟩) = false) (within : Within name plan)
    (emitted : Emitted out plan before behind) : Tree.KeepsFiles before behind := by
  intro place content stands
  have others : ∀ file ∈ plan, behind.locate (file.path out) ≠ .ok place := by
    intro file member located
    obtain ⟨front, isPlace, leadsOn⟩ := within file member
    rw [Planned.path, isPlace] at located
    obtain ⟨usable, alsoWalked⟩ := Tree.locate_eq_ok_iff.mp located
    have leadsAll : ∀ inner ∈ front ++ [name], Path.leadsDown inner = true :=
      List.forall_mem_append.mpr ⟨leadsOn, List.forall_mem_singleton.mpr leads⟩
    obtain ⟨alsoTop, isTop, rfl⟩ := walk_below leadsAll alsoWalked
    rw [emitted.keepsDirectories.walk walked] at isTop
    cases isTop
    have free := Tree.get?_eq_none_of_absent walked leads short
      (usable_below leads leadsOn usable) absent
    have nothing := Tree.get?_append_eq_none front free
    rw [List.append_assoc, List.singleton_append, nothing] at stands
    cases stands
  exact (emitted.isKeptAt others).get?_eq stands

/-- Neither a file nor a directory vanishes or changes. -/
structure Keeps (before behind : Tree) : Prop where
  files : Tree.KeepsFiles before behind
  directories : Tree.KeepsDirectories before behind

namespace Keeps

theorem of_grows (grows : Tree.Grows before behind) : Keeps before behind :=
  ⟨grows.keepsFiles, grows.keepsDirectories⟩

theorem trans (first : Keeps before between) (second : Keeps between behind) :
    Keeps before behind :=
  ⟨first.files.trans second.files, first.directories.trans second.directories⟩

theorem hasAt (keeps : Keeps before behind) (present : before.hasAt path = true) :
    behind.hasAt path = true :=
  keeps.files.hasAt keeps.directories present

end Keeps

/-- A step that takes nothing away from a tree and replaces no file in it, wherever
the step ends. -/
def KeepsFrom (task : Task Unit) (world : World) : Prop :=
  Keeps world.tree (task.perform world).2.tree

theorem KeepsFrom.keeps (keepsFrom : KeepsFrom task world)
    (performed : task.perform world = (outcome, finished)) : Keeps world.tree finished.tree := by
  rwa [KeepsFrom, performed] at keepsFrom

theorem KeepsFrom.bind {first second : Task Unit} (one : KeepsFrom first world)
    (other : ∀ reached, first.perform world = (.ok (), reached) → KeepsFrom second reached) :
    KeepsFrom (first >>= fun _ => second) world := by
  rw [KeepsFrom] at one ⊢
  rw [Task.perform_bind]
  rcases performed : first.perform world with ⟨fault | ⟨⟩, reached⟩
  · rwa [performed] at one
  · rw [performed] at one
    exact one.trans (other reached performed)

theorem keepsFrom_tell {notice : Notice} : KeepsFrom (Task.tell notice) world :=
  .of_grows (.refl _)

/-- A step that writes below a name under which nothing is found replaces no
file. -/
theorem keepsFrom_of_emits (walked : world.tree.walk [] out.steps = .ok top)
    (leads : Path.leadsDown name = true) (short : name.length ≤ longestName)
    (absent : world.tree.hasAt (out.join ⟨name⟩) = false) (within : Within name plan)
    (emits : Emits out task plan) : KeepsFrom task world := by
  rw [KeepsFrom]
  rcases performed : task.perform world with ⟨fault | ⟨⟩, finished⟩
  · obtain ⟨written, file, rest, between, rfl, emitted, grows⟩ := emits.stopped performed
    have withinWritten : Within name written :=
      fun file member => within file (List.mem_append_left _ member)
    have first : Keeps world.tree between :=
      ⟨keepsFiles_of_emitted walked leads short absent withinWritten emitted,
        emitted.keepsDirectories⟩
    exact first.trans (.of_grows grows)
  · have emitted := emits.emitted performed
    exact ⟨keepsFiles_of_emitted walked leads short absent within emitted,
      emitted.keepsDirectories⟩

/-! ### The files of a project -/

theorem leadsDown_sample : Path.leadsDown sampleName = true := by
  decide

theorem leadsDown_templates : Path.leadsDown templatesName = true := by
  decide

theorem leadsDown_planned : ∀ file ∈ planned, ∀ name ∈ file.place, Path.leadsDown name = true := by
  decide

theorem apart_planned (tree : Tree) (directory : Path) :
    planned.Pairwise (Planned.Apart tree directory) :=
  apart_of_nodup tree directory (fun file member _ => leadsDown_planned file member) (by decide)

theorem within_templates : Within templatesName plannedTemplates := by
  intro file member
  have leads := leadsDown_planned file (List.mem_cons_of_mem _ member)
  obtain ⟨template, -, rfl⟩ := List.mem_map.mp member
  exact ⟨_, rfl, fun inner inside => leads inner (List.mem_append_left _ inside)⟩

theorem within_sample : Within sampleName [plannedSample] :=
  List.forall_mem_singleton.mpr ⟨[], rfl, List.forall_mem_nil _⟩

/-- A template is written where its name leads from the directory of templates. -/
theorem path_plannedTemplate (directory : Path) :
    ∀ template ∈ Template.Embedded.all,
      (plannedTemplate template).path directory = (templatesPath directory).child template.1 := by
  have inLibrary (file : String) (leads : Path.leadsDown (.ofText file) = true) :
      below directory [.ofText file, .ofText "lib", templatesName] =
        (templatesPath directory).join ⟨Name.ofText "lib" ++ Path.slash :: Name.ofText file⟩ :=
    Path.join_join _ (by decide) leads
  simp only [Template.Embedded.all, List.forall_mem_cons]
  refine ⟨rfl, rfl, rfl, ?_, ?_, List.forall_mem_nil _⟩
  · exact inLibrary "icon-base.tsx.tera" (by decide)
  · exact inLibrary "types.ts.tera" (by decide)

theorem files_eq (directory : Path) :
    files directory = (samplePath directory, sample) :: Template.Embedded.all.map fun template =>
      ((plannedTemplate template).path directory, template.2) := by
  unfold files
  congr 1
  refine List.map_congr_left fun template member => ?_
  rw [path_plannedTemplate directory template member]

theorem readBytes_of_holds (holds : ∀ file ∈ planned, file.Holds tree directory) :
    ∀ file ∈ files directory, tree.readBytes file.1 = .ok file.2.toUTF8 := by
  have isRead {place : Place} {text : String}
      (held : Planned.Holds tree directory ⟨place, .ok text⟩) :
      tree.readBytes (below directory place) = .ok text.toUTF8 := by
    obtain ⟨written, came, isRead⟩ := held
    cases came
    exact isRead
  obtain ⟨sampleHolds, templatesHold⟩ := List.forall_mem_cons.mp holds
  rw [files_eq, List.forall_mem_cons, List.forall_mem_map]
  exact ⟨isRead sampleHolds,
    fun template member => isRead (templatesHold _ (List.mem_map_of_mem member))⟩

/-! ### Steps that write them -/

theorem perform_writeUnlessKept (path : Path) (force : Bool) (task : Task Unit) (world : World) :
    (writeUnlessKept path force task).perform world =
      if (world.tree.hasAt path && !force) = true then (Task.tell (.kept path)).perform world
      else (task >>= fun _ => Task.tell (.written path)).perform world := by
  unfold writeUnlessKept
  rw [Task.perform_bind, Task.perform_tree]
  simp only
  split <;> rfl

theorem emits_change (action : Action) (place : Place) (text : String) :
    Emits out (Task.change action fun tree => tree.writeText (below out place) text)
      [⟨place, .ok text⟩] where
  emitted := by
    intro world finished performed
    rw [Task.perform_change] at performed
    cases isWritten : world.tree.writeText (below out place) text with
    | error error =>
      rw [isWritten] at performed
      cases performed
    | ok behind =>
      rw [isWritten] at performed
      cases performed
      obtain ⟨there, saves⟩ := Tree.saves_of_write isWritten
      exact .cons saves (.nil _)
  stopped := by
    intro world finished fault failed
    rw [Task.perform_change] at failed
    cases isWritten : world.tree.writeText (below out place) text with
    | error error =>
      rw [isWritten] at failed
      cases failed
      exact ⟨[], _, [], _, rfl, .nil _, .refl _⟩
    | ok behind =>
      rw [isWritten] at failed
      cases failed

theorem emits_writeSample (directory : Path) :
    Emits directory (writeSample (samplePath directory)) [plannedSample] :=
  emits_change (.writeSample (samplePath directory)) [sampleName] sample

theorem emits_writeTemplate (directory : Path) {template : String × String}
    (member : template ∈ Template.Embedded.all) :
    Emits directory (writeTemplate (templatesPath directory) template)
      [plannedTemplate template] := by
  unfold writeTemplate
  simp only
  rw [← path_plannedTemplate directory template member]
  have written : Emits directory _ _ := emits_change
    (.writeTemplate ((plannedTemplate template).path directory)) (plannedTemplate template).place
    template.2
  split
  · exact written
  · next parent isParent =>
    exact written.behind_directories fun world =>
      (Task.makePath_growsAlong none parent world).grows

theorem emits_writeTemplates (directory : Path) :
    Emits directory (writeTemplates (templatesPath directory)) plannedTemplates :=
  emits_forM fun _ member => emits_writeTemplate directory member

theorem emits_writeUnlessKept (emits : Emits out task plan) (path : Path) :
    Emits out (writeUnlessKept path true task) plan := by
  have performs (world : World) := perform_writeUnlessKept path true task world
  simp only [Bool.not_true, Bool.and_false, Bool.false_eq_true, if_false] at performs
  have told : Emits out (Task.tell (.written path)) [] := emits_tell
  have written := emits.bind told
  rw [List.append_nil] at written
  exact ⟨fun performed => written.emitted (performs _ ▸ performed),
    fun failed => written.stopped (performs _ ▸ failed)⟩

theorem makeDirectory_grows (directory : Path) (world : World) :
    Tree.Grows world.tree ((makeDirectory directory).perform world).2.tree := by
  unfold makeDirectory
  rw [Task.perform_bind, Task.perform_tree]
  simp only
  split
  · exact .refl _
  · exact (Task.makePath_growsAlong _ directory world).grows

/-- Replacing what is there, all files are written one after another. -/
theorem emits_write (directory : Path) : Emits directory (write directory true) planned := by
  have sampleStep := emits_writeUnlessKept (emits_writeSample directory) (samplePath directory)
  have templatesStep :=
    emits_writeUnlessKept (emits_writeTemplates directory) (templatesPath directory)
  have told : Emits directory (Task.tell .scaffolded) [] := emits_tell
  have steps := sampleStep.bind (templatesStep.bind told)
  rw [List.append_nil] at steps
  exact Emits.behind_directories (makeDirectory_grows directory) steps

/-! ### What is there -/

/-- Whether files can be put into a directory: it is there, or its path is empty. -/
def IsThere (tree : Tree) (directory : Path) : Prop :=
  directory.bytes = [] ∨ tree.hasAt directory = true

theorem Keeps.isThere (keeps : Keeps before behind) (isThere : IsThere before directory) :
    IsThere behind directory :=
  isThere.imp_right keeps.hasAt

theorem IsThere.walk (isThere : IsThere tree directory) :
    ∃ top, tree.walk [] directory.steps = .ok top := by
  rcases isThere with isEmpty | present
  · obtain ⟨bytes⟩ := directory
    cases isEmpty
    exact ⟨[], rfl⟩
  · obtain ⟨place, item, found⟩ := Tree.hasAt_iff.mp present
    exact ⟨place, (Tree.locate_eq_ok_iff.mp (Tree.lookUp_eq_ok_iff.mp found).1).2⟩

theorem isThere_of_makeDirectory
    (performed : (makeDirectory directory).perform world = (.ok (), finished)) :
    IsThere finished.tree directory := by
  by_cases isEmpty : directory.bytes = []
  · exact Or.inl isEmpty
  · refine Or.inr ?_
    unfold makeDirectory at performed
    rw [Task.perform_bind, Task.perform_tree] at performed
    simp only at performed
    split at performed
    · next present =>
      cases performed
      exact present
    · unfold Task.makePath at performed
      rw [Task.perform_bind, Task.perform_tree] at performed
      simp only at performed
      rcases made : world.tree.makePath directory with ⟨behind, error⟩
      rw [made] at performed
      cases error with
      | none =>
        cases performed
        exact Tree.hasAt_of_makePath isEmpty made
      | some error => cases performed

theorem gives_makeDirectory (isThere : IsThere tree directory) :
    (makeDirectory directory).Gives tree (.ok ()) := by
  unfold makeDirectory
  refine Task.gives_tree.bind_ok ?_
  split
  · exact Task.gives_pure
  · next absent =>
    rcases isThere with isEmpty | present
    · obtain ⟨bytes⟩ := directory
      cases isEmpty
      exact Task.gives_of_perform fun _ => rfl
    · exact absurd present absent

theorem gives_writeUnlessKept (present : tree.hasAt path = true) :
    (writeUnlessKept path false task).Gives tree (.ok ()) := by
  unfold writeUnlessKept
  refine Task.gives_tree.bind_ok ?_
  rw [present]
  exact Task.gives_tell

/-- Where everything is there, nothing is written. -/
theorem gives_write (isThere : IsThere tree directory)
    (hasSample : tree.hasAt (samplePath directory) = true)
    (hasTemplates : tree.hasAt (templatesPath directory) = true) :
    (write directory false).Gives tree (.ok ()) :=
  (gives_makeDirectory isThere).bind_ok ((gives_writeUnlessKept hasSample).bind_ok
    ((gives_writeUnlessKept hasTemplates).bind_ok Task.gives_tell))

/-! ### Steps that keep what is there -/

theorem keepsFrom_writeUnlessKept (isThere : IsThere world.tree out)
    (leads : Path.leadsDown name = true) (short : name.length ≤ longestName)
    (within : Within name plan) (emits : Emits out task plan) :
    KeepsFrom (writeUnlessKept (out.join ⟨name⟩) false task) world := by
  rw [KeepsFrom, perform_writeUnlessKept]
  split
  · exact keepsFrom_tell
  · next absent =>
    rw [Bool.not_false, Bool.and_true, Bool.not_eq_true] at absent
    obtain ⟨top, walked⟩ := isThere.walk
    exact (keepsFrom_of_emits walked leads short absent within emits).bind
      fun _ _ => keepsFrom_tell

theorem keepsFrom_makeDirectory : KeepsFrom (makeDirectory directory) world :=
  .of_grows (makeDirectory_grows directory world)

theorem keepsFrom_writeSample (isThere : IsThere world.tree directory) :
    KeepsFrom (writeUnlessKept (samplePath directory) false (writeSample (samplePath directory)))
      world :=
  keepsFrom_writeUnlessKept isThere leadsDown_sample (by decide) within_sample
    (emits_writeSample directory)

theorem keepsFrom_writeTemplates (isThere : IsThere world.tree directory) :
    KeepsFrom (writeUnlessKept (templatesPath directory) false
      (writeTemplates (templatesPath directory))) world :=
  keepsFrom_writeUnlessKept isThere leadsDown_templates (by decide) within_templates
    (emits_writeTemplates directory)

/-- What is there is kept wherever the steps end. -/
theorem keepsFrom_write : KeepsFrom (write directory false) world := by
  refine keepsFrom_makeDirectory.bind fun made isMade => ?_
  have isThere := isThere_of_makeDirectory isMade
  refine (keepsFrom_writeSample isThere).bind fun sampled isSampled => ?_
  have stillThere := ((keepsFrom_writeSample isThere).keeps isSampled).isThere isThere
  exact (keepsFrom_writeTemplates stillThere).bind fun _ _ => keepsFrom_tell

/-! ### Once more -/

theorem hasAt_of_writeUnlessKept (leads : Path.leadsDown name = true)
    (within : Within name plan) (notEmpty : plan ≠ [])
    (apart : ∀ tree : Tree, plan.Pairwise (Planned.Apart tree out)) (emits : Emits out task plan)
    (performed :
      (writeUnlessKept (out.join ⟨name⟩) force task).perform world = (.ok (), finished)) :
    finished.tree.hasAt (out.join ⟨name⟩) = true := by
  rw [perform_writeUnlessKept] at performed
  split at performed
  · next kept =>
    cases performed
    exact (Bool.and_eq_true_iff.mp kept).1
  · obtain ⟨_, between, written, told⟩ := Task.perform_bind_eq_ok performed
    rw [Task.tree_of_tell told]
    exact hasAt_of_holds leads within notEmpty ((emits.emitted written).holds (apart _))

theorem hasAt_templates_of_write
    (performed : (write directory force).perform world = (.ok (), finished)) :
    finished.tree.hasAt (templatesPath directory) = true := by
  obtain ⟨_, made, -, performed⟩ := Task.perform_bind_eq_ok performed
  obtain ⟨_, sampled, -, performed⟩ := Task.perform_bind_eq_ok performed
  obtain ⟨_, templated, isTemplated, told⟩ := Task.perform_bind_eq_ok performed
  rw [Task.tree_of_tell told]
  exact hasAt_of_writeUnlessKept leadsDown_templates within_templates (by decide)
    (fun tree => (apart_planned tree directory).tail) (emits_writeTemplates directory) isTemplated

/-- Behind steps that have kept what was there, everything is there. -/
theorem gives_write_of_kept
    (performed : (write directory false).perform world = (.ok (), finished)) :
    (write directory false).Gives finished.tree (.ok ()) := by
  have hasTemplates := hasAt_templates_of_write performed
  obtain ⟨_, made, isMade, performed⟩ := Task.perform_bind_eq_ok performed
  obtain ⟨_, sampled, isSampled, performed⟩ := Task.perform_bind_eq_ok performed
  obtain ⟨_, templated, isTemplated, told⟩ := Task.perform_bind_eq_ok performed
  have isThere := isThere_of_makeDirectory isMade
  have toSampled := (keepsFrom_writeSample isThere).keeps isSampled
  have thereStill := toSampled.isThere isThere
  have toTemplated := (keepsFrom_writeTemplates thereStill).keeps isTemplated
  have hasSample := hasAt_of_writeUnlessKept leadsDown_sample within_sample (by decide)
    (fun _ => List.pairwise_singleton _ _) (emits_writeSample directory) isSampled
  rw [Task.tree_of_tell told] at hasTemplates ⊢
  exact gives_write (toTemplated.isThere thereStill) (toTemplated.hasAt hasSample) hasTemplates

/-- Behind steps that have written all files, everything is there. -/
theorem gives_write_of_replaced
    (performed : (write directory true).perform world = (.ok (), finished)) :
    (write directory false).Gives finished.tree (.ok ()) := by
  have emitted := (emits_write directory).emitted performed
  have holds := List.forall_mem_cons.mp (emitted.holds (apart_planned finished.tree directory))
  have hasSample : finished.tree.hasAt (samplePath directory) = true :=
    hasAt_of_holds leadsDown_sample within_sample (by decide)
      (List.forall_mem_singleton.mpr holds.1)
  have hasTemplates := hasAt_templates_of_write performed
  have isThere : IsThere finished.tree directory :=
    or_iff_not_imp_left.mpr fun notEmpty => Tree.hasAt_of_join leadsDown_sample notEmpty hasSample
  exact gives_write isThere hasSample hasTemplates

/-- Without replacing, the first files of a project leave every file as it is,
wherever the steps end, and once they have succeeded they change nothing when taken
again. Replacing, they leave everything as it is but their own files, which hold
their texts once the steps have succeeded. -/
theorem write_leaves (directory : Path) (world : World) :
    (∃ outcome finished, (write directory false).perform world = (outcome, finished) ∧
      Tree.KeepsFiles world.tree finished.tree ∧
      (outcome = .ok () → (write directory false).Gives finished.tree (.ok ()))) ∧
    ∃ outcome finished, (write directory true).perform world = (outcome, finished) ∧
      (∀ place, (∀ file ∈ files directory, finished.tree.locate file.1 ≠ .ok place) →
        Tree.IsKeptAt world.tree finished.tree place) ∧
      (outcome = .ok () →
        (∀ file ∈ files directory, finished.tree.readBytes file.1 = .ok file.2.toUTF8) ∧
          (write directory false).Gives finished.tree (.ok ())) := by
  constructor
  · rcases performed : (write directory false).perform world with ⟨outcome, finished⟩
    refine ⟨outcome, finished, rfl, (keepsFrom_write.keeps performed).files, ?_⟩
    rintro rfl
    exact gives_write_of_kept performed
  · obtain ⟨outcome, finished, written, rest, performed, parts, complete, upTo⟩ :=
      (emits_write directory).writtenUpTo (fun tree => apart_planned tree directory) world
    refine ⟨outcome, finished, performed, fun place others => upTo.elsewhere place ?_, ?_⟩
    · intro file isWritten
      have isPlanned : file ∈ planned := parts ▸ List.mem_append_left rest isWritten
      rw [files_eq, List.forall_mem_cons, List.forall_mem_map] at others
      rcases List.mem_cons.mp isPlanned with rfl | isTemplate
      · exact others.1
      · obtain ⟨template, member, rfl⟩ := List.mem_map.mp isTemplate
        exact others.2 template member
    · rintro rfl
      have allWritten : planned = written := by rw [parts, complete.mp rfl, List.append_nil]
      exact ⟨readBytes_of_holds (allWritten ▸ upTo.holds), gives_write_of_replaced performed⟩

/-- A project with a configuration of its own, and with a directory of templates in
which there is a file of its own. -/
def startedTree : Tree :=
  let withNotes := (Tree.empty.makePath (.ofText "templates")).1
  let noted := (withNotes.writeText (.ofText "templates/notes.txt") "mine").toOption.getD withNotes
  (noted.writeText (.ofText "zappgen.yaml") "out_dir: mine\n").toOption.getD noted

theorem write_leaves_started :
    (∃ finished, (write (.ofText ".") false).perform (.ofTree startedTree) = (.ok (), finished) ∧
      finished.tree.get? [.ofText "zappgen.yaml"] = some (.file "out_dir: mine\n".toUTF8) ∧
      (write (.ofText ".") false).Gives finished.tree (.ok ())) ∧
    ∃ finished, (write (.ofText ".") true).perform (.ofTree startedTree) = (.ok (), finished) ∧
      finished.tree.get? [.ofText "notes.txt", .ofText "templates"] = some (.file "mine".toUTF8) ∧
      finished.tree.readBytes (samplePath (.ofText ".")) = .ok sample.toUTF8 := by
  have succeeds : ((write (.ofText ".") false).perform (.ofTree startedTree)).1 = .ok () ∧
      ((write (.ofText ".") true).perform (.ofTree startedTree)).1 = .ok () := by
    decide +kernel
  obtain ⟨⟨outcome, finished, performed, keeps, again⟩,
    forcedOutcome, replaced, forced, elsewhere, holds⟩ :=
    write_leaves (.ofText ".") (.ofTree startedTree)
  rw [performed, forced] at succeeds
  obtain ⟨rfl, rfl⟩ := succeeds
  have notesElsewhere : ∀ file ∈ files (.ofText "."),
      file.1.destination ≠ [.ofText "notes.txt", .ofText "templates"] := by
    decide
  refine ⟨⟨finished, performed, keeps _ _ ?_, again rfl⟩,
    replaced, forced, (elsewhere _ ?_).get?_eq ?_, (holds rfl).1 _ List.mem_cons_self⟩
  · rfl
  · exact fun file member located => notesElsewhere file member (Tree.destination_of_locate located)
  · rfl

end IconForge.Scaffold
