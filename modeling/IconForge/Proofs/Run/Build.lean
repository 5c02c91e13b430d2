import IconForge.Proofs.Gather.Outcome
import IconForge.Proofs.Module.RoundTrip
import IconForge.Proofs.Output.Loading
import IconForge.Proofs.Output.Rendering
import IconForge.Run

/-!
Contract: building as gathering and generating, whatever the module is for.

Owns:
- reading back the module that has been written;
- a build that does not read the module, and that it is the same;
- when a build succeeds, and what the output directory holds behind it.

Main statements: `build_eq_buildDirectly`, `build_succeeds`, `build_output`.

Does not own: what the output's files say.
-/

namespace IconForge.Run

open IconForge.Files
open IconForge.Template

variable {launcher : Launcher} {settings : Settings} {world finished : World} {tree : Tree}
  {collection : Collection}

/-! ### The module read back -/

/-- A collection is read back from the module that its source was saved to. -/
theorem readModule_of_save {action : Action} {path : Path}
    (saved : (Task.save action path (Module.source collection)).perform world =
      (.ok (), finished)) :
    readModule finished.tree path = .ok collection := by
  obtain ⟨place, saves⟩ := Task.saves_of_save saved
  have isRead := Tree.readText_of_readBytes saves.readBytes_eq
  have parsed : Module.parse (Module.source collection) = .ok collection := by
    have exported := Module.exported?_source collection
    have term := Json5.parse?_of_reads (Module.reads_listSource collection)
    have decoded := Module.termList_list Module.termIcon_iconTerm collection
    unfold Module.parse Module.termCollection
    simp only [exported, term, decoded]
  unfold readModule during
  simp only [isRead, parsed, bind, Except.bind]

/-! ### Builds that do not read the module -/

section

variable [Engine]

/-- A build that gives the collection itself to what generates files. The module
is written and not read. -/
def buildDirectly (settings : Settings) : Task Unit := do
  Task.tell .refreshSkipped
  let collection ← Gather.gather settings.iconsDir
  Task.save (.writeModule settings.module) settings.module (Module.source collection)
  Task.tell (.converted collection.length settings.module)
  Task.tell (.moduleRead settings.module collection.length)
  Output.generate Library.embedded settings.outDir collection
  Task.tell (.generated settings.outDir)

/-- Generating from a module that yields a collection is generating from the
collection. -/
theorem perform_emit (noTemplates : settings.templatesDir = none)
    (accepted : Engine.add [] Embedded.all = .ok ())
    (isRead : readModule world.tree settings.module = .ok collection) :
    (emit settings).perform world = (do
      Task.tell (.moduleRead settings.module collection.length)
      Output.generate Library.embedded settings.outDir collection
      Task.tell (.generated settings.outDir) : Task Unit).perform world := by
  unfold emit
  have isLoaded : Output.loaded world.tree none = .ok Library.embedded :=
    Output.loaded_none_eq_ok_iff.mpr ⟨accepted, rfl⟩
  rw [noTemplates, Task.perform_bind, Output.perform_library_none, isLoaded]
  simp only
  rw [Task.perform_bind, Task.perform_tree]
  simp only
  rw [Task.perform_bind, Task.perform_ofExcept, isRead]

/-- Reading the module is no more than a way to pass on the collection. -/
theorem build_eq_buildDirectly (noRefresh : settings.refresh = none)
    (noTemplates : settings.templatesDir = none)
    (accepted : Engine.add [] Embedded.all = .ok ()) (world : World) :
    (build launcher settings).perform world = (buildDirectly settings).perform world := by
  unfold build convert buildDirectly
  rw [noRefresh, show Refresh.runIfAny launcher none = Task.tell .refreshSkipped from rfl,
    Task.perform_bind, Task.perform_bind]
  simp only [Task.perform_tell, bind_assoc]
  generalize (⟨world.tree, world.notices ++ [.refreshSkipped]⟩ : World) = world
  rw [Task.perform_bind, Task.perform_bind]
  rcases (Gather.gather settings.iconsDir).perform world with ⟨fault | collection, between⟩
  · rfl
  · simp only
    rw [Task.perform_bind, Task.perform_bind]
    rcases saved : (Task.save (.writeModule settings.module) settings.module
      (Module.source collection)).perform between with ⟨fault | ⟨⟩, behind⟩
    · rfl
    · simp only
      rw [Task.perform_bind, Task.perform_bind, Task.perform_tell]
      have isRead := readModule_of_save saved
      exact perform_emit noTemplates accepted isRead

/-- A build that succeeds has taken up the templates that come with the program. -/
theorem accepted_of_build (noTemplates : settings.templatesDir = none)
    (succeeds : (build launcher settings).perform world = (.ok (), finished)) :
    Engine.add [] Embedded.all = .ok () := by
  obtain ⟨_, refreshed, -, performed⟩ := Task.perform_bind_eq_ok succeeds
  obtain ⟨_, converted, -, performed⟩ := Task.perform_bind_eq_ok performed
  obtain ⟨library, loaded, isLoaded, -⟩ := Task.perform_bind_eq_ok performed
  rw [noTemplates, Output.perform_library_none] at isLoaded
  exact (Output.loaded_none_eq_ok_iff.mp (Prod.ext_iff.mp isLoaded).1).1

/-! ### Builds that succeed -/

/-- A build succeeds if there is a collection to be gathered, and every file has a text and
can be written without making directories. -/
theorem build_succeeds (noRefresh : settings.refresh = none)
    (noTemplates : settings.templatesDir = none)
    (accepted : Engine.add [] Embedded.all = .ok ())
    (gives : (Gather.gather settings.iconsDir).Gives world.tree (.ok collection))
    (moduleReady : world.tree.isReady settings.module = true)
    (outputReady : ∀ file ∈ Output.plan Library.embedded collection,
      world.tree.isReady (file.path settings.outDir) = true)
    (textsCome : ∀ file ∈ Output.plan Library.embedded collection,
      ∃ text, file.text = .ok text) :
    ∃ finished, (build launcher settings).perform world = (.ok (), finished) := by
  rw [build_eq_buildDirectly noRefresh noTemplates accepted]
  obtain ⟨told, gathers⟩ := gives
  have rest : (do
      Task.save (.writeModule settings.module) settings.module (Module.source collection)
      Task.tell (.converted collection.length settings.module)
      Task.tell (.moduleRead settings.module collection.length)
      Output.generate Library.embedded settings.outDir collection
      Task.tell (.generated settings.outDir) : Task Unit).Works world.tree :=
    (Task.works_save _ _ moduleReady).bind (Task.works_tell.bind (Task.works_tell.bind
      ((Output.works_generate outputReady textsCome).bind
        Task.works_tell)))
  obtain ⟨finished, performed, -⟩ :=
    rest ⟨world.tree, world.notices ++ [.refreshSkipped] ++ told⟩ fun _ => rfl
  refine ⟨finished, ?_⟩
  unfold buildDirectly
  rw [Task.perform_bind, Task.perform_tell]
  simp only
  rw [Task.perform_bind, gathers]
  exact performed

end

/-! ### What a build leaves behind -/

/-- A build that succeeds leaves in the output directory what generating makes of
the collection that was there to be gathered, and has gone as if the module had
not been read. -/
theorem build_output [Engine] (noRefresh : settings.refresh = none)
    (noTemplates : settings.templatesDir = none)
    (succeeds : (build launcher settings).perform world = (.ok (), finished)) :
    ∃ collection,
      (Gather.gather settings.iconsDir).Gives world.tree (.ok collection) ∧
      Output.HoldsCollection finished.tree Library.embedded settings.outDir collection ∧
      (buildDirectly settings).perform world = (.ok (), finished) := by
  have accepted := accepted_of_build noTemplates succeeds
  rw [build_eq_buildDirectly noRefresh noTemplates accepted] at succeeds
  have performed := succeeds
  unfold buildDirectly at performed
  obtain ⟨_, first, skipped, performed⟩ := Task.perform_bind_eq_ok performed
  obtain ⟨collection, second, gathered, performed⟩ := Task.perform_bind_eq_ok performed
  obtain ⟨_, third, -, performed⟩ := Task.perform_bind_eq_ok performed
  obtain ⟨_, fourth, -, performed⟩ := Task.perform_bind_eq_ok performed
  obtain ⟨_, fifth, -, performed⟩ := Task.perform_bind_eq_ok performed
  obtain ⟨_, sixth, generated, performed⟩ := Task.perform_bind_eq_ok performed
  have gives := Gather.gives_gather first.tree settings.iconsDir
  rw [← gives.outcome_eq gathered, Task.tree_of_tell skipped] at gives
  have collected := Gather.isCollected_of_gives gives
  have holds := Output.holdsCollection_of_generate collected.distinctNames
    (fun _ => collected.named) generated
  rw [← Task.tree_of_tell performed] at holds
  exact ⟨collection, gives, holds, succeeds⟩

/-- A tree with a drawing of one icon, and directories for output. -/
def sampleTree : Tree :=
  let directories := ["icons/regular", "out/lib", "out/variants", "out/icons"].foldl
    (fun tree path => (tree.makePath (.ofText path)).1) Tree.empty
  let drawn :=
    directories.writeText (.ofText "icons/regular/dot.svg") "<svg><path d=\"M0 0\"/></svg>"
  drawn.toOption.getD directories

def sampleSettings : Settings where
  iconsDir := .ofText "icons"
  module := .ofText "icons.ts"
  outDir := .ofText "out"
  templatesDir := none
  refresh := none

theorem build_output_sample :
    ∃ finished collection,
      (build .basic sampleSettings).perform (.ofTree sampleTree) = (.ok (), finished) ∧
      collection.map Icon.name = ["dot"] ∧
      (Gather.gather sampleSettings.iconsDir).Gives sampleTree (.ok collection) ∧
      Output.HoldsCollection finished.tree Library.embedded sampleSettings.outDir collection := by
  have gathers := Gather.gives_gather sampleTree sampleSettings.iconsDir
  rw [if_pos (by decide +kernel)] at gathers
  have ready : (match Gather.gathered sampleTree sampleSettings.iconsDir with
      | .ok collection => collection.map Icon.name == ["dot"] &&
        (Output.plan Library.embedded collection).all fun file =>
          sampleTree.isReady (file.path sampleSettings.outDir)
      | .error _ => false) = true := by decide +kernel
  cases isGathered : Gather.gathered sampleTree sampleSettings.iconsDir with
  | error fault =>
    rw [isGathered] at ready
    cases ready
  | ok collection =>
    rw [isGathered] at ready gathers
    simp only [Bool.and_eq_true, beq_iff_eq, List.all_eq_true] at ready
    have moduleReady : sampleTree.isReady sampleSettings.module = true := by decide +kernel
    obtain ⟨finished, succeeds⟩ : ∃ finished,
        (build .basic sampleSettings).perform (.ofTree sampleTree) = (.ok (), finished) :=
      build_succeeds rfl rfl (Output.accept_missing []) gathers moduleReady ready.2
        (Output.exists_text_of_embedded collection)
    obtain ⟨found, gives, holds, -⟩ := build_output rfl rfl succeeds
    cases gathers.unique gives
    exact ⟨finished, collection, succeeds, ready.1, gives, holds⟩

end IconForge.Run
