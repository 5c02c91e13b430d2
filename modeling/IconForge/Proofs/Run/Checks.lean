import IconForge.Proofs.Run.Convert

/-!
Contract: what has to succeed before anything is generated.

Owns:
- why bringing the drawings up to date fails;
- what a tree lacks from which nothing can be generated;
- that a run which fails at one of these has written no file, but for the
  module where building has come to write it.

Main statement: `generated_behind_checks`.

Does not own: what generating writes.
-/

namespace IconForge.Refresh

open IconForge.Files

/-- Why bringing the drawings up to date fails, if there is a command for it. -/
inductive Fails (launcher : Launcher) : Option (List String) → Fault → Prop
  | empty : Fails launcher (some []) (.refused .emptyCommand)
  | notLaunched {program : String} {arguments : List String} {error : LaunchError}
      (unlaunched : launcher program arguments = .error error) :
      Fails launcher (some (program :: arguments))
        (.failed (some (.launchCommand (lineOf (program :: arguments)))) (.launch error))
  | badStatus {program : String} {arguments : List String} {status : Nat}
      (exited : launcher program arguments = .ok status) (bad : status ≠ 0) :
      Fails launcher (some (program :: arguments))
        (.refused (.failedCommand status (lineOf (program :: arguments))))

/-- The drawings are up to date: there is no command for it, or one that has been
launched and has left with status zero. -/
def Done (launcher : Launcher) (command : Option (List String)) : Prop :=
  ∀ words ∈ command, ∃ program arguments,
    words = program :: arguments ∧ launcher program arguments = .ok 0

variable {launcher : Launcher} {command : Option (List String)} {fault : Fault}

theorem gives_of_fails (fails : Fails launcher command fault) (tree : Tree) :
    (runIfAny launcher command).Gives tree (.error fault) := by
  cases fails with
  | empty => exact Task.gives_refuse
  | notLaunched unlaunched =>
    refine Task.gives_tell.bind_ok (Task.Gives.bind_error ?_)
    rw [unlaunched]
    exact Task.gives_ofExcept
  | @badStatus program arguments status exited bad =>
    have launched : (Task.ofExcept (during (.launchCommand (lineOf (program :: arguments)))
        .launch (launcher program arguments))).Gives tree (.ok status) := by
      rw [exited]
      exact Task.gives_ofExcept
    refine Task.gives_tell.bind_ok (launched.bind_ok ?_)
    rw [if_neg bad]
    exact Task.gives_refuse

theorem gives_of_done (done : Done launcher command) (tree : Tree) :
    (runIfAny launcher command).Gives tree (.ok ()) := by
  cases command with
  | none => exact Task.gives_tell
  | some words =>
    obtain ⟨program, arguments, rfl, launched⟩ := done words rfl
    have exited : (Task.ofExcept (during (.launchCommand (lineOf (program :: arguments)))
        .launch (launcher program arguments))).Gives tree (.ok 0) := by
      rw [launched]
      exact Task.gives_ofExcept
    exact Task.gives_tell.bind_ok (exited.bind_ok Task.gives_tell)

/-- The drawings are brought up to date, or there is a reason why not. -/
theorem done_or_fails (launcher : Launcher) (command : Option (List String)) :
    Done launcher command ∨ ∃ fault, Fails launcher command fault := by
  cases command with
  | none => exact Or.inl nofun
  | some words =>
    cases words with
    | nil => exact Or.inr ⟨_, .empty⟩
    | cons program arguments =>
      cases launched : launcher program arguments with
      | error error => exact Or.inr ⟨_, .notLaunched launched⟩
      | ok status =>
        by_cases isZero : status = 0
        · subst isZero
          refine Or.inl fun words isWords => ?_
          cases isWords
          exact ⟨program, arguments, rfl, launched⟩
        · exact Or.inr ⟨_, .badStatus launched isZero⟩

theorem tree_of_runIfAny {world finished : World} {outcome : Except Fault Unit}
    (performed : (runIfAny launcher command).perform world = (outcome, finished)) :
    finished.tree = world.tree := by
  rcases done_or_fails launcher command with done | ⟨reason, fails⟩
  · exact (gives_of_done done world.tree).tree_eq performed
  · exact (gives_of_fails fails world.tree).tree_eq performed

theorem done_of_runIfAny {world finished : World}
    (performed : (runIfAny launcher command).perform world = (.ok (), finished)) :
    Done launcher command := by
  rcases done_or_fails launcher command with done | ⟨reason, fails⟩
  · exact done
  · cases (gives_of_fails fails world.tree).outcome_eq performed

end IconForge.Refresh

namespace IconForge.Run

open IconForge.Files
open IconForge.Template (Engine)

variable {launcher : Launcher} {settings : Settings} {world between finished : World}
  {tree : Tree} {path : Path} {fault : Fault} {outcome : Except Fault Unit}

/-! ### Building up to the module -/

/-- Building up to where the module has been written. -/
def buildModule (launcher : Launcher) (settings : Settings) : Task Unit := do
  Refresh.runIfAny launcher settings.refresh
  convert settings

theorem gives_buildModule_of_fails (fails : Refresh.Fails launcher settings.refresh fault)
    (tree : Tree) : (buildModule launcher settings).Gives tree (.error fault) :=
  (Refresh.gives_of_fails fails tree).bind_error

/-- Building up to the module that fails has changed no file. -/
theorem sameFiles_of_buildModule
    (failed : (buildModule launcher settings).perform world = (.error fault, finished)) :
    Tree.SameFiles world.tree finished.tree := by
  rcases Task.perform_bind_eq_error failed with stopped | ⟨_, refreshed, ran, stopped⟩
  · rw [Refresh.tree_of_runIfAny stopped]
    exact fun _ _ => Iff.rfl
  · rw [← Refresh.tree_of_runIfAny ran]
    exact (growsAlong_of_convert stopped).grows.sameFiles

/-- Building up to the module that succeeds has written the module of a collection and
changed no other file. -/
theorem saves_of_buildModule
    (performed : (buildModule launcher settings).perform world = (.ok (), finished)) :
    Refresh.Done launcher settings.refresh ∧
      ∃ collection place,
        Tree.Saves world.tree finished.tree settings.module (Module.source collection).toUTF8
          place := by
  obtain ⟨_, refreshed, ran, converted⟩ := Task.perform_bind_eq_ok performed
  obtain ⟨collection, place, -, saves, -⟩ := saves_of_convert converted
  rw [Refresh.tree_of_runIfAny ran] at saves
  exact ⟨Refresh.done_of_runIfAny ran, collection, place, saves⟩

/-! ### Trees from which files can be generated -/

theorem readModule_of_unread {error : Files.Error} (unread : tree.readText path = .error error) :
    readModule tree path = .error (.failed (some (.readModule path)) (.files error)) := by
  unfold readModule
  rw [unread]
  rfl

theorem readModule_of_read {source : String} (isRead : tree.readText path = .ok source) :
    readModule tree path = during (.parseModule path) .collection (Module.parse source) := by
  unfold readModule
  rw [isRead]
  rfl

section

variable [Engine]

/-- What is missing in a tree from which nothing can be generated: templates that
can be loaded, or a module that can be read. -/
inductive Unready (settings : Settings) (tree : Tree) : Prop
  | templates {fault : Fault}
      (unloaded : Output.loaded tree settings.templatesDir = .error fault)
  | noModule {error : Files.Error} (unread : tree.readBytes settings.module = .error error)
  | notText {content : ByteArray} (isRead : tree.readBytes settings.module = .ok content)
      (invalid : String.fromUTF8? content = none)
  | notModule {source : String} {error : Module.Error}
      (isRead : tree.readText settings.module = .ok source)
      (refused : Module.parse source = .error error)

theorem build_eq_bind (launcher : Launcher) (settings : Settings) :
    build launcher settings = buildModule launcher settings >>= fun _ => emit settings := by
  unfold build buildModule
  rw [bind_assoc]

/-- Nothing can be generated exactly if the templates cannot be loaded or the module
cannot be read. -/
theorem unready_iff :
    Unready settings tree ↔
      (∃ fault, Output.loaded tree settings.templatesDir = .error fault) ∨
        ∃ fault, readModule tree settings.module = .error fault := by
  constructor
  · intro unready
    cases unready with
    | templates unloaded => exact Or.inl ⟨_, unloaded⟩
    | @noModule error unread =>
      have noText : tree.readText settings.module = .error error := by
        unfold Tree.readText
        rw [unread]
        rfl
      exact Or.inr ⟨_, readModule_of_unread noText⟩
    | notText isRead invalid =>
      have noText : tree.readText settings.module = .error .notText := by
        unfold Tree.readText
        rw [isRead]
        simp only [bind, Except.bind, invalid]
      exact Or.inr ⟨_, readModule_of_unread noText⟩
    | @notModule source error isRead refused =>
      refine Or.inr ⟨.failed (some (.parseModule settings.module)) (.collection error), ?_⟩
      rw [readModule_of_read isRead, refused]
      rfl
  · rintro (⟨fault, unloaded⟩ | ⟨fault, unread⟩)
    · exact .templates unloaded
    cases isRead : tree.readBytes settings.module with
    | error error => exact .noModule isRead
    | ok content =>
      cases isText : String.fromUTF8? content with
      | none => exact .notText isRead isText
      | some source =>
        have isSource : tree.readText settings.module = .ok source := by
          unfold Tree.readText
          rw [isRead]
          simp only [bind, Except.bind, isText]
        cases parsed : Module.parse source with
        | error error => exact .notModule isSource parsed
        | ok collection =>
          rw [readModule_of_read isSource, parsed] at unread
          cases unread

/-- Generating from a tree that is not ready fails and leaves it as it is. -/
theorem gives_emit_of_unready (unready : Unready settings tree) :
    ∃ fault, (emit settings).Gives tree (.error fault) := by
  have loads := Output.gives_library settings.templatesDir tree
  cases isLoaded : Output.loaded tree settings.templatesDir with
  | error fault =>
    rw [isLoaded] at loads
    exact ⟨fault, loads.bind_error⟩
  | ok library =>
    rw [isLoaded] at loads
    rcases unready_iff.mp unready with ⟨fault, unloaded⟩ | ⟨fault, unread⟩
    · rw [isLoaded] at unloaded
      cases unloaded
    · refine ⟨fault, loads.bind_ok (Task.gives_tree.bind_ok (Task.Gives.bind_error ?_))⟩
      rw [unread]
      exact Task.gives_ofExcept

/-! ### Runs that stop at a check -/

theorem gives_build_of_fails (fails : Refresh.Fails launcher settings.refresh fault)
    (tree : Tree) : (build launcher settings).Gives tree (.error fault) := by
  rw [build_eq_bind]
  exact (gives_buildModule_of_fails fails tree).bind_error

theorem gives_generate_of_fails (fails : Refresh.Fails launcher settings.refresh fault)
    (tree : Tree) : (generate launcher settings).Gives tree (.error fault) :=
  (Refresh.gives_of_fails fails tree).bind_error

theorem gives_build_of_ungathered (done : Refresh.Done launcher settings.refresh)
    (ungathered : (Gather.gather settings.iconsDir).Gives tree (.error fault)) :
    (build launcher settings).Gives tree (.error fault) := by
  have converts : (convert settings).Gives tree (.error fault) := ungathered.bind_error
  exact (Refresh.gives_of_done done tree).bind_ok converts.bind_error

theorem gives_generate_of_unready (done : Refresh.Done launcher settings.refresh)
    (unready : Unready settings tree) :
    ∃ fault, (generate launcher settings).Gives tree (.error fault) := by
  obtain ⟨fault, emits⟩ := gives_emit_of_unready unready
  exact ⟨fault, (Refresh.gives_of_done done tree).bind_ok emits⟩

/-- A build fails if nothing can be generated behind its module, and leaves the files
as they are then. -/
theorem perform_build_of_unready
    (performed : (buildModule launcher settings).perform world = (.ok (), between))
    (unready : Unready settings between.tree) :
    ∃ fault finished, (build launcher settings).perform world = (.error fault, finished) ∧
      finished.tree = between.tree := by
  obtain ⟨fault, told, stops⟩ := gives_emit_of_unready unready
  refine ⟨fault, ⟨between.tree, between.notices ++ told⟩, ?_, rfl⟩
  rw [build_eq_bind, Task.perform_bind, performed]
  exact stops between.notices

theorem checked_of_generate
    (performed : (generate launcher settings).perform world = (outcome, finished))
    (changed : finished.tree ≠ world.tree) :
    Refresh.Done launcher settings.refresh ∧ ¬Unready settings world.tree := by
  rcases Refresh.done_or_fails launcher settings.refresh with done | ⟨reason, fails⟩
  · refine ⟨done, fun unready => ?_⟩
    obtain ⟨reported, stops⟩ := gives_generate_of_unready done unready
    exact changed (stops.tree_eq performed)
  · exact absurd ((gives_generate_of_fails fails world.tree).tree_eq performed) changed

theorem checked_of_build
    (performed : (build launcher settings).perform world = (outcome, finished))
    (changed : ¬Tree.SameFilesBut settings.module world.tree finished.tree) :
    Refresh.Done launcher settings.refresh ∧
      ∃ between, (buildModule launcher settings).perform world = (.ok (), between) ∧
        ¬Unready settings between.tree := by
  rcases written : (buildModule launcher settings).perform world with ⟨fault | ⟨⟩, between⟩
  · rw [build_eq_bind, Task.perform_bind, written] at performed
    cases performed
    exact absurd ((sameFiles_of_buildModule written).sameFilesBut settings.module) changed
  · obtain ⟨done, collection, place, saves⟩ := saves_of_buildModule written
    refine ⟨done, between, rfl, fun unready => changed ?_⟩
    obtain ⟨fault, behind, stopped, same⟩ := perform_build_of_unready written unready
    rw [stopped] at performed
    cases performed
    rw [same]
    exact saves.sameFilesBut

end

/-- Where bringing the drawings up to date fails, building and generating report this
and change nothing. Where the drawings cannot be gathered, building changes nothing.
Where the templates cannot be loaded or the module cannot be read, generating fails and
changes nothing, and building fails with nothing changed but the module that it has
written. So files are generated behind all of these checks only. Which templates can be
loaded is up to the engine. -/
theorem generated_behind_checks [Engine] (launcher : Launcher) (settings : Settings)
    (world : World) :
    (∀ fault, Refresh.Fails launcher settings.refresh fault →
      (build launcher settings).Gives world.tree (.error fault) ∧
        (generate launcher settings).Gives world.tree (.error fault)) ∧
    (∀ fault, (Gather.gather settings.iconsDir).Gives world.tree (.error fault) →
      ∃ reported, (build launcher settings).Gives world.tree (.error reported) ∧
        (Refresh.Done launcher settings.refresh → reported = fault)) ∧
    (Unready settings world.tree →
      ∃ reported, (generate launcher settings).Gives world.tree (.error reported)) ∧
    (∀ between, (buildModule launcher settings).perform world = (.ok (), between) →
      Unready settings between.tree →
        ∃ reported finished collection place,
          (build launcher settings).perform world = (.error reported, finished) ∧
            finished.tree = between.tree ∧
            Tree.Saves world.tree finished.tree settings.module
              (Module.source collection).toUTF8 place) ∧
    (∀ outcome finished, (generate launcher settings).perform world = (outcome, finished) →
      finished.tree ≠ world.tree →
        Refresh.Done launcher settings.refresh ∧ ¬Unready settings world.tree) ∧
    (∀ outcome finished, (build launcher settings).perform world = (outcome, finished) →
      ¬Tree.SameFilesBut settings.module world.tree finished.tree →
        Refresh.Done launcher settings.refresh ∧
          ∃ between, (buildModule launcher settings).perform world = (.ok (), between) ∧
            ¬Unready settings between.tree) := by
  have refreshed := Refresh.done_or_fails launcher settings.refresh
  refine ⟨fun fault fails => ?_, fun fault ungathered => ?_, fun unready => ?_,
    fun between written unready => ?_, fun outcome finished => checked_of_generate,
    fun outcome finished => checked_of_build⟩
  · exact ⟨gives_build_of_fails fails world.tree, gives_generate_of_fails fails world.tree⟩
  · rcases refreshed with done | ⟨reported, fails⟩
    · exact ⟨fault, gives_build_of_ungathered done ungathered, fun _ => rfl⟩
    · have stops := gives_build_of_fails fails world.tree
      refine ⟨reported, stops, fun done => ?_⟩
      cases stops.unique (gives_build_of_ungathered done ungathered)
      rfl
  · rcases refreshed with done | ⟨reported, fails⟩
    · exact gives_generate_of_unready done unready
    · exact ⟨reported, gives_generate_of_fails fails world.tree⟩
  · obtain ⟨reported, finished, performed, same⟩ := perform_build_of_unready written unready
    obtain ⟨-, collection, place, saves⟩ := saves_of_buildModule written
    exact ⟨reported, finished, collection, place, performed, same, same ▸ saves⟩

/-- The sample where bringing the drawings up to date fails. -/
def staleSettings : Settings :=
  { sampleSettings with refresh := some ["sh", "-c", "exit 3"] }

/-- The sample without a directory of drawings, and with templates that are not
there. -/
def emptySettings : Settings :=
  { sampleSettings with iconsDir := .ofText "drawings", templatesDir := some (.ofText "templates") }

/-- The sample with templates that are not there. -/
def plainSettings : Settings :=
  { sampleSettings with templatesDir := some (.ofText "templates") }

theorem generated_behind_checks_sample :
    (build .basic staleSettings).Gives sampleTree
        (.error (.refused (.failedCommand 3 "sh -c exit 3"))) ∧
      (build .basic emptySettings).Gives sampleTree
        (.error (.refused (.noIconsDirectory (.ofText "drawings")))) ∧
      (∃ fault, (generate .basic sampleSettings).Gives sampleTree (.error fault)) ∧
      ∃ fault finished collection place,
        (build .basic plainSettings).perform (.ofTree sampleTree) = (.error fault, finished) ∧
          Tree.Saves sampleTree finished.tree sampleSettings.module
            (Module.source collection).toUTF8 place := by
  obtain ⟨fails, -⟩ := generated_behind_checks .basic staleSettings (.ofTree sampleTree)
  obtain ⟨-, ungathered, -⟩ := generated_behind_checks .basic emptySettings (.ofTree sampleTree)
  obtain ⟨-, -, unread, -⟩ := generated_behind_checks .basic sampleSettings (.ofTree sampleTree)
  obtain ⟨-, -, -, unloaded, -⟩ :=
    generated_behind_checks .basic plainSettings (.ofTree sampleTree)
  refine ⟨?_, ?_, ?_, ?_⟩
  · have exited : Launcher.basic "sh" ["-c", "exit 3"] = .ok 3 := by decide +kernel
    exact (fails _ (.badStatus exited (by decide))).1
  · have gathers := Gather.gives_gather sampleTree emptySettings.iconsDir
    rw [if_neg (by decide +kernel)] at gathers
    obtain ⟨reported, builds, isFault⟩ := ungathered _ gathers
    cases isFault nofun
    exact builds
  · have noModule : sampleTree.readBytes sampleSettings.module = .error .notFound := by rfl
    exact unread (.noModule noModule)
  · have written : ((buildModule .basic plainSettings).perform (.ofTree sampleTree)).1 =
        .ok () := by
      decide +kernel
    have noTemplates : (Output.loaded ((buildModule .basic plainSettings).perform
        (.ofTree sampleTree)).2.tree plainSettings.templatesDir).toOption = none := by
      decide +kernel
    cases isLoaded : Output.loaded ((buildModule .basic plainSettings).perform
        (.ofTree sampleTree)).2.tree plainSettings.templatesDir with
    | ok library =>
      rw [isLoaded] at noTemplates
      cases noTemplates
    | error reported =>
      obtain ⟨fault, finished, collection, place, performed, -, saves⟩ :=
        unloaded _ (Prod.ext written rfl) (.templates isLoaded)
      exact ⟨fault, finished, collection, place, performed, saves⟩

end IconForge.Run
