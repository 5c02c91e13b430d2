import IconForge.Proofs.Run.Checks
import IconForge.Proofs.Task.Effect
import Mathlib.Data.List.Find

/-!
Contract: building is converting and then generating.

Owns:
- that generating files, converting and every other stage do the same whatever has
  been told before;
- that a configuration is found again behind a module that has been written
  elsewhere;
- that one run with both stages and two runs with one stage each, the second of which
  finds its configuration and settings anew, come to the same, if the engine for templates
  answers alike in them.

Main statement: `build_eq_convert_then_generate`.

Does not own: what either stage does.
-/

namespace IconForge.Output

open IconForge.Files
open IconForge.Template (Library)

variable {library : Library} {out : Path} {icon : Icon}

theorem ignoresNotices_emit (path : Path) (text : Except Fault String) :
    (emit path text).IgnoresNotices :=
  Task.ignoresNotices_ofExcept.bind fun _ => Task.ignoresNotices_save _ _ _

theorem ignoresNotices_emitVariants : (emitVariants library out icon).IgnoresNotices := by
  unfold emitVariants
  split
  · exact Task.ignoresNotices_tell.bind fun _ => ignoresNotices_emit _ _
  · exact ignoresNotices_emit _ _

theorem ignoresNotices_generate (library : Library) (out : Path) (collection : Collection) :
    (generate library out collection).IgnoresNotices := by
  refine (ignoresNotices_emit _ _).bind fun _ => ?_
  refine (ignoresNotices_emit _ _).bind fun _ => ?_
  refine (Task.ignoresNotices_forM fun _ => ignoresNotices_emitVariants).bind fun _ => ?_
  refine Task.ignoresNotices_tell.bind fun _ => ?_
  refine (Task.ignoresNotices_forM fun _ => ignoresNotices_emit _ _).bind fun _ => ?_
  refine Task.ignoresNotices_tell.bind fun _ => ?_
  exact (ignoresNotices_emit _ _).bind fun _ => Task.ignoresNotices_tell

end IconForge.Output

namespace IconForge.Config

open IconForge.Files

variable {before behind : Tree} {module path directory : Path} {content : ByteArray}
  {place : Place}

/-- The paths at which a configuration is looked for: the one that is named, or else
those of the usual names in a directory. -/
def candidates (named : Option Path) (directory : Path) : List Path :=
  match named with
  | some path => [path]
  | none => fileNames.map directory.child

theorem read_of_saves (saves : Tree.Saves before behind module content place)
    (apart : path.destination ≠ module.destination)
    (leads : before.locate path = .ok path.destination)
    (present : before.hasFileAt path = true) : read behind path = read before path := by
  unfold read
  rw [saves.readText_eq apart leads present]

/-- A configuration that is named is found again behind a file written elsewhere. -/
theorem load_named_of_saves (saves : Tree.Saves before behind module content place)
    (apart : path.destination ≠ module.destination) {found : Config × Source}
    (loaded : load before (some path) directory = .ok found) :
    load behind (some path) directory = .ok found := by
  unfold load at loaded ⊢
  simp only at loaded ⊢
  split at loaded
  · next present =>
    obtain ⟨there, held, isFound⟩ := Tree.hasFileAt_iff.mp present
    have located := (Tree.lookUp_eq_ok_iff.mp isFound).1
    have leads : before.locate path = .ok path.destination := by
      rw [Tree.destination_of_locate located]
      exact located
    rw [saves.hasFileAt_eq apart leads, if_pos present,
      read_of_saves saves apart leads present]
    exact loaded
  · cases loaded

/-- A configuration that is not named is found again, or again there is none, behind a
file written elsewhere. -/
theorem load_unnamed_of_saves (saves : Tree.Saves before behind module content place)
    (apart : ∀ path ∈ fileNames.map directory.child, path.destination ≠ module.destination)
    (leads : ∀ path ∈ fileNames.map directory.child,
      before.locate path = .ok path.destination) :
    load behind none directory = load before none directory := by
  have sameFiles : ∀ path ∈ fileNames.map directory.child,
      behind.hasFileAt path = before.hasFileAt path :=
    fun path member => saves.hasFileAt_eq (apart path member) (leads path member)
  have alsoFound : find? behind directory = find? before directory := by
    unfold find?
    exact List.find?_congr sameFiles
  unfold load
  rw [alsoFound]
  cases isFound : find? before directory with
  | none => rfl
  | some path =>
    have member : path ∈ fileNames.map directory.child := List.mem_of_find?_eq_some isFound
    have present : before.hasFileAt path = true := List.find?_some isFound
    simp only [read_of_saves saves (apart path member) (leads path member) present]

end IconForge.Config

namespace IconForge.Run

open IconForge.CommandLine
open IconForge.Files
open IconForge.Template (Engine Library)

variable {launcher : Launcher} {settings : Settings} {tree behind : Tree} {content : ByteArray}
  {place : Place} {surroundings : Surroundings} {invocation : Invocation}

/-! ### Stages that ignore notices -/

theorem ignoresNotices_gather (root : Path) : (Gather.gather root).IgnoresNotices :=
  Task.ignoresNotices_of_gives fun tree => ⟨_, Gather.gives_gather tree root⟩

theorem ignoresNotices_convert (settings : Settings) : (convert settings).IgnoresNotices := by
  refine (ignoresNotices_gather _).bind fun _ => ?_
  exact (Task.ignoresNotices_save _ _ _).bind fun _ => Task.ignoresNotices_tell

/-- Generating files with the templates at hand. -/
def emitWith (library : Library) (settings : Settings) : Task Unit := do
  let tree ← Task.tree
  let collection ← Task.ofExcept (readModule tree settings.module)
  Task.tell (.moduleRead settings.module collection.length)
  Output.generate library settings.outDir collection
  Task.tell (.generated settings.outDir)

theorem ignoresNotices_emitWith (library : Library) (settings : Settings) :
    (emitWith library settings).IgnoresNotices := by
  refine Task.ignoresNotices_tree.bind fun _ => ?_
  refine Task.ignoresNotices_ofExcept.bind fun _ => ?_
  refine Task.ignoresNotices_tell.bind fun _ => ?_
  exact (Output.ignoresNotices_generate _ _ _).bind fun _ => Task.ignoresNotices_tell

theorem ignoresNotices_runIfAny (launcher : Launcher) (command : Option (List String)) :
    (Refresh.runIfAny launcher command).IgnoresNotices := by
  apply Task.ignoresNotices_of_gives
  intro tree
  rcases Refresh.done_or_fails launcher command with done | ⟨fault, fails⟩
  · exact ⟨_, Refresh.gives_of_done done tree⟩
  · exact ⟨_, Refresh.gives_of_fails fails tree⟩

section

variable [Engine]

theorem emit_eq_bind (settings : Settings) :
    emit settings =
      Output.library settings.templatesDir >>= fun library => emitWith library settings := rfl

theorem ignoresNotices_emit (settings : Settings) : (emit settings).IgnoresNotices := by
  rw [emit_eq_bind]
  exact (Task.ignoresNotices_of_gives fun tree => ⟨_, Output.gives_library _ tree⟩).bind
    fun _ => ignoresNotices_emitWith _ _

theorem ignoresNotices_generate (launcher : Launcher) (settings : Settings) :
    (generate launcher settings).IgnoresNotices :=
  (ignoresNotices_runIfAny _ _).bind fun _ => ignoresNotices_emit _

theorem ignoresNotices_build (launcher : Launcher) (settings : Settings) :
    (build launcher settings).IgnoresNotices :=
  (ignoresNotices_runIfAny _ _).bind fun _ =>
    (ignoresNotices_convert _).bind fun _ => ignoresNotices_emit _

/-- Generating files depends on the engine no further than by the templates at hand. -/
theorem effect_emit :
    (emit settings).effect tree =
      match Output.loaded tree settings.templatesDir with
      | .ok library => (emitWith library settings).effect tree
      | .error fault => (.error fault, tree) := by
  rw [emit_eq_bind, Task.effect_bind fun _ => ignoresNotices_emitWith _ _,
    Task.effect_of_gives (Output.gives_library _ _)]
  cases Output.loaded tree settings.templatesDir with
  | error fault => rfl
  | ok library => rfl

theorem effect_generate_of_skipped (skipped : settings.refresh = none) :
    (generate launcher settings).effect tree = (emit settings).effect tree := by
  have skips : (Refresh.runIfAny launcher none).Gives tree (.ok ()) := Task.gives_tell
  unfold generate
  rw [skipped, Task.effect_bind fun _ => ignoresNotices_emit settings,
    Task.effect_of_gives skips]

theorem effect_build_of_skipped (skipped : settings.refresh = none) :
    (build launcher settings).effect tree =
      match (convert settings).effect tree with
      | (.ok (), between) => (emit settings).effect between
      | (.error fault, behind) => (.error fault, behind) := by
  have skips : (Refresh.runIfAny launcher none).Gives tree (.ok ()) := Task.gives_tell
  have emits (_ : Unit) : (emit settings).IgnoresNotices := ignoresNotices_emit settings
  unfold build
  rw [skipped, Task.effect_bind fun _ => (ignoresNotices_convert settings).bind emits,
    Task.effect_of_gives skips]
  simp only
  rw [Task.effect_bind emits]
  rcases (convert settings).effect tree with ⟨fault | ⟨⟩, between⟩
  · rfl
  · rfl

end

/-- Engines that answer alike about the templates at hand generate the same. -/
theorem effect_emit_of_steady {one other : Engine}
    (steady : Output.Steady one other tree settings.templatesDir) :
    (@emit one settings).effect tree = (@emit other settings).effect tree := by
  rw [@effect_emit settings tree one, @effect_emit settings tree other,
    Output.loaded_eq_of_steady steady]

/-! ### Settings found anew -/

/-- A run finds its configuration first, and then goes through its stages. -/
theorem effect_withSettings {collecting : ConvertOptions} {generating : GenerateOptions}
    {stages : Settings → Task Unit} (ignores : ∀ settings, (stages settings).IgnoresNotices) :
    (withSettings surroundings invocation collecting generating stages).effect tree =
      match Config.load tree (namedConfig? invocation surroundings.environment) here with
      | .ok (config, _) =>
        (stages (.effective config collecting generating surroundings.environment)).effect tree
      | .error fault => (.error fault, tree) := by
  unfold withSettings
  have told (found : Config × Config.Source) : (do
      Task.tell (.configSource found.2)
      stages (.effective found.1 collecting generating surroundings.environment)
        : Task Unit).IgnoresNotices :=
    Task.ignoresNotices_tell.bind fun _ => ignores _
  rw [Task.effect_bind fun _ => Task.ignoresNotices_ofExcept.bind told,
    Task.effect_of_gives Task.gives_tree]
  simp only
  rw [Task.effect_bind told, Task.effect_of_gives Task.gives_ofExcept]
  cases Config.load tree (namedConfig? invocation surroundings.environment) here with
  | error fault => rfl
  | ok found =>
    simp only
    rw [Task.effect_bind fun _ => ignores _, Task.effect_of_gives Task.gives_tell]

/-- The usual names of configurations lead to their places in every tree. -/
theorem locate_here {path : Path} (member : path ∈ Config.fileNames.map here.child)
    (tree : Tree) : tree.locate path = .ok path.destination := by
  rw [Config.fileNames, List.map_cons, List.map_cons, List.map_nil, List.mem_pair] at member
  rcases member with rfl | rfl
  · rfl
  · rfl

/-- The configuration that a run has found is found again behind a module that has been
written where no configuration is looked for. -/
theorem load_of_convert {named : Option Path} {found : Config × Config.Source}
    (apart : ∀ path ∈ Config.candidates named here,
      path.destination ≠ settings.module.destination)
    (loaded : Config.load tree named here = .ok found)
    (converted : (convert settings).effect tree = (.ok (), behind)) :
    Config.load behind named here = .ok found := by
  obtain ⟨finished, performed, isBehind⟩ := Task.perform_of_effect converted
  obtain ⟨collection, place, -, saves, -⟩ := saves_of_convert performed
  rw [isBehind] at saves
  cases named with
  | some path =>
    have elsewhere := apart path (List.mem_singleton_self path)
    exact Config.load_named_of_saves saves elsewhere loaded
  | none =>
    rw [Config.load_unnamed_of_saves saves apart fun path member => locate_here member _]
    exact loaded

/-- The module that a run works on means none of the places at which a configuration is
looked for. -/
def SparesConfig (surroundings : Surroundings) (config : Option String)
    (collecting : ConvertOptions) (tree : Tree) : Prop :=
  let named := (Settings.given config surroundings.environment "ZAPPGEN_CONFIG").map Path.ofText
  ∀ found source, Config.load tree named here = .ok (found, source) →
    ∀ path ∈ Config.candidates named here,
      path.destination ≠
        (Settings.effective found collecting .none surroundings.environment).module.destination

/-- The engines of two runs answer alike about the templates that there are behind
converting, where the second run finds them. -/
def Repeats (one other : Engine) (surroundings : Surroundings) (config : Option String)
    (collecting : ConvertOptions) (generating : GenerateOptions) (tree : Tree) : Prop :=
  let named := (Settings.given config surroundings.environment "ZAPPGEN_CONFIG").map Path.ofText
  ∀ found source, Config.load tree named here = .ok (found, source) →
    let settings := Settings.effective found collecting generating surroundings.environment
    ∀ between, (convert settings).effect tree = (.ok (), between) →
      Output.Steady one other between settings.templatesDir

/-- Building, with bringing the drawings up to date skipped, comes to what converting
comes to and, where that succeeds, to what generating comes to behind it: the second run
finds the configuration that the first one has found, and the same settings. What the
module must not be is where a configuration is looked for, for then the second run reads
it as one. The three runs have engines of their own; what the templates yield where the
files are generated must not differ between the run that builds and the one that
generates. -/
theorem build_eq_convert_then_generate (building converting generating : Engine)
    (surroundings : Surroundings) (config : Option String) (collecting : ConvertOptions)
    (out templates : Option String) (tree : Tree)
    (spares : SparesConfig surroundings config collecting tree)
    (repeats :
      Repeats building generating surroundings config collecting ⟨out, templates, true⟩ tree) :
    (@carryOut building surroundings ⟨config, .build collecting ⟨out, templates, true⟩⟩).effect
        tree =
      match (@carryOut converting surroundings ⟨config, .convert collecting⟩).effect tree with
      | (.ok (), between) =>
        (@carryOut generating surroundings
          ⟨config, .generate collecting.module ⟨out, templates, true⟩⟩).effect between
      | (.error fault, behind) => (.error fault, behind) := by
  unfold SparesConfig at spares
  unfold Repeats at repeats
  unfold carryOut
  simp only
  rw [effect_withSettings (@ignoresNotices_build building _),
    effect_withSettings ignoresNotices_convert]
  unfold namedConfig?
  generalize isNamed :
    (Settings.given config surroundings.environment "ZAPPGEN_CONFIG").map Path.ofText = named
      at spares repeats ⊢
  cases loaded : Config.load tree named here with
  | error fault => rfl
  | ok found =>
    obtain ⟨settled, source⟩ := found
    have apart := spares settled source loaded
    have converts : convert (.effective settled collecting ⟨out, templates, true⟩
        surroundings.environment) =
      convert (.effective settled collecting .none surroundings.environment) := rfl
    have steady := repeats settled source loaded
    simp only [converts] at steady
    simp only
    rw [@effect_build_of_skipped _ _ _ building rfl, converts]
    rcases converted : (convert (.effective settled collecting .none
        surroundings.environment)).effect tree with ⟨fault | ⟨⟩, between⟩
    · rfl
    · have foundAgain := load_of_convert apart loaded converted
      have emits : (@generate generating surroundings.launcher (.effective settled
            ⟨none, collecting.module⟩ ⟨out, templates, true⟩ surroundings.environment)).effect
            between =
          (@emit building (.effective settled collecting ⟨out, templates, true⟩
            surroundings.environment)).effect between :=
        (@effect_generate_of_skipped _ _ _ generating rfl).trans
          (effect_emit_of_steady (steady between converted)).symm
      simp only
      rw [effect_withSettings (@ignoresNotices_generate generating _)]
      unfold namedConfig?
      simp only [isNamed, foundAgain, emits]

/-- Surroundings in which a variable tells the module. -/
def sampleSurroundings : Surroundings where
  environment := ⟨[("ZAPPGEN_MODULE", "icons.ts")]⟩
  launcher := .basic

theorem build_eq_convert_then_generate_sample :
    SparesConfig sampleSurroundings none ⟨some "icons", none⟩ sampleTree ∧
      ∃ between,
        (carryOut sampleSurroundings ⟨none, .convert ⟨some "icons", none⟩⟩).effect sampleTree =
          (.ok (), between) ∧
        (carryOut sampleSurroundings
            ⟨none, .build ⟨some "icons", none⟩ ⟨some "out", none, true⟩⟩).effect sampleTree =
          (carryOut sampleSurroundings
            ⟨none, .generate none ⟨some "out", none, true⟩⟩).effect between := by
  have spares : SparesConfig sampleSurroundings none ⟨some "icons", none⟩ sampleTree := by
    intro found source loaded
    show ∀ path ∈ Config.fileNames.map here.child,
      path.destination ≠ Path.destination (.ofText "icons.ts")
    decide
  have converts : ((carryOut sampleSurroundings
      ⟨none, .convert ⟨some "icons", none⟩⟩).effect sampleTree).1 = .ok () := by
    decide +kernel
  refine ⟨spares, _, Prod.ext converts rfl, ?_⟩
  rw [build_eq_convert_then_generate _ _ _ _ _ _ _ _ _ spares fun _ _ _ _ _ => .self _ _ _,
    show (carryOut sampleSurroundings ⟨none, .convert ⟨some "icons", none⟩⟩).effect sampleTree =
      (.ok (), _) from Prod.ext converts rfl]

end IconForge.Run
