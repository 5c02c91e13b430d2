import IconForge.Config.Load
import IconForge.Gather
import IconForge.Module.Decode
import IconForge.Module.Source
import IconForge.Output
import IconForge.Refresh
import IconForge.Scaffold
import IconForge.Settings
import IconForge.Template.Plain

/-!
Contract: what the commands do.

Owns:
- the stages of a run, and their order;
- the settings that each command takes from its options.

Does not own: what happens inside a stage, or the engine for templates, which
is the one for plain templates where no other one is given.
-/

namespace IconForge

open IconForge.CommandLine
open IconForge.Files
open IconForge.Template (Engine)

/-- What a run finds around it besides files. -/
structure Surroundings where
  environment : Environment
  launcher : Launcher

namespace Run

/-! ### Stages -/

/-- Collects the drawings, and writes them to the module. -/
def convert (settings : Settings) : Task Unit := do
  let collection ← Gather.gather settings.iconsDir
  Task.save (.writeModule settings.module) settings.module (Module.source collection)
  Task.tell (.converted collection.length settings.module)

def readModule (tree : Tree) (path : Path) : Except Fault Collection := do
  let source ← during (.readModule path) .files (tree.readText path)
  during (.parseModule path) .collection (Module.parse source)

/-- Generates the files of the module's collection. -/
def emit [Engine] (settings : Settings) : Task Unit := do
  let library ← Output.library settings.templatesDir
  let tree ← Task.tree
  let collection ← Task.ofExcept (readModule tree settings.module)
  Task.tell (.moduleRead settings.module collection.length)
  Output.generate library settings.outDir collection
  Task.tell (.generated settings.outDir)

/-- Brings the drawings up to date and generates files. -/
def generate [Engine] (launcher : Launcher) (settings : Settings) : Task Unit := do
  Refresh.runIfAny launcher settings.refresh
  emit settings

/-- Brings the drawings up to date, collects them and generates files. -/
def build [Engine] (launcher : Launcher) (settings : Settings) : Task Unit := do
  Refresh.runIfAny launcher settings.refresh
  convert settings
  emit settings

/-! ### Commands -/

def here : Path := .ofText "."

/-- The configuration file that is named, by an option or else by a variable. -/
def namedConfig? (invocation : Invocation) (environment : Environment) : Option Path :=
  (Settings.given invocation.config environment "ZAPPGEN_CONFIG").map Path.ofText

def withSettings (surroundings : Surroundings) (invocation : Invocation)
    (convert : ConvertOptions) (generate : GenerateOptions) (stages : Settings → Task Unit) :
    Task Unit := do
  let tree ← Task.tree
  let (config, source) ←
    Task.ofExcept (Config.load tree (namedConfig? invocation surroundings.environment) here)
  Task.tell (.configSource source)
  stages (Settings.effective config convert generate surroundings.environment)

def carryOut [Engine] (surroundings : Surroundings) (invocation : Invocation) : Task Unit :=
  match invocation.command with
  | .init force directory => Scaffold.write ((directory.map Path.ofText).getD here) force
  | .convert options => withSettings surroundings invocation options .none convert
  | .generate module options =>
    withSettings surroundings invocation ⟨none, module⟩ options
      (generate surroundings.launcher)
  | .build collecting generating =>
    withSettings surroundings invocation collecting generating (build surroundings.launcher)

end Run

end IconForge
