import IconForge.CommandLine
import IconForge.Config
import IconForge.Environment
import IconForge.Files.Path

/-!
Contract: what a run works on.

Owns: how options, variables and the configuration go together: of each setting
the first one counts that is there, in this order.

Does not own: where configurations come from, nor what a run does.
-/

namespace IconForge

open IconForge.CommandLine
open IconForge.Files

/-- What a run works on. -/
structure Settings where
  iconsDir : Path
  module : Path
  outDir : Path
  templatesDir : Option Path
  /-- The command that brings the drawings up to date, unless that is skipped. -/
  refresh : Option (List String)
deriving DecidableEq, Repr

namespace Settings

/-- What an option, or else a variable that is not empty, gives. -/
def given (option : Option String) (environment : Environment) (name : String) :
    Option String :=
  option.or (environment.path? name)

/-- Whether bringing the drawings up to date is skipped. -/
def skipsRefresh (options : GenerateOptions) (environment : Environment) (config : Config) :
    Bool :=
  options.skipRefresh || (environment.switch? "ZAPPGEN_SKIP_REFRESH").getD false ||
    !config.refresh.enabled

def effective (config : Config) (convert : ConvertOptions) (generate : GenerateOptions)
    (environment : Environment) : Settings where
  iconsDir :=
    .ofText ((given convert.icons environment "ZAPPGEN_ICONS_DIR").getD config.iconsDir)
  module := .ofText ((given convert.module environment "ZAPPGEN_MODULE").getD config.module)
  outDir := .ofText ((given generate.out environment "ZAPPGEN_OUT").getD config.outDir)
  templatesDir :=
    ((given generate.templates environment "ZAPPGEN_TEMPLATES").or config.templatesDir).map
      Path.ofText
  refresh :=
    if skipsRefresh generate environment config then none else some config.refresh.command

end Settings

end IconForge
