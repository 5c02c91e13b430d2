import IconForge.Run

/-!
Contract: the program.

Owns: taking up the variables and the files that a run may read, whose names
stand on standard input, one to a line; writing back what the run has changed;
and telling what it tells.

Does not own: anything that is decided on the way. Commands lead no further
than the programs at hand everywhere.
-/

namespace IconForge.Main

open IconForge.Files

def variableNames : List String :=
  ["ZAPPGEN_CONFIG", "ZAPPGEN_ICONS_DIR", "ZAPPGEN_MODULE", "ZAPPGEN_OUT",
   "ZAPPGEN_TEMPLATES", "ZAPPGEN_SKIP_REFRESH"]

def takeVariables : IO Environment := do
  let values ← variableNames.mapM fun name => do
    return ((← IO.getEnv name).map fun value => (name, value)).toList
  return ⟨values.flatten⟩

def withFile (tree : Tree) (path : Path) (content : ByteArray) : Tree :=
  let grown := (path.parent?.map fun parent => (tree.makePath parent).1).getD tree
  (grown.write path content).toOption.getD grown

partial def takeFiles (names : IO.FS.Stream) (tree : Tree) : IO Tree := do
  let line ← names.getLine
  if line.isEmpty then return tree
  let name := String.ofList (Text.trimEnd line.toList)
  let content ← IO.FS.readBinFile name
  takeFiles names (withFile tree (Path.ofText name) content)

def giveFiles (before behind : Tree) : IO Unit :=
  behind.items.forM fun entry => do
    if before.get? entry.1 != some entry.2 then
      let path := String.intercalate "/" ("." :: entry.1.reverse.map Name.text)
      match entry.2 with
      | .directory => IO.FS.createDirAll path
      | .file content => IO.FS.writeBinFile path content

def levelText : Level → String
  | .info => " INFO "
  | .warning => " WARN "

def carryOut (invocation : CommandLine.Invocation) : IO UInt32 := do
  let tree ← takeFiles (← IO.getStdin) Tree.empty
  let surroundings : Surroundings := ⟨← takeVariables, Launcher.basic⟩
  let (outcome, world) := (Run.carryOut surroundings invocation).perform (World.ofTree tree)
  giveFiles tree world.tree
  world.notices.forM fun notice => IO.eprintln (levelText notice.level ++ notice.message)
  match outcome with
  | .ok _ => return 0
  | .error fault =>
    IO.eprintln ("Error: " ++ fault.message)
    return 1

def usage : String :=
  "usage: find . -type f | zappgen [--config FILE] convert|generate|build|init [OPTIONS]"

end IconForge.Main

def main (arguments : List String) : IO UInt32 := do
  match IconForge.CommandLine.parse arguments with
  | .ok invocation => IconForge.Main.carryOut invocation
  | .error .help =>
    IO.println IconForge.Main.usage
    return 0
  | .error .version =>
    IO.println "zappgen 0.1.0"
    return 0
  | .error _ =>
    IO.eprintln IconForge.Main.usage
    return 2
