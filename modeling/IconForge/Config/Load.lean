import IconForge.Config.Decode
import IconForge.Task

/-!
Contract: the configuration of a run.

Owns: the file that is read, which is the one that is named, or else the first
one found under the usual names, and the defaults where there is none.

Does not own: what a file holds.
-/

namespace IconForge.Config

open IconForge.Files

/-- The names under which a configuration is found, the first one first. -/
def fileNames : List String := ["zappgen.yaml", "zappgen.yml"]

def read (tree : Tree) (path : Path) : Except Fault Config := do
  let text ← during (.readConfig path) .files (tree.readText path)
  during (.parseConfig path) .config (parse text)

def find? (tree : Tree) (directory : Path) : Option Path :=
  (fileNames.map directory.child).find? tree.hasFileAt

/-- The configuration of a run and where it comes from, given the file that is
named and the directory to look in otherwise. -/
def load (tree : Tree) (named : Option Path) (directory : Path) :
    Except Fault (Config × Source) :=
  match named with
  | some path =>
    if tree.hasFileAt path then (read tree path).map fun config => (config, .named path)
    else .error (.refused (.noConfigFile path))
  | none =>
    match find? tree directory with
    | some path => (read tree path).map fun config => (config, .found path)
    | none => .ok (default, .builtIn)

end IconForge.Config
