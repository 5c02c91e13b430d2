import IconForge.Launch
import IconForge.Task

/-!
Contract: bringing the drawings up to date before they are used.

Owns: launching the command for it, and what is told about that.

Does not own: the command, nor whether it is launched at all.
-/

namespace IconForge.Refresh

def lineOf (command : List String) : String :=
  String.intercalate " " command

def run (launcher : Launcher) (command : List String) : Task Unit := do
  match command with
  | [] => Task.refuse .emptyCommand
  | program :: arguments =>
    let line := lineOf command
    Task.tell (.refreshStarted line)
    let status ← Task.ofExcept (during (.launchCommand line) .launch (launcher program arguments))
    if status = 0 then Task.tell .refreshDone
    else Task.refuse (.failedCommand status line)

def runIfAny (launcher : Launcher) (command : Option (List String)) : Task Unit :=
  match command with
  | some command => run launcher command
  | none => Task.tell .refreshSkipped

end IconForge.Refresh
