import IconForge.Text.Blank
import IconForge.Text.Number

/-!
Contract: programs that are launched.

Owns:
- what becomes of a command;
- the few programs that are at hand everywhere.

Does not own: what a command is launched for.
-/

namespace IconForge

/-- Why a command could not be launched. -/
inductive LaunchError where
  | notFound
  /-- A word holds a zero character, which ends words. -/
  | zeroCharacter
deriving DecidableEq, Repr

namespace LaunchError

def message : LaunchError → String
  | notFound => "No such file or directory (os error 2)"
  | zeroCharacter => "nul byte found in provided data"

end LaunchError

/-- Launches a program with arguments, and gives its exit status, which is zero
when all went well. Files are left alone. -/
abbrev Launcher := String → List String → Except LaunchError Nat

namespace Launcher

def statusBound : Nat := 256

def exitStatus? (script : String) : Option Nat :=
  match (Text.words script.toList).map String.ofList with
  | ["exit"] => some 0
  | ["exit", status] =>
    ((Text.readDigits 10 (Text.widthBound 31) status.toList).toOption).map (· % statusBound)
  | _ => none

/-- The programs at hand everywhere: one that succeeds, one that fails, and a
shell, which knows no more than to leave with a status. -/
def basic : Launcher := fun program arguments =>
  if (program :: arguments).any fun word => word.toList.contains '\x00' then
    .error .zeroCharacter
  else if program = "true" then .ok 0
  else if program = "false" then .ok 1
  else
    match program, arguments with
    | "sh", "-c" :: script :: _ =>
      match exitStatus? script with
      | some status => .ok status
      | none => .error .notFound
    | _, _ => .error .notFound

end Launcher

end IconForge
