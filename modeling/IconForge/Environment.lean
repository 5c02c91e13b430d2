import IconForge.Keyed
import IconForge.Text.Blank

/-!
Contract: the variables of an environment as settings read them.

Owns: a variable as a path, which counts as unset when it is empty, and as a
switch.
-/

namespace IconForge

open IconForge.Text

/-- Variables and their values; a name that is missing is unset. -/
structure Environment where
  assignments : List (String × String)
deriving Repr

/-- Whether a value switches something on: one of five words, blanks around it
and the case of its letters left aside. -/
def isTruthy (value : String) : Bool :=
  ["1", "true", "on", "yes", "y"].contains
    (String.ofList ((trim value.toList).map Char.toLower))

namespace Environment

def get? (environment : Environment) (name : String) : Option String :=
  Keyed.get? name environment.assignments

def path? (environment : Environment) (name : String) : Option String :=
  (environment.get? name).filter fun value => !value.isEmpty

/-- Whether a variable switches something on, if it is set. -/
def switch? (environment : Environment) (name : String) : Option Bool :=
  (environment.get? name).map isTruthy

end Environment

end IconForge
