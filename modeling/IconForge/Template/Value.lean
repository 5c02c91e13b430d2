/-!
Contract: what an engine for templates is told, and what it says where it fails.

Owns: the values that templates are filled with, and the wording of a failure.

Does not own: how values are found and written.
-/

namespace IconForge.Template

/-- A value that a template can refer to. -/
inductive Value where
  | text (value : String)
  | number (value : Nat)
  | flag (value : Bool)
  | list (items : List Value)
  | record (fields : List (String × Value))
deriving Repr, Inhabited

/-- The values that a template can refer to, by name, the innermost first. -/
abbrev Scope := List (String × Value)

/-- Why an engine cannot take up or fill templates, in its own words: those of
the failure, and of the causes behind it. -/
structure Error where
  chain : List String
deriving DecidableEq, Repr

end IconForge.Template
