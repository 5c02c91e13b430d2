/-!
Contract: what a plain template says.

Owns: the parts of a template, the conditions of its branches, and the values
that both refer to.

Does not own: how parts are written or what they yield.
-/

namespace IconForge.Template

/-- A value of the surroundings, found along a path of names, with filters to
be applied to it. -/
structure Reference where
  path : List String
  filters : List String
deriving DecidableEq, Repr

/-- A condition of a branch. -/
inductive Condition where
  | value (reference : Reference)
  | not (condition : Condition)
  | both (first second : Condition)
  | either (first second : Condition)
deriving DecidableEq, Repr

/-- A part of a template. -/
inductive Part where
  | text (value : String)
  | output (reference : Reference)
  /-- Parts for every item of a list, each under a name, or other ones if there
  is no item. -/
  | loop (name : String) (items : Reference) (body otherwise : List Part)
  /-- Parts if a condition holds, or other ones if not. -/
  | branch (condition : Condition) (body otherwise : List Part)
deriving Repr

end IconForge.Template
