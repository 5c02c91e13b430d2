import IconForge.Keyed
import IconForge.Template.Part
import IconForge.Template.Value

/-!
Contract: plain templates filled with values.

Owns:
- how values are written, when they count as true, how they are found along a
  path, and the filters;
- what each part of a template yields in a scope.

Does not own: where templates come from.
-/

namespace IconForge.Template

/-- That a template is not a plain one, or refers to something that is not
there. The wording stands for the one of an engine that says more. -/
def unworded : Error where
  chain := ["<template>"]

namespace Value

mutual

def written : Value → String
  | text value => value
  | number value => toString value
  | flag value => if value then "true" else "false"
  | list items => "[" ++ String.intercalate ", " (writtenItems items) ++ "]"
  | record _ => "[object]"

def writtenItems : List Value → List String
  | [] => []
  | item :: rest => item.written :: writtenItems rest

end

/-- Whether a value counts as true: it is so, or it is neither zero nor
empty. -/
def isTrue : Value → Bool
  | text value => !value.isEmpty
  | number value => value != 0
  | flag value => value
  | list items => !items.isEmpty
  | record fields => !fields.isEmpty

/-- The number of a list's item that a name is: digits without a zero in
front. -/
def position? (name : String) : Option Nat :=
  let digits := name.toList
  if digits.all Char.isDigit && (digits.head? != some '0' || digits.length == 1) then
    name.toNat?
  else none

def part? (value : Value) (name : String) : Option Value :=
  match value with
  | record fields => Keyed.get? name fields
  | list items => (position? name).bind fun position => items[position]?
  | _ => none

def follow? (value : Value) (path : List String) : Option Value :=
  path.foldlM part? value

/-- The number of a value's characters, items or fields. -/
def length? : Value → Option Nat
  | text value => some value.length
  | list items => some items.length
  | record fields => some fields.length
  | _ => none

def items? : Value → Option (List Value)
  | list items => some items
  | text value => some (value.toList.map fun c => text (String.singleton c))
  | _ => none

/-- What a filter makes of a value. -/
def filtered (value : Value) (name : String) : Except Error Value :=
  if name = "safe" then .ok value
  else if name = "length" then
    match value.length? with
    | some length => .ok (number length)
    | none => .error unworded
  else .error unworded

end Value

def Scope.find? (scope : Scope) (path : List String) : Option Value :=
  match path with
  | [] => none
  | name :: rest => (Keyed.get? name scope).bind fun value => value.follow? rest

def Reference.read (reference : Reference) (scope : Scope) : Except Error Value :=
  match scope.find? reference.path with
  | none => .error unworded
  | some value => reference.filters.foldlM Value.filtered value

/-- Whether a condition holds; what cannot be found does not hold. -/
def Condition.holds (scope : Scope) : Condition → Bool
  | .value reference =>
    match reference.read scope with
    | .ok found => found.isTrue
    | .error _ => false
  | .not condition => !condition.holds scope
  | .both first second => first.holds scope && second.holds scope
  | .either first second => first.holds scope || second.holds scope

/-- What a loop tells about the pass with the given index out of so many. -/
def passRecord (index count : Nat) : Value :=
  .record
    [("index", .number (index + 1)), ("index0", .number index), ("first", .flag (index == 0)),
     ("last", .flag (index + 1 == count))]

def passScopes (name : String) (scope : Scope) (count : Nat) (index : Nat) :
    List Value → List Scope
  | [] => []
  | item :: rest =>
    ((name, item) :: ("loop", passRecord index count) :: scope) ::
      passScopes name scope count (index + 1) rest

mutual

def Part.render (scope : Scope) : Part → Except Error String
  | .text value => .ok value
  | .output reference => do
    let value ← reference.read scope
    .ok value.written
  | .loop name items body otherwise => do
    let value ← items.read scope
    match value.items? with
    | none => .error unworded
    | some [] => renderParts scope otherwise
    | some found => do
      let passes ← (passScopes name scope found.length 0 found).mapM fun inner =>
        renderParts inner body
      .ok (String.join passes)
  | .branch condition body otherwise =>
    if condition.holds scope then renderParts scope body else renderParts scope otherwise

def renderParts (scope : Scope) : List Part → Except Error String
  | [] => .ok ""
  | part :: rest => do
    let first ← part.render scope
    let others ← renderParts scope rest
    .ok (first ++ others)

end

end IconForge.Template
