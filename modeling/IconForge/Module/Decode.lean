import IconForge.Icon
import IconForge.Module.Error

/-!
Contract: the collection that the source of a module holds.

Owns:
- the export around the list of icons;
- the shapes that icons, entries, variants and nodes may have as data, each
  also as a plain list of its parts;
- the order in which faults are found.

Does not own: the JSON5 text and its values.
-/

namespace IconForge.Module

open IconForge.Data
open IconForge.Json5
open IconForge.Svg
open IconForge.Text

abbrev Decoded := Except DataError

def liftScalar {α : Type} (read : Except ScalarError α) : Decoded α :=
  match read with
  | .ok value => .ok value
  | .error cause => .error (.scalar cause)

def fill {α : Type} (name : String) (present : Option α) (read : Decoded α) :
    Decoded (Option α) :=
  match present with
  | some _ => .error (.duplicateField name)
  | none => read.map some

def require {α : Type} (name : String) (present : Option α) : Decoded α :=
  match present with
  | some value => .ok value
  | none => .error (.missingField name)

/-! ### Nodes, from values that have been read -/

/-- The two kinds of nodes. -/
inductive NodeKind where
  | element
  | text
deriving DecidableEq, Repr

def NodeKind.ofName (name : String) : Decoded NodeKind :=
  if name = "element" then .ok .element
  else if name = "text" then .ok .text
  else .error (.unknownName name ["element", "text"])

def foundValue : Value → Found
  | .scalar value => .scalar value
  | .list _ => .list
  | .object _ => .object

def valueString (value : Value) : Decoded String :=
  match value with
  | .scalar (.string text) => .ok text
  | other => .error (.wrongType (foundValue other) "a string")

def valueKind (value : Value) : Decoded NodeKind :=
  match value with
  | .scalar (.string name) => NodeKind.ofName name
  | other => .error (.wrongType (foundValue other) "variant identifier")

def memberAttributes (attributes : Attributes) : List (String × Value) → Decoded Attributes
  | [] => .ok attributes
  | (key, value) :: rest => do
    let text ← valueString value
    memberAttributes (attributes.insert key text) rest

def valueAttributes (value : Value) : Decoded Attributes :=
  match value with
  | .object members => memberAttributes Attributes.empty members
  | other => .error (.wrongType (foundValue other) "a map")

def membersKind (kind : Option NodeKind) : List (String × Value) → Decoded (Option NodeKind)
  | [] => .ok kind
  | (key, value) :: rest =>
    if key = "type" then do
      let kind ← fill "type" kind (valueKind value)
      membersKind kind rest
    else
      membersKind kind rest

/-- The fields of a node that have been given. -/
structure NodeFields where
  name : Option String
  attributes : Option Attributes
  children : Option (List Node)
  value : Option String

namespace NodeFields

def none : NodeFields where
  name := .none
  attributes := .none
  children := .none
  value := .none

def node (kind : NodeKind) (fields : NodeFields) : Decoded Node :=
  match kind with
  | .element => do
    let name ← require "name" fields.name
    .ok (.element name (fields.attributes.getD Attributes.empty) (fields.children.getD []))
  | .text => do
    let value ← require "value" fields.value
    .ok (.text value)

end NodeFields

mutual

def valueNode : Value → Decoded Node
  | .scalar value =>
    .error (.wrongType (.scalar value) "internally tagged enum SvgNode")
  | .list [] => .error (.missingField "type")
  | .list (tag :: parts) => do
    let kind ← valueKind tag
    partsNode kind parts
  | .object members => do
    let kind ← membersKind none members
    let kind ← require "type" kind
    let fields ← memberFields kind NodeFields.none members
    fields.node kind

def memberFields (kind : NodeKind) (fields : NodeFields) :
    List (String × Value) → Decoded NodeFields
  | [] => .ok fields
  | (key, value) :: rest =>
    match kind, key with
    | .element, "name" => do
      let name ← fill "name" fields.name (valueString value)
      memberFields kind { fields with name } rest
    | .element, "attributes" => do
      let attributes ← fill "attributes" fields.attributes (valueAttributes value)
      memberFields kind { fields with attributes } rest
    | .element, "children" => do
      let children ← fill "children" fields.children (valueChildren value)
      memberFields kind { fields with children } rest
    | .text, "value" => do
      let value ← fill "value" fields.value (valueString value)
      memberFields kind { fields with value } rest
    | _, _ => memberFields kind fields rest

def partsNode (kind : NodeKind) : List Value → Decoded Node
  | [] =>
    match kind with
    | .element =>
      .error (.wrongLength 0 "struct variant SvgNode::Element with 3 elements")
    | .text => .error (.wrongLength 0 "struct variant SvgNode::Text with 1 element")
  | first :: rest =>
    match kind with
    | .element => do
      let name ← valueString first
      match rest with
      | [] => .ok (.element name Attributes.empty [])
      | second :: rest => do
        let attributes ← valueAttributes second
        match rest with
        | [] => .ok (.element name attributes [])
        | third :: surplus => do
          let children ← valueChildren third
          if surplus.isEmpty then .ok (.element name attributes children)
          else .error (.wrongLength (3 + surplus.length) "3 elements in sequence")
    | .text => do
      let value ← valueString first
      if rest.isEmpty then .ok (.text value)
      else .error (.wrongLength (1 + rest.length) "1 element in sequence")

def valueChildren : Value → Decoded (List Node)
  | .list items => valueNodes items
  | .scalar value => .error (.wrongType (.scalar value) "a sequence")
  | .object _ => .error (.wrongType .object "a sequence")

def valueNodes : List Value → Decoded (List Node)
  | [] => .ok []
  | value :: rest => do
    let node ← valueNode value
    let nodes ← valueNodes rest
    .ok (node :: nodes)

end

/-! ### Nodes, entries and icons, from terms that are read on the way -/

/-- What a term is found to be when it is looked at. -/
def foundView : View → Found
  | .scalar value => .scalar value
  | .list _ => .list
  | .object _ => .object

def termString (term : Term) : Decoded String := do
  match ← liftScalar term.view with
  | .scalar (.string text) => .ok text
  | other => .error (.wrongType (foundView other) "a string")

def termKind (term : Term) : Decoded NodeKind := do
  match ← liftScalar term.view with
  | .scalar (.string name) => NodeKind.ofName name
  | other => .error (.wrongType (foundView other) "variant identifier")

/-- The members of a node as they are read from front to back, each value as a
whole, and the kind as soon as it comes up. -/
def termMembers (kind : Option NodeKind) :
    List (List Piece × Term) → Decoded (Option NodeKind × List (String × Value))
  | [] => .ok (kind, [])
  | (pieces, term) :: rest => do
    let key ← liftScalar (stringOf pieces)
    if key = "type" then do
      let kind ← fill "type" kind (termKind term)
      termMembers kind rest
    else do
      let value ← liftScalar term.value
      let (kind, values) ← termMembers kind rest
      .ok (kind, (key, value) :: values)

def termNode (term : Term) : Decoded Node := do
  match ← liftScalar term.view with
  | .scalar value => .error (.wrongType (.scalar value) "internally tagged enum SvgNode")
  | .list [] => .error (.missingField "type")
  | .list (tag :: parts) => do
    let kind ← termKind tag
    let values ← liftScalar (Term.values parts)
    partsNode kind values
  | .object members => do
    let (kind, values) ← termMembers none members
    let kind ← require "type" kind
    let fields ← memberFields kind NodeFields.none values
    fields.node kind

def variantOfName (name : String) : Decoded Variant :=
  match Variant.ofName? name with
  | some variant => .ok variant
  | none => .error (.unknownName name (Variant.all.map Variant.name))

/-- The variant that a term is: a string, or an object of which only the first
key counts. -/
def termVariant (term : Term) : Decoded Variant :=
  match term with
  | .string pieces => do
    let name ← liftScalar (stringOf pieces)
    variantOfName name
  | .object [] => .error .emptyVariant
  | .object ((pieces, _) :: _) => do
    let name ← liftScalar (stringOf pieces)
    variantOfName name
  | _ => .error .unnamedVariant

def termList {α : Type} (read : Term → Decoded α) (term : Term) : Decoded (List α) := do
  match ← liftScalar term.view with
  | .list items => items.mapM read
  | other => .error (.wrongType (foundView other) "a sequence")

/-- The two fields of a record among its members; other members have to stand
for something but say nothing. -/
def memberPair {α β : Type} (firstName secondName : String)
    (readFirst : Term → Decoded α) (readSecond : Term → Decoded β)
    (first : Option α) (second : Option β) :
    List (List Piece × Term) → Decoded (Option α × Option β)
  | [] => .ok (first, second)
  | (pieces, term) :: rest => do
    let key ← liftScalar (stringOf pieces)
    if key = firstName then do
      let first ← fill firstName first (readFirst term)
      memberPair firstName secondName readFirst readSecond first second rest
    else if key = secondName then do
      let second ← fill secondName second (readSecond term)
      memberPair firstName secondName readFirst readSecond first second rest
    else do
      let _ ← liftScalar term.value
      memberPair firstName secondName readFirst readSecond first second rest

/-- The two parts of a record that a term is: an object with two fields, or a
list of at least two items, of which the rest is not looked at. -/
def termPair {α β : Type} (expected firstName secondName : String)
    (readFirst : Term → Decoded α) (readSecond : Term → Decoded β) (term : Term) :
    Decoded (α × β) := do
  match ← liftScalar term.view with
  | .object members => do
    let (first, second) ←
      memberPair firstName secondName readFirst readSecond none none members
    let first ← require firstName first
    let second ← require secondName second
    .ok (first, second)
  | .list [] => .error (.wrongLength 0 (expected ++ " with 2 elements"))
  | .list [only] => do
    let _ ← readFirst only
    .error (.wrongLength 1 (expected ++ " with 2 elements"))
  | .list (first :: second :: _) => do
    let first ← readFirst first
    let second ← readSecond second
    .ok (first, second)
  | .scalar value => .error (.wrongType (.scalar value) expected)

def termEntry (term : Term) : Decoded Entry := do
  let (variant, drawing) ←
    termPair "struct VariantEntry" "variant" "svg" termVariant termNode term
  .ok ⟨variant, drawing⟩

def termIcon (term : Term) : Decoded Icon := do
  let (name, entries) ←
    termPair "struct IconRecord" "name" "variants" termString (termList termEntry) term
  .ok ⟨name, entries⟩

def termCollection (term : Term) : Decoded Collection :=
  termList termIcon term

/-! ### The export -/

def dropEnding (ending : String) (text : List Char) : List Char :=
  (dropEnd? ending.toList text).getD text

def exported? (source : List Char) : Option (List Char) := do
  let behind ← dropStart? "export default".toList (trim source)
  let body := trim behind
  let body := trimEnd (dropEnding ";" body)
  let body := trimEnd (dropEnding "as const" body)
  if body.head? = some '[' then some body else none

def parse (source : String) : Except Error Collection :=
  match exported? source.toList with
  | none => .error .missingExport
  | some body =>
    match Term.parse? body with
    | none => .error .grammar
    | some term =>
      match termCollection term with
      | .ok collection => .ok collection
      | .error cause => .error (.data cause)

end IconForge.Module
