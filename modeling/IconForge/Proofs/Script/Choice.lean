import IconForge.Proofs.Script.MapModule

/-!
Contract: choices among values of a script, as a component makes them.

Owns:
- choices that look names up in maps and fall back where a value is missing or
  false;
- reading them from the text of a script;
- what a choice yields, given the values of names;
- the rule by which a shared component chooses the drawing that it shows.

Main statement: `select?_variantChoice`.

Does not own: the text of the component.
-/

namespace IconForge.Script.Reader

/-! ### Choices -/

/-- An operator that falls back to its second operand. -/
inductive Operator where
  /-- If the first operand counts as false. -/
  | orElse
  /-- If the first operand is missing. -/
  | ifMissing
deriving DecidableEq, Repr

def Operator.ofWord? (word : String) : Option Operator :=
  if word = "||" then some .orElse
  else if word = "??" then some .ifMissing
  else none

inductive Choice where
  | name (name : String)
  /-- What a map holds under a key. -/
  | entry (map : String) (key : Choice)
  | fallBack (operator : Operator) (first second : Choice)
deriving DecidableEq, Repr

/-! ### Reading choices -/

/-- The words of a text, of which brackets and dots are words of their own. -/
def words (text : List Char) : List String :=
  let spaced := text.flatMap fun c =>
    if c == '(' || c == ')' || c == '.' then [' ', c, ' '] else [c]
  ((Text.splitAt Json5.isGap spaced).filter fun word => !word.isEmpty).map String.ofList

/-- An operand whose operator waits for the second one. -/
abbrev Waiting := Option (Choice × Operator)

/-- The choice behind an operand, together with what waits for it. -/
def joined (waiting : Waiting) (operand : Choice) : Choice :=
  match waiting with
  | none => operand
  | some (first, operator) => .fallBack operator first operand

/-- What is due next in a choice. -/
inductive ChoiceDue where
  | operand (waiting : Waiting)
  | operator (waiting : Waiting) (operand : Choice)
  /-- What follows the dot behind the name of a map. -/
  | method (waiting : Waiting) (map : String)
  | bracket (waiting : Waiting) (map : String)
deriving Repr

/-- What is due next, and the maps whose keys are not complete, innermost
first. -/
structure ChoiceMachine where
  due : ChoiceDue
  frames : List (Waiting × String)
deriving Repr

namespace ChoiceMachine

/-- Reads an operator. Different ones cannot stand beside each other. -/
def operate? (waiting : Waiting) (operand : Choice) (operator : Operator) : Option Waiting :=
  match waiting with
  | none => some (some (operand, operator))
  | some (_, before) =>
    if before = operator then some (some (joined waiting operand, operator)) else none

def step? (machine : ChoiceMachine) (word : String) : Option ChoiceMachine :=
  match machine.due with
  | .operand waiting =>
    if Script.isIdentifier word then some ⟨.operator waiting (.name word), machine.frames⟩
    else none
  | .operator waiting operand =>
    match Operator.ofWord? word with
    | some operator =>
      (operate? waiting operand operator).map fun waiting => ⟨.operand waiting, machine.frames⟩
    | none =>
      if word = "." then
        match operand with
        | .name map => some ⟨.method waiting map, machine.frames⟩
        | _ => none
      else if word = ")" then
        match machine.frames with
        | (outer, map) :: frames =>
          some ⟨.operator outer (.entry map (joined waiting operand)), frames⟩
        | [] => none
      else none
  | .method waiting map =>
    if word = "get" then some ⟨.bracket waiting map, machine.frames⟩ else none
  | .bracket waiting map =>
    if word = "(" then some ⟨.operand none, (waiting, map) :: machine.frames⟩ else none

end ChoiceMachine

/-- The choice that a whole text is, if it is one. -/
def Choice.read? (text : List Char) : Option Choice := do
  let machine ← (words text).foldlM ChoiceMachine.step? ⟨.operand none, []⟩
  match machine.due, machine.frames with
  | .operator waiting operand, [] => some (joined waiting operand)
  | _, _ => none

/-! ### What choices yield -/

/-- A value of a script. -/
inductive Found where
  | undefined
  | text (value : String)
  | expression (value : Expression)
deriving Repr

/-- Whether an expression's value counts as false. -/
def Expression.isFalse : Expression → Bool
  | .null => true
  | .text value => value.isEmpty
  | _ => false

def Found.isFalse : Found → Bool
  | .undefined => true
  | .text value => value.isEmpty
  | .expression value => value.isFalse

def Found.isMissing : Found → Bool
  | .undefined => true
  | .expression .null => true
  | _ => false

/-- The values of names, and the maps by their names. -/
structure Surroundings where
  values : List (String × Found)
  maps : List (String × List (String × Expression))

def Found.ofOption (found : Option Expression) : Found :=
  (found.map Found.expression).getD .undefined

/-- What a choice yields; nothing if it uses a name that has no value. -/
def Choice.eval? (surroundings : Surroundings) : Choice → Option Found
  | .name wanted => Keyed.get? wanted surroundings.values
  | .entry map key => do
    let entries ← Keyed.get? map surroundings.maps
    match ← key.eval? surroundings with
    | .text key => some (.ofOption (Keyed.get? key entries))
    | _ => some .undefined
  | .fallBack operator first second => do
    let found ← first.eval? surroundings
    let fallsBack :=
      match operator with
      | .orElse => found.isFalse
      | .ifMissing => found.isMissing
    if fallsBack then second.eval? surroundings else some found

/-! ### The rule of a component -/

/-- What is behind the first mark in a text. -/
def behind? (mark : List Char) : List Char → Option (List Char)
  | [] => if mark.isEmpty then some [] else none
  | c :: rest =>
    match (c :: rest).dropPrefix? mark with
    | some found => some found
    | none => behind? mark rest

/-- What is in front of the first mark in a text. -/
def before? (mark : List Char) : List Char → Option (List Char)
  | [] => if mark.isEmpty then some [] else none
  | c :: rest =>
    if mark.isPrefixOf (c :: rest) then some [] else (before? mark rest).map (c :: ·)

/-- The rule by which a component chooses what it shows: the name of a variant
that it uses where none is requested, and a choice. -/
structure Rule where
  fallback : String
  choice : Choice
deriving DecidableEq, Repr

def Rule.read? (text : List Char) : Option Rule := do
  let declared ← behind? "const DEFAULT_VARIANT: IconVariant = \"".toList text
  let (pieces, _) ← Json5.cutString? '"' declared
  let fallback ← stringValue? pieces
  let chosen ← behind? "const selectedVariant =".toList text
  let written ← before? "\n\n".toList chosen
  let choice ← Choice.read? written
  some ⟨fallback, choice⟩

/-- What a component knows that is given no children: the variant that is
requested, if one is, and the map of the variants. -/
def knowing (fallback : String) (pairs : List (String × Expression))
    (requested : Option String) : Surroundings where
  values :=
    [("children", .undefined), ("variant", (requested.map Found.text).getD .undefined),
     ("DEFAULT_VARIANT", .text fallback)]
  maps := [("variants", mapOfPairs pairs)]

/-- What a component shows by a rule. -/
def Rule.select? (rule : Rule) (pairs : List (String × Expression)) (requested : Option String) :
    Option Found :=
  rule.choice.eval? (knowing rule.fallback pairs requested)

/-- The choice of what the map holds for a requested variant, or else for the
fallback. -/
def variantChoice : Choice :=
  .fallBack .orElse
    (.fallBack .orElse (.name "children")
      (.entry "variants" (.fallBack .ifMissing (.name "variant") (.name "DEFAULT_VARIANT"))))
    (.entry "variants" (.name "DEFAULT_VARIANT"))

variable {pairs : List (String × Expression)}

theorem eval?_entry {surroundings : Surroundings} {map key : String} {wanted : Choice}
    (isMap : Keyed.get? map surroundings.maps = some pairs)
    (isKey : wanted.eval? surroundings = some (.text key)) :
    Choice.eval? surroundings (.entry map wanted) = some (.ofOption (Keyed.get? key pairs)) := by
  rw [Choice.eval?, isMap, isKey]
  rfl

/-- Of what a map may hold under two keys, the first counts as false just if it
is missing. -/
theorem eval?_orElse {surroundings : Surroundings} {first second : Choice}
    {found other : Option Expression}
    (isFirst : first.eval? surroundings = some (.ofOption found))
    (isSecond : second.eval? surroundings = some (.ofOption other))
    (isTrue : ∀ expression ∈ found, expression.isFalse = false) :
    Choice.eval? surroundings (.fallBack .orElse first second) =
      some (.ofOption (found.or other)) := by
  rw [Choice.eval?, isFirst]
  cases found with
  | none => exact isSecond
  | some expression =>
    have holds : (Found.ofOption (some expression)).isFalse = false := isTrue expression rfl
    simp only [Option.bind_eq_bind, Option.bind_some, holds]
    rfl

/-- If no expression of the map counts as false, the component shows what the
map holds for the requested variant or else for the fallback. -/
theorem select?_variantChoice (distinct : (pairs.map Prod.fst).Nodup)
    (noneFalse : ∀ pair ∈ pairs, pair.2.isFalse = false) (fallback : String)
    (requested : Option String) :
    Rule.select? ⟨fallback, variantChoice⟩ pairs requested =
      some (.ofOption
        ((Keyed.get? (requested.getD fallback) pairs).or (Keyed.get? fallback pairs))) := by
  have isMap : Keyed.get? "variants" (knowing fallback pairs requested).maps = some pairs :=
    congrArg some (mapOfPairs_of_nodup distinct)
  have noChildren : Choice.eval? (knowing fallback pairs requested) (.name "children") =
      some (.ofOption none) := rfl
  have isWanted : Choice.eval? (knowing fallback pairs requested)
      (.fallBack .ifMissing (.name "variant") (.name "DEFAULT_VARIANT")) =
        some (.text (requested.getD fallback)) := by
    cases requested <;> rfl
  have isFallback : Choice.eval? (knowing fallback pairs requested) (.name "DEFAULT_VARIANT") =
      some (.text fallback) := rfl
  have isTrue (key : String) : ∀ expression ∈ Keyed.get? key pairs, expression.isFalse = false :=
    fun expression found => noneFalse _ (Keyed.mem_of_get? found)
  have first := eval?_orElse noChildren (eval?_entry isMap isWanted) nofun
  exact eval?_orElse first (eval?_entry isMap isFallback) (isTrue _)

end IconForge.Script.Reader
