import IconForge.Proofs.Script.Layout

/-!
Contract: drawings written as expressions, read back.

Owns:
- the expression that a drawing means;
- that the text which is written for a drawing is read as that expression,
  whatever its texts and attribute values hold;
- what another choice of texts and values changes about the expression.

Main statement: `read?_rootExpression`.

Does not own: how the parts of an expression are laid out.
-/

namespace IconForge.Script.Reader

open IconForge.Svg

/-! ### What a drawing means -/

/-- The properties that an element gets: its place among its siblings, if it
has one, and its attributes but for the fill. -/
def propsMeaning (place : Option Nat) (attributes : Attributes) : List (String × PropValue) :=
  (place.toList.map fun index => ("key", .number index)) ++
    (attributes.entries.filter fun pair => pair.1 != "fill").map fun pair =>
      (propName pair.1, .text pair.2)

/-- Children as what stands behind the properties of their element: nothing, a
single child as it is, several as a list. -/
def argumentsMeaning : List Expression → List Expression
  | [] => []
  | [child] => [child]
  | children => [.list children]

mutual

/-- The expression that a node means; an empty text means none. -/
def nodeMeaning (place : Option Nat) : Node → Option Expression
  | .text value => if value.isEmpty then none else some (.text value)
  | .element name attributes children =>
    some (.create ["SVG", Naming.capitalize name] (some (propsMeaning place attributes))
      (argumentsMeaning (siblingsMeaning 0 children)))

/-- The expressions that neighbouring nodes mean, of which the first has the
given place. -/
def siblingsMeaning (place : Nat) : List Node → List Expression
  | [] => []
  | node :: rest => (nodeMeaning (some place) node).toList ++ siblingsMeaning (place + 1) rest

end

/-- Expressions as a single one: one as it is, none or several in a fragment. -/
def groupMeaning : List Expression → Expression
  | [expression] => expression
  | expressions => .create ["React", "Fragment"] none (argumentsMeaning expressions)

/-- The expression that a whole drawing means: of an `svg` only what is inside
it. -/
def rootMeaning : Node → Expression
  | .element "svg" _ children => groupMeaning (siblingsMeaning 0 children)
  | node => (nodeMeaning none node).getD .null

mutual

/-- The names of all elements of a node. -/
def elementNames : Node → List String
  | .text _ => []
  | .element name _ children => name :: elementNamesAll children

/-- The names of all elements of neighbouring nodes. -/
def elementNamesAll : List Node → List String
  | [] => []
  | node :: rest => elementNames node ++ elementNamesAll rest

end

/-- Whether every element's name becomes an identifier with its first character
in upper form. -/
def HasIdentifiers (alphabet : Alphabet) (names : List String) : Prop :=
  ∀ name ∈ names, alphabet.isIdentifier (Naming.capitalize name) = true

/-! ### What is written is what is meant -/

variable {alphabet : Alphabet} {indent first second propText : String} {node : Node}
  {props : Option (List (String × PropValue))} {texts : List String} {items : List Expression}

theorem reads_call (spaces : ∀ c ∈ indent.toList, c = ' ')
    (isFirst : alphabet.isIdentifier first = true) (isSecond : alphabet.isIdentifier second = true)
    (readsProps : ReadsProps alphabet propText props)
    (each : List.Forall₂ (Reads alphabet) texts items) :
    Reads alphabet (call indent (first ++ ("." ++ second)) propText texts)
      (.create [first, second] props (argumentsMeaning items)) := by
  cases each with
  | nil => exact reads_create isFirst isSecond readsProps readsEnd_nothing
  | cons reads others =>
    cases others with
    | nil => exact reads_create_argument isFirst isSecond readsProps reads
    | cons next others =>
      have readsAll := reads_indentedList spaces (.cons reads (.cons next others))
      exact reads_create_argument isFirst isSecond readsProps readsAll

theorem lexes_key (alphabet : Alphabet) (name : String) :
    ∃ token, Lexes alphabet (key name) [token] ∧ (token = .word name ∨ token = .string name) := by
  unfold key
  split
  · next identifier =>
    exact ⟨_, lexes_word (alphabet.isIdentifier_of_ascii identifier), Or.inl rfl⟩
  · exact ⟨_, lexes_literal name, Or.inr rfl⟩

/-- A key may stand as a word or as a literal; the machine takes either. -/
theorem readsProp_prop (pair : String × String) :
    ReadsProp alphabet (prop pair) (propName pair.1, .text pair.2) := by
  obtain ⟨token, lexesKey, isKey⟩ := lexes_key alphabet (propName pair.1)
  have colon : symbols? ": ".toList = some [.mark ':'] := rfl
  have lexes := lexes_append lexesKey (lexes_symbols_append colon (lexes_literal pair.2))
    (breaks_of_head alphabet rfl (by decide) _)
  rw [prop, String.append_assoc]
  refine ⟨_, lexes, fun tag done frames => ?_⟩
  rcases isKey with rfl | rfl <;> rfl

theorem readsProp_place (index : Nat) :
    ReadsProp alphabet ("key: " ++ toString index) ("key", .number index) := by
  have isKey : Lexes alphabet "key" [.word "key"] :=
    lexes_word (alphabet.isIdentifier_of_ascii (by decide))
  have colon : symbols? ": ".toList = some [.mark ':'] := rfl
  have lexes := lexes_append isKey (lexes_symbols_append colon (lexes_number index))
    (breaks_of_head alphabet rfl (by decide) _)
  have isStart : "key: " = "key" ++ ": " := rfl
  rw [isStart, String.append_assoc]
  exact ⟨_, lexes, fun _ _ _ => rfl⟩

theorem readsProps_props (place : Option Nat) (attributes : Attributes) :
    ReadsProps alphabet (Script.props place attributes) (some (propsMeaning place attributes)) := by
  apply readsProps_object
  apply List.rel_append
  · cases place with
    | none => exact .nil
    | some index => exact .cons (readsProp_place index) .nil
  · rw [List.forall₂_map_left_iff, List.forall₂_map_right_iff, List.forall₂_same]
    exact fun pair _ => readsProp_prop pair

theorem component_eq (name : String) :
    component name = "SVG" ++ ("." ++ Naming.capitalize name) := by
  have isStart : "SVG." = "SVG" ++ "." := rfl
  rw [component, isStart, String.append_assoc]

theorem spaces_deeper (spaces : ∀ c ∈ indent.toList, c = ' ') :
    ∀ c ∈ (indent ++ "  ").toList, c = ' ' := by
  rw [String.toList_append, List.forall_mem_append]
  exact ⟨spaces, by simp⟩

-- The indent is bound in each statement, since it grows from a node to its children.
mutual

theorem reads_node {indent : String} (spaces : ∀ c ∈ indent.toList, c = ' ')
    (place : Option Nat) (node : Node) (identifiers : HasIdentifiers alphabet (elementNames node)) :
    List.Forall₂ (Reads alphabet) (nodeExpression indent place node).toList
      (nodeMeaning place node).toList := by
  cases node with
  | text value =>
    unfold nodeExpression nodeMeaning
    split
    · exact .nil
    · exact .cons (reads_literal value) .nil
  | element name attributes children =>
    obtain ⟨isName, inside⟩ := List.forall_mem_cons.mp identifiers
    have readsChildren := reads_siblings (spaces_deeper spaces) 0 children inside
    have isPrimitives : alphabet.isIdentifier "SVG" = true :=
      alphabet.isIdentifier_of_ascii (by decide)
    unfold nodeExpression nodeMeaning
    rw [component_eq]
    exact .cons
      (reads_call spaces isPrimitives isName (readsProps_props place attributes) readsChildren) .nil

theorem reads_siblings {indent : String} (spaces : ∀ c ∈ indent.toList, c = ' ')
    (place : Nat) (nodes : List Node)
    (identifiers : HasIdentifiers alphabet (elementNamesAll nodes)) :
    List.Forall₂ (Reads alphabet) (siblingExpressions indent place nodes)
      (siblingsMeaning place nodes) := by
  cases nodes with
  | nil => exact .nil
  | cons node rest =>
    obtain ⟨here, behind⟩ := List.forall_mem_append.mp identifiers
    exact List.rel_append (reads_node spaces (some place) node here)
      (reads_siblings spaces (place + 1) rest behind)

end

theorem reads_getD {text? : Option String} {meaning? : Option Expression}
    (each : List.Forall₂ (Reads alphabet) text?.toList meaning?.toList) :
    Reads alphabet (text?.getD "null") (meaning?.getD .null) := by
  cases text? with
  | none =>
    cases meaning? with
    | none => exact reads_null
    | some meaning => cases each
  | some text =>
    cases meaning? with
    | none => cases each
    | some meaning =>
      cases each with
      | cons reads _ => exact reads

theorem rootMeaning_of_name? (noSvg : node.name? ≠ some "svg") :
    rootMeaning node = (nodeMeaning none node).getD .null := by
  unfold rootMeaning
  split
  · exact absurd rfl noSvg
  · rfl

/-- The expressions inside a drawing as a single one: one as it is, none or several in a
fragment. -/
def groupExpression (indent : String) : List String → String
  | [expression] => expression
  | expressions => call indent fragment "null" expressions

theorem rootExpression_svg (indent : String) (attributes : Attributes) (children : List Node) :
    rootExpression indent (.element "svg" attributes children) =
      groupExpression indent (siblingExpressions (indent ++ "  ") 0 children) := by
  unfold rootExpression groupExpression
  rfl

theorem rootExpression_of_name? (indent : String) (noSvg : node.name? ≠ some "svg") :
    rootExpression indent node = (nodeExpression indent none node).getD "null" := by
  unfold rootExpression
  split
  · exact absurd rfl noSvg
  · rfl

theorem reads_group (spaces : ∀ c ∈ indent.toList, c = ' ')
    (each : List.Forall₂ (Reads alphabet) texts items) :
    Reads alphabet (groupExpression indent texts) (groupMeaning items) := by
  have isReact : alphabet.isIdentifier "React" = true :=
    alphabet.isIdentifier_of_ascii (by decide)
  have isFragment : alphabet.isIdentifier "Fragment" = true :=
    alphabet.isIdentifier_of_ascii (by decide)
  have readsFragment := reads_call spaces isReact isFragment readsProps_null each
  cases each with
  | nil => exact readsFragment
  | cons reads others =>
    cases others with
    | nil => exact reads
    | cons _ _ => exact readsFragment

theorem reads_root (spaces : ∀ c ∈ indent.toList, c = ' ')
    (identifiers : HasIdentifiers alphabet (elementNames node)) :
    Reads alphabet (rootExpression indent node) (rootMeaning node) := by
  by_cases isSvg : node.name? = some "svg"
  · cases node with
    | text value => cases isSvg
    | element name attributes children =>
      cases isSvg
      obtain ⟨-, inside⟩ := List.forall_mem_cons.mp identifiers
      rw [rootExpression_svg]
      exact reads_group spaces (reads_siblings (spaces_deeper spaces) 0 children inside)
  · rw [rootMeaning_of_name? isSvg, rootExpression_of_name? indent isSvg]
    exact reads_getD (reads_node spaces none node identifiers)

/-! ### What texts and values change -/

/-- The attributes with other values under the same keys. -/
def mapValues (content : String → String) (attributes : Attributes) : Attributes where
  entries := attributes.entries.map fun pair => (pair.1, content pair.2)
  distinct := by
    rw [List.map_map]
    exact attributes.distinct

/-- The node with other texts and attribute values. -/
def mapContents (content : String → String) : Node → Node
  | .text value => .text (content value)
  | .element name attributes children =>
    .element name (mapValues content attributes) (children.map (mapContents content))

def PropValue.map (content : String → String) : PropValue → PropValue
  | .number value => .number value
  | .text value => .text (content value)

/-- The expression with other texts and other properties that are texts. -/
def Expression.map (content : String → String) : Expression → Expression
  | .null => .null
  | .text value => .text (content value)
  | .list items => .list (items.map (Expression.map content))
  | .create tag props arguments =>
    .create tag (props.map fun pairs => pairs.map fun pair => (pair.1, pair.2.map content))
      (arguments.map (Expression.map content))

variable {content : String → String}

theorem propsMeaning_mapValues (content : String → String) (place : Option Nat)
    (attributes : Attributes) :
    propsMeaning place (mapValues content attributes) =
      (propsMeaning place attributes).map fun pair => (pair.1, pair.2.map content) := by
  unfold propsMeaning mapValues
  rw [List.map_append, List.filter_map, List.map_map, List.map_map, List.map_map]
  rfl

theorem argumentsMeaning_map (content : String → String) (items : List Expression) :
    argumentsMeaning (items.map (Expression.map content)) =
      (argumentsMeaning items).map (Expression.map content) := by
  match items with
  | [] => rfl
  | [_] => rfl
  | _ :: _ :: _ =>
    simp only [argumentsMeaning, List.map_cons, List.map_nil, Expression.map]

mutual

theorem nodeMeaning_mapContents (keeps : ∀ text, (content text).isEmpty = text.isEmpty)
    (place : Option Nat) (node : Node) :
    nodeMeaning place (mapContents content node) =
      (nodeMeaning place node).map (Expression.map content) := by
  cases node with
  | text value =>
    rw [mapContents, nodeMeaning, nodeMeaning, keeps]
    split
    · rfl
    · rw [Option.map_some, Expression.map]
  | element name attributes children =>
    rw [mapContents, nodeMeaning, nodeMeaning, Option.map_some, Expression.map,
      siblingsMeaning_mapContents keeps 0 children, argumentsMeaning_map,
      propsMeaning_mapValues]
    rfl

theorem siblingsMeaning_mapContents (keeps : ∀ text, (content text).isEmpty = text.isEmpty)
    (place : Nat) (nodes : List Node) :
    siblingsMeaning place (nodes.map (mapContents content)) =
      (siblingsMeaning place nodes).map (Expression.map content) := by
  cases nodes with
  | nil => rfl
  | cons node rest =>
    rw [List.map_cons, siblingsMeaning, siblingsMeaning, List.map_append,
      nodeMeaning_mapContents keeps (some place) node,
      siblingsMeaning_mapContents keeps (place + 1) rest, Option.toList_map]

end

theorem groupMeaning_map (content : String → String) (items : List Expression) :
    groupMeaning (items.map (Expression.map content)) =
      (groupMeaning items).map content := by
  match items with
  | [] => simp only [groupMeaning, argumentsMeaning, List.map_nil, Expression.map, Option.map_none]
  | [_] => rfl
  | first :: second :: others =>
    have arguments := argumentsMeaning_map content (first :: second :: others)
    simp only [List.map_cons] at arguments ⊢
    simp only [groupMeaning, Expression.map, Option.map_none, arguments]

theorem name?_mapContents (content : String → String) (node : Node) :
    (mapContents content node).name? = node.name? := by
  cases node <;> simp only [mapContents, Node.name?]

theorem rootMeaning_mapContents (keeps : ∀ text, (content text).isEmpty = text.isEmpty)
    (node : Node) : rootMeaning (mapContents content node) = (rootMeaning node).map content := by
  by_cases isSvg : node.name? = some "svg"
  · cases node with
    | text value => cases isSvg
    | element name attributes children =>
      cases isSvg
      rw [mapContents]
      change groupMeaning (siblingsMeaning 0 (children.map (mapContents content))) =
        (groupMeaning (siblingsMeaning 0 children)).map content
      rw [siblingsMeaning_mapContents keeps, groupMeaning_map]
  · have noSvg := isSvg
    rw [← name?_mapContents content] at noSvg
    rw [rootMeaning_of_name? noSvg, rootMeaning_of_name? isSvg, nodeMeaning_mapContents keeps]
    cases nodeMeaning none node with
    | none => rw [Option.map_none, Option.getD_none, Expression.map]
    | some meaning => rfl

mutual

theorem elementNames_mapContents (content : String → String) (node : Node) :
    elementNames (mapContents content node) = elementNames node := by
  cases node with
  | text value =>
    rw [mapContents]
    rfl
  | element name attributes children =>
    rw [mapContents, elementNames, elementNames, elementNamesAll_mapContents content children]

theorem elementNamesAll_mapContents (content : String → String) (nodes : List Node) :
    elementNamesAll (nodes.map (mapContents content)) = elementNamesAll nodes := by
  cases nodes with
  | nil => rfl
  | cons node rest =>
    rw [List.map_cons, elementNamesAll, elementNamesAll, elementNames_mapContents content node,
      elementNamesAll_mapContents content rest]

end

/-- What is written for a drawing is read, as a whole, as the expression that
the drawing means. Other texts and attribute values, as long as the same ones
are empty, change nothing about it but these texts and values. -/
theorem read?_rootExpression (alphabet : Alphabet) {indent : String} {node : Node}
    (spaces : ∀ c ∈ indent.toList, c = ' ')
    (identifiers : HasIdentifiers alphabet (elementNames node)) :
    Expression.read? alphabet (rootExpression indent node) = some (rootMeaning node) ∧
      ∀ content : String → String, (∀ text, (content text).isEmpty = text.isEmpty) →
        Expression.read? alphabet (rootExpression indent (mapContents content node)) =
          some ((rootMeaning node).map content) := by
  refine ⟨read?_of_reads (reads_root spaces identifiers), fun content keeps => ?_⟩
  rw [← elementNames_mapContents content] at identifiers
  rw [← rootMeaning_mapContents keeps]
  exact read?_of_reads (reads_root spaces identifiers)

/-- A drawing with the marks of expressions in its texts and values. -/
def markedDrawing : Node :=
  .element "svg" Attributes.empty
    [.text "", .element "text" (Attributes.ofList [("fill", "red"), ("data-x", "a\", [\x7b\\")])
      [.text "]\x7d)\n", .text "", .element "tspan" Attributes.empty []]]

theorem read?_rootExpression_marked :
    (∀ c ∈ "  ".toList, c = ' ') ∧ HasIdentifiers .unicode (elementNames markedDrawing) ∧
      Expression.read? .unicode (rootExpression "  " markedDrawing) =
        some (.create ["SVG", "Text"]
          (some [("key", .number 1), ("dataX", .text "a\", [\x7b\\")])
          [.list [.text "]\x7d)\n",
            .create ["SVG", "Tspan"] (some [("key", .number 2)]) []]]) := by
  have spaces : ∀ c ∈ "  ".toList, c = ' ' := by simp
  have identifiers : HasIdentifiers .unicode (elementNames markedDrawing) := by
    unfold HasIdentifiers
    decide +kernel
  exact ⟨spaces, identifiers, (read?_rootExpression .unicode spaces identifiers).1⟩

end IconForge.Script.Reader
