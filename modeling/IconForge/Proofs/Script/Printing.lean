import IconForge.Proofs.Script.RoundTrip

/-!
Contract: expressions laid out as the text of a script.

Owns:
- the text of an expression, with the items of a list on lines of their own;
- that what is written for a drawing is the text of the expression that it means, whatever
  its names are;
- the calls in an expression, and that those of a drawing are one for each element inside
  it, with its tag and its object of properties.

Main statements: `rootExpression_eq_layout`, `objects_rootMeaning`, `mem_tags_rootMeaning`.

Does not own: which of these texts can be read back.
-/

namespace IconForge.Script.Reader

open IconForge.Svg

/-! ### Expressions as texts -/

def PropValue.layout : PropValue → String
  | .number value => toString value
  | .text value => literal value

def propLayout (property : String × PropValue) : String :=
  key property.1 ++ ": " ++ property.2.layout

def propsLayout : Option (List (String × PropValue)) → String
  | none => "null"
  | some props => "\x7b" ++ String.intercalate ", " (props.map propLayout) ++ "\x7d"

/-- What stands in front of a line that is so many levels deep. -/
def lineStart (indent : String) : Nat → String
  | 0 => indent
  | depth + 1 => lineStart indent depth ++ "  "

/-- A list on lines that start in one way, and end in another in front of its bracket. -/
def listLayout (inner outer : String) (items : List String) : String :=
  "[\n" ++ inner ++ String.intercalate (",\n" ++ inner) items ++ "\n" ++ outer ++ "]"

def createLayout (tag props : String) (arguments : List String) : String :=
  "React.createElement(" ++ tag ++ ", " ++ props ++ String.join (arguments.map (", " ++ ·)) ++ ")"

mutual

/-- The text of an expression that is so many levels deep. The arguments of a call are one
level deeper, and so are the lines of a list that is one of them. -/
def Expression.layout (indent : String) (depth : Nat) : Expression → String
  | .null => "null"
  | .text value => literal value
  | .list items =>
    listLayout (lineStart indent depth) (lineStart indent (depth - 1))
      (layoutAll indent depth items)
  | .create tag props arguments =>
    createLayout (String.intercalate "." tag) (propsLayout props)
      (layoutAll indent (depth + 1) arguments)

def layoutAll (indent : String) (depth : Nat) : List Expression → List String
  | [] => []
  | expression :: rest => expression.layout indent depth :: layoutAll indent depth rest

end

/-! ### Elements and calls -/

/-- An element inside a drawing, with its place among its siblings. -/
structure Placed where
  place : Nat
  name : String
  attributes : Attributes

namespace Placed

def tag (element : Placed) : List String :=
  ["SVG", Naming.capitalize element.name]

def props (element : Placed) : List (String × PropValue) :=
  propsMeaning (some element.place) element.attributes

end Placed

mutual

/-- A node's elements, itself included, in document order. -/
def placed (place : Nat) : Node → List Placed
  | .text _ => []
  | .element name attributes children => ⟨place, name, attributes⟩ :: placedAll 0 children

/-- The elements of neighbouring nodes, of which the first has the given place. -/
def placedAll (place : Nat) : List Node → List Placed
  | [] => []
  | node :: rest => placed place node ++ placedAll (place + 1) rest

end

/-- The elements inside a drawing, its root left out, in document order. -/
def inside : Node → List Placed
  | .text _ => []
  | .element _ _ children => placedAll 0 children

mutual

/-- The calls in an expression, outermost first, each by its tag and its properties. -/
def Expression.calls : Expression → List (List String × Option (List (String × PropValue)))
  | .null => []
  | .text _ => []
  | .list items => callsAll items
  | .create tag props arguments => (tag, props) :: callsAll arguments

def callsAll : List Expression → List (List String × Option (List (String × PropValue)))
  | [] => []
  | expression :: rest => expression.calls ++ callsAll rest

end

/-- The objects of properties in an expression. -/
def Expression.objects (expression : Expression) : List (List (String × PropValue)) :=
  expression.calls.filterMap Prod.snd

/-- The tags in an expression. -/
def Expression.tags (expression : Expression) : List (List String) :=
  expression.calls.map Prod.fst

/-! ### What is written is laid out -/

variable {indent : String} {node : Node}

theorem propsLayout_propsMeaning (place : Option Nat) (attributes : Attributes) :
    propsLayout (some (propsMeaning place attributes)) = props place attributes := by
  have isKey : key "key" = "key" := by decide
  have onPlace : (propLayout ∘ fun index => ("key", PropValue.number index)) =
      fun index => "key: " ++ toString index := by
    funext index
    have isStart : "key: " = "key" ++ ": " := rfl
    rw [Function.comp_apply, propLayout, isKey, isStart]
    rfl
  simp only [propsLayout, propsMeaning, props, List.map_append, List.map_map, onPlace]
  rfl

theorem call_nil (indent called properties : String) :
    call indent called properties [] = createLayout called properties [] := by
  unfold call createLayout
  rw [List.map_nil, String.join_nil, String.append_empty]

theorem call_singleton (indent called properties child : String) :
    call indent called properties [child] = createLayout called properties [child] := by
  unfold call createLayout
  rw [List.map_cons, List.map_nil, String.join_cons, String.join_nil, String.append_empty]
  simp only [String.append_assoc]

theorem call_cons_cons (indent called properties first second : String) (others : List String) :
    call indent called properties (first :: second :: others) =
      createLayout called properties
        [listLayout (indent ++ "  ") indent (first :: second :: others)] := by
  unfold call createLayout indentedList listLayout
  rw [List.map_cons, List.map_nil, String.join_cons, String.join_nil, String.append_empty]
  simp only [String.append_assoc]

/-- A call is laid out as it is written, its arguments one level deeper. -/
theorem call_layoutAll (indent : String) (depth : Nat) (tag : List String)
    (props : Option (List (String × PropValue))) (items : List Expression) :
    call (lineStart indent depth) (String.intercalate "." tag) (propsLayout props)
        (layoutAll indent (depth + 1) items) =
      (Expression.create tag props (argumentsMeaning items)).layout indent depth := by
  rw [Expression.layout]
  match items with
  | [] => exact call_nil _ _ _
  | [item] => exact call_singleton _ _ _ _
  | first :: second :: others => exact call_cons_cons _ _ _ _ _ _

mutual

theorem nodeExpression_eq_layout (depth : Nat) (place : Option Nat) (node : Node) :
    nodeExpression (lineStart indent depth) place node =
      (nodeMeaning place node).map (Expression.layout indent depth) := by
  cases node with
  | text value =>
    rw [nodeExpression, nodeMeaning]
    split
    · rfl
    · rw [Option.map_some, Expression.layout]
  | element name attributes children =>
    have inner := siblingExpressions_eq_layoutAll (depth + 1) 0 children
    rw [lineStart] at inner
    have isTag : component name = String.intercalate "." ["SVG", Naming.capitalize name] :=
      component_eq name
    rw [nodeExpression, nodeMeaning, Option.map_some, inner, isTag, ← propsLayout_propsMeaning,
      call_layoutAll]

theorem siblingExpressions_eq_layoutAll (depth place : Nat) (nodes : List Node) :
    siblingExpressions (lineStart indent depth) place nodes =
      layoutAll indent depth (siblingsMeaning place nodes) := by
  cases nodes with
  | nil => rfl
  | cons node rest =>
    rw [siblingExpressions, siblingsMeaning, nodeExpression_eq_layout depth (some place) node,
      siblingExpressions_eq_layoutAll depth (place + 1) rest]
    cases nodeMeaning (some place) node with
    | none => rfl
    | some meaning => rfl

end

/-- A single expression is one level deep, as it is inside a fragment. -/
theorem groupExpression_layoutAll (items : List Expression) :
    ∃ depth, ∀ indent, groupExpression indent (layoutAll indent 1 items) =
      (groupMeaning items).layout indent depth := by
  match items with
  | [] => exact ⟨0, fun indent => call_layoutAll indent 0 ["React", "Fragment"] none []⟩
  | [item] => exact ⟨1, fun indent => rfl⟩
  | first :: second :: others =>
    exact ⟨0, fun indent =>
      call_layoutAll indent 0 ["React", "Fragment"] none (first :: second :: others)⟩

/-- What is written for a drawing is the text of the expression that it means, as deep as
that is with every indent. -/
theorem exists_layout_rootExpression (node : Node) :
    ∃ depth, ∀ indent, rootExpression indent node = (rootMeaning node).layout indent depth := by
  by_cases isSvg : node.name? = some "svg"
  · cases node with
    | text value => cases isSvg
    | element name attributes children =>
      cases isSvg
      obtain ⟨depth, laidOut⟩ := groupExpression_layoutAll (siblingsMeaning 0 children)
      refine ⟨depth, fun indent => ?_⟩
      have inner : siblingExpressions (indent ++ "  ") 0 children =
          layoutAll indent 1 (siblingsMeaning 0 children) :=
        siblingExpressions_eq_layoutAll 1 0 children
      rw [rootExpression_svg, inner]
      exact laidOut indent
  · refine ⟨0, fun indent => ?_⟩
    have same : nodeExpression indent none node =
        (nodeMeaning none node).map (Expression.layout indent 0) :=
      nodeExpression_eq_layout 0 none node
    rw [rootMeaning_of_name? isSvg, rootExpression_of_name? indent isSvg, same]
    cases nodeMeaning none node with
    | none => rfl
    | some meaning => rfl

/-- What is written for a drawing is the text of the expression that it means. -/
theorem rootExpression_eq_layout (indent : String) (node : Node) :
    ∃ depth, rootExpression indent node = (rootMeaning node).layout indent depth := by
  obtain ⟨depth, laidOut⟩ := exists_layout_rootExpression node
  exact ⟨depth, laidOut indent⟩

/-! ### The calls of a drawing -/

theorem callsAll_append (front back : List Expression) :
    callsAll (front ++ back) = callsAll front ++ callsAll back := by
  induction front with
  | nil => rfl
  | cons expression rest inductionHypothesis =>
    rw [List.cons_append, callsAll, callsAll, inductionHypothesis, List.append_assoc]

theorem callsAll_argumentsMeaning (items : List Expression) :
    callsAll (argumentsMeaning items) = callsAll items := by
  match items with
  | [] => rfl
  | [_] => rfl
  | first :: second :: others =>
    change callsAll [.list (first :: second :: others)] = _
    rw [callsAll, callsAll, Expression.calls, List.append_nil]

mutual

theorem callsAll_nodeMeaning (place : Nat) (node : Node) :
    callsAll (nodeMeaning (some place) node).toList =
      (placed place node).map fun element => (element.tag, some element.props) := by
  cases node with
  | text value =>
    rw [nodeMeaning]
    split <;> rfl
  | element name attributes children =>
    rw [nodeMeaning, Option.toList_some, callsAll, callsAll, Expression.calls,
      callsAll_argumentsMeaning, callsAll_siblingsMeaning 0 children, List.append_nil, placed,
      List.map_cons]
    rfl

theorem callsAll_siblingsMeaning (place : Nat) (nodes : List Node) :
    callsAll (siblingsMeaning place nodes) =
      (placedAll place nodes).map fun element => (element.tag, some element.props) := by
  cases nodes with
  | nil => rfl
  | cons node rest =>
    rw [siblingsMeaning, callsAll_append, callsAll_nodeMeaning place node,
      callsAll_siblingsMeaning (place + 1) rest, placedAll, List.map_append]

end

/-- The call of a fragment, which has no properties. -/
def fragmentCall : List String × Option (List (String × PropValue)) :=
  (["React", "Fragment"], none)

/-- The calls of a drawing are those of the elements inside it, perhaps in a fragment. -/
theorem calls_rootMeaning {node : Node} (root : node.name? = some "svg") :
    ∃ around, (around = [] ∨ around = [fragmentCall]) ∧
      (rootMeaning node).calls =
        around ++ (inside node).map fun element => (element.tag, some element.props) := by
  cases node with
  | text value => cases root
  | element name attributes children =>
    cases root
    rw [inside, ← callsAll_siblingsMeaning]
    change ∃ around, _ ∧ (groupMeaning (siblingsMeaning 0 children)).calls = _
    match siblingsMeaning 0 children with
    | [] => exact ⟨[fragmentCall], Or.inr rfl, rfl⟩
    | [item] =>
      refine ⟨[], Or.inl rfl, ?_⟩
      rw [callsAll, callsAll, List.append_nil, List.nil_append]
      rfl
    | first :: second :: others =>
      refine ⟨[fragmentCall], Or.inr rfl, ?_⟩
      rw [← callsAll_argumentsMeaning]
      rfl

/-- The objects of properties that are written for a drawing are those of the elements
inside it, in document order. -/
theorem objects_rootMeaning {node : Node} (root : node.name? = some "svg") :
    (rootMeaning node).objects = (inside node).map Placed.props := by
  obtain ⟨around, isAround, calls⟩ := calls_rootMeaning root
  have noObject : around.filterMap Prod.snd = [] := by
    rcases isAround with rfl | rfl <;> rfl
  rw [Expression.objects, calls, List.filterMap_append, noObject, List.nil_append,
    List.filterMap_map]
  exact congrFun List.filterMap_eq_map _

theorem tag_mem_tags {node : Node} (root : node.name? = some "svg") {element : Placed}
    (isInside : element ∈ inside node) : element.tag ∈ (rootMeaning node).tags := by
  obtain ⟨around, -, calls⟩ := calls_rootMeaning root
  rw [Expression.tags, calls, List.map_append, List.map_map]
  exact List.mem_append_right _ (List.mem_map.mpr ⟨element, isInside, rfl⟩)

/-- A tag that is written for a drawing is that of an element inside it, or the one of
fragments. -/
theorem mem_tags_rootMeaning {node : Node} (root : node.name? = some "svg") {tag : List String}
    (member : tag ∈ (rootMeaning node).tags) :
    tag = fragmentCall.1 ∨ ∃ element ∈ inside node, tag = element.tag := by
  obtain ⟨around, isAround, calls⟩ := calls_rootMeaning root
  rw [Expression.tags, calls, List.map_append, List.mem_append, List.map_map] at member
  rcases member with inFront | behind
  · rcases isAround with rfl | rfl
    · cases inFront
    · exact Or.inl (List.mem_singleton.mp inFront)
  · obtain ⟨element, isInside, rfl⟩ := List.mem_map.mp behind
    exact Or.inr ⟨element, isInside, rfl⟩

end IconForge.Script.Reader
