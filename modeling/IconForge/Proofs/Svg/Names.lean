import IconForge.Proofs.Svg.Documents
import IconForge.Proofs.Svg.Elements

/-!
Contract: what the nodes of a tree that has been read are made of.

Owns:
- the texts of a tree, and trees of which no element lacks a name and no text its characters;
- the names and texts of a tree by the marks passed on the way through it;
- that a text is never empty, and that a name is empty exactly if no name stands behind the
  mark with which its tag starts.

Main statement: `isFilled_of_parse`.

Does not own: which other characters names are made of.
-/

namespace IconForge.Svg

mutual

/-- The texts inside a node, in document order. -/
def Node.texts : Node → List String
  | .text value => [value]
  | .element _ _ children => Node.textsAll children

/-- The texts inside neighbouring nodes, in document order. -/
def Node.textsAll : List Node → List String
  | [] => []
  | node :: rest => node.texts ++ Node.textsAll rest

end

/-- A tree of which every element has a name, and every text says something. -/
structure Node.IsFilled (node : Node) : Prop where
  named : ∀ element ∈ node.elements, element.1 ≠ ""
  worded : ∀ value ∈ node.texts, value ≠ ""

/-- What stands in a start tag between the marks at its two ends. -/
def Tag.content (tag : Tag) : List Char :=
  tag.name.toList ++ tag.attributeText

/-- Whether a name stands right behind the mark with which a tag starts: something stands
there, and it is no blank. -/
def Tag.isNamed (tag : Tag) : Bool :=
  tag.content.head?.any fun c => !isSpace c

/-! ### Names and texts on the way through a tree -/

def Mark.name? : Mark → Option String
  | .opens name _ => some name
  | _ => none

def Mark.value? : Mark → Option String
  | .text value => some value
  | _ => none

namespace Node

mutual

theorem filterMap_name?_traversal (node : Node) :
    node.traversal.filterMap Mark.name? = node.elements.map Prod.fst := by
  cases node with
  | text value => rfl
  | element name attributes children =>
    have inside := filterMap_name?_traversalAll children
    simp only [traversal, elements, List.filterMap_cons, List.filterMap_append, List.map_cons,
      Mark.name?, inside, List.filterMap_nil, List.append_nil]

theorem filterMap_name?_traversalAll (nodes : List Node) :
    (traversalAll nodes).filterMap Mark.name? = (elementsAll nodes).map Prod.fst := by
  cases nodes with
  | nil => rfl
  | cons node rest =>
    rw [traversalAll, elementsAll, List.filterMap_append, List.map_append,
      filterMap_name?_traversal node, filterMap_name?_traversalAll rest]

end

mutual

theorem filterMap_value?_traversal (node : Node) :
    node.traversal.filterMap Mark.value? = node.texts := by
  cases node with
  | text value => rfl
  | element name attributes children =>
    have inside := filterMap_value?_traversalAll children
    simp only [traversal, texts, List.filterMap_cons, List.filterMap_append, Mark.value?, inside,
      List.filterMap_nil, List.append_nil]

theorem filterMap_value?_traversalAll (nodes : List Node) :
    (traversalAll nodes).filterMap Mark.value? = textsAll nodes := by
  cases nodes with
  | nil => rfl
  | cons node rest =>
    rw [traversalAll, textsAll, List.filterMap_append, filterMap_value?_traversal node,
      filterMap_value?_traversalAll rest]

end

end Node

/-! ### Names and texts that events tell -/

variable {deliveries : List Delivery} {marks : List Mark} {text : String} {node : Node}

/-- The names that events tell are those of their start tags, one for each. -/
theorem names_of_tells (tells : Tells deliveries marks) :
    marks.filterMap Mark.name? =
      (deliveries.filterMap fun delivery => delivery.event.tag?).map Tag.name := by
  induction tells with
  | nothing => rfl
  | opening _ _ inductionHypothesis => exact congrArg (_ :: ·) inductionHypothesis
  | selfClosing _ _ inductionHypothesis => exact congrArg (_ :: ·) inductionHypothesis
  | closing _ inductionHypothesis => exact inductionHypothesis
  | text _ _ _ inductionHypothesis => exact inductionHypothesis
  | emptyText _ _ inductionHypothesis => exact inductionHypothesis
  | characterData _ _ inductionHypothesis => exact inductionHypothesis
  | emptyCharacterData _ inductionHypothesis => exact inductionHypothesis
  | aside _ inductionHypothesis => exact inductionHypothesis

/-- Events tell no empty text: one that is empty once its references are replaced is left
out, as is empty character data. -/
theorem texts_of_tells (tells : Tells deliveries marks) :
    ∀ value ∈ marks.filterMap Mark.value?, value ≠ "" := by
  induction tells with
  | nothing => exact List.forall_mem_nil _
  | opening _ _ inductionHypothesis => exact inductionHypothesis
  | selfClosing _ _ inductionHypothesis => exact inductionHypothesis
  | closing _ inductionHypothesis => exact inductionHypothesis
  | text _ notEmpty _ inductionHypothesis =>
    exact List.forall_mem_cons.mpr ⟨ofList_ne_empty notEmpty, inductionHypothesis⟩
  | emptyText _ _ inductionHypothesis => exact inductionHypothesis
  | characterData notEmpty _ inductionHypothesis =>
    exact List.forall_mem_cons.mpr ⟨notEmpty, inductionHypothesis⟩
  | emptyCharacterData _ inductionHypothesis => exact inductionHypothesis
  | aside _ inductionHypothesis => exact inductionHypothesis

/-! ### Tags without names -/

/-- Where a tag has no name, what is in it is empty or starts with a blank. -/
theorem isNamed_tagOf (content : List Char) :
    (tagOf content).isNamed = true ↔ (tagOf content).name ≠ "" := by
  rw [Tag.isNamed, Tag.content, ← tagOf_eq, tagOf, ne_eq, String.ofList_eq_empty_iff]
  cases content with
  | nil => exact iff_of_false nofun fun notEmpty => notEmpty rfl
  | cons c rest =>
    rw [List.head?_cons, Option.any_some, List.takeWhile_cons]
    cases isSpace c with
    | true => exact iff_of_false nofun fun notEmpty => notEmpty rfl
    | false => exact iff_of_true rfl (List.cons_ne_nil _ _)

/-- Every start tag that is delivered has been made of what stands in it. -/
theorem exists_tagOf_of_readFrom (opened : List String) (offset : Nat) (text : List Char) :
    ∀ tag ∈ (readFrom opened offset text).deliveries.filterMap fun delivery => delivery.event.tag?,
      ∃ content, tag = tagOf content := by
  fun_induction readFrom opened offset text with
  | case1 => exact List.forall_mem_nil _
  | case2 => exact List.forall_mem_nil _
  | case3 opened offset text place behind construct read stop start following
      inductionHypothesis =>
    have isFrom := from_of_readConstruct read
    intro tag member
    rw [List.filterMap_cons] at member
    cases isFrom with
    | opening =>
      rcases List.mem_cons.mp member with rfl | isLater
      · exact ⟨_, rfl⟩
      · exact inductionHypothesis tag isLater
    | selfClosing =>
      rcases List.mem_cons.mp member with rfl | isLater
      · exact ⟨_, rfl⟩
      · exact inductionHypothesis tag isLater
    | closing => exact inductionHypothesis tag member
    | characterData => exact inductionHypothesis tag member
    | aside => exact inductionHypothesis tag member
  | case4 opened offset text place c behind start isText run stop following
      inductionHypothesis =>
    exact inductionHypothesis

theorem isNamed_iff_of_startTag {tag : Tag} (isTag : tag ∈ startTags text) :
    tag.isNamed = true ↔ tag.name ≠ "" := by
  unfold startTags at isTag
  rw [readDocument_eq] at isTag
  obtain ⟨content, rfl⟩ := exists_tagOf_of_readFrom _ _ _ tag isTag
  exact isNamed_tagOf content

/-! ### Trees that are read -/

/-- The elements of a tree that is read have the names of the text's start tags, in their
order. -/
theorem names_of_parse (parsed : parse text = .ok node) :
    node.elements.map Prod.fst = (startTags text).map Tag.name := by
  have document := ((parse_eq_ok_iff_isDocument text).1 node).mp parsed
  rw [← Node.filterMap_name?_traversal]
  exact names_of_tells document.tellsTree

/-- No text of a tree that is read is empty, and every element has a name exactly if one
stands right behind the mark with which its tag starts: reading does not ask for one. -/
theorem isFilled_of_parse (parsed : parse text = .ok node) :
    (∀ value ∈ node.texts, value ≠ "") ∧
      (node.IsFilled ↔ ∀ tag ∈ startTags text, tag.isNamed = true) := by
  have document := ((parse_eq_ok_iff_isDocument text).1 node).mp parsed
  have worded := texts_of_tells document.tellsTree
  rw [Node.filterMap_value?_traversal] at worded
  refine ⟨worded, ?_⟩
  calc node.IsFilled
      ↔ ∀ element ∈ node.elements, element.1 ≠ "" :=
        ⟨fun filled => filled.named, fun isNamed => ⟨isNamed, worded⟩⟩
    _ ↔ ∀ name ∈ node.elements.map Prod.fst, name ≠ "" :=
        (List.forall_mem_map (P := (· ≠ ""))).symm
    _ ↔ ∀ name ∈ (startTags text).map Tag.name, name ≠ "" := by rw [names_of_parse parsed]
    _ ↔ ∀ tag ∈ startTags text, tag.name ≠ "" := List.forall_mem_map (P := (· ≠ ""))
    _ ↔ ∀ tag ∈ startTags text, tag.isNamed = true :=
        forall₂_congr fun tag isTag => (isNamed_iff_of_startTag isTag).symm

/-- A drawing with blanks between its tags, a referenced blank and empty character data. -/
theorem isFilled_of_parse_blanks :
    ∃ node, parse "<svg >\n<g>&#32;<![CDATA[]]></g> <path/></svg>" = .ok node ∧ node.IsFilled := by
  have parsed : parse "<svg >\n<g>&#32;<![CDATA[]]></g> <path/></svg>" =
      .ok (.element "svg" .empty
        [.element "g" .empty [.text " "], .element "path" .empty []]) := by
    apply readTree_plain_iff.mpr
    constructor
    · decide +kernel
    · rfl
  refine ⟨_, parsed, (isFilled_of_parse parsed).2.mpr ?_⟩
  decide +kernel

/-- A blank behind the mark of a tag makes an element without a name. -/
theorem parse_nameless : ¬∀ text node, parse text = .ok node → node.IsFilled := by
  intro allFilled
  have parsed : parse "<svg>< /></svg>" =
      .ok (.element "svg" .empty [.element "" .empty []]) := by
    apply readTree_plain_iff.mpr
    constructor
    · decide +kernel
    · rfl
  have named := (allFilled _ _ parsed).named ("", .empty)
  exact named (List.mem_cons_of_mem _ List.mem_cons_self) rfl

end IconForge.Svg
