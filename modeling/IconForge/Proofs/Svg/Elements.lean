import IconForge.Proofs.Outcome
import IconForge.Proofs.Svg.RoundTrip
import IconForge.Proofs.Svg.Stability

/-!
Contract: the elements of a tree and the tags that they stem from.

Owns:
- the names and attributes of all elements of a tree, in document order;
- that every element that is read stems from a tag of the text, in either way of reading;
- what is left of names and attributes in a clean tree;
- that a tree is legible if its elements have proper names and free keys, and that its normal
  form has the same elements.

Main statements: `exists_startTag_of_readTree`, `isShown_of_clean`.

Does not own: what happens to texts.
-/

namespace IconForge.Svg

open IconForge.Text

mutual

/-- The names and attributes of a node's elements, in document order. -/
def Node.elements : Node → List (String × Attributes)
  | .text _ => []
  | .element name attributes children => (name, attributes) :: Node.elementsAll children

/-- The names and attributes of all elements of neighbouring nodes, in document order. -/
def Node.elementsAll : List Node → List (String × Attributes)
  | [] => []
  | node :: rest => node.elements ++ Node.elementsAll rest

end

/-- The tag with which an element starts. -/
def Event.tag? : Event → Option Tag
  | .opening tag => some tag
  | .selfClosing tag => some tag
  | _ => none

/-- The tags with which the elements of a text start, those that cleaning leaves out
included. -/
def startTags (text : String) : List Tag :=
  (readDocument text.toList).deliveries.filterMap fun delivery => delivery.event.tag?

/-- Whether a text names elements and attributes so that they mean the same wherever they
stand. -/
def hasPlainNames (text : String) : Bool :=
  (startTags text).all fun tag =>
    isProperName tag.name &&
      match tag.attributes with
      | .ok pairs => pairs.all fun pair => isFreeKey pair.1
      | .error _ => true

namespace Node

theorem elementsAll_append (front back : List Node) :
    elementsAll (front ++ back) = elementsAll front ++ elementsAll back := by
  induction front with
  | nil => rfl
  | cons node rest inductionHypothesis =>
    rw [List.cons_append, elementsAll, elementsAll, inductionHypothesis, List.append_assoc]

/-! ### Normal forms and legible trees -/

theorem elementsAll_textNodes (text : List Char) : elementsAll (textNodes text) = [] := by
  cases text <;> rfl

mutual

/-- The normal form of a tree has the elements of the tree. -/
theorem elements_normal (node : Node) : node.normal.elements = node.elements := by
  cases node with
  | text value => rfl
  | element name attributes children =>
    rw [normal, elements, elements, elementsAll_normalAll]

theorem elementsAll_normalAll (pending : List Char) (nodes : List Node) :
    elementsAll (normalAll pending nodes) = elementsAll nodes := by
  cases nodes with
  | nil => exact elementsAll_textNodes (strip pending)
  | cons node rest =>
    cases node with
    | text value =>
      rw [normalAll_text, elementsAll_normalAll]
      rfl
    | element name attributes children =>
      have here := elements_normal (element name attributes children)
      rw [normal] at here
      rw [normalAll_element, elementsAll_append, elementsAll_textNodes, List.nil_append,
        elementsAll, elementsAll, here, elementsAll_normalAll [] rest]

end

/-- An element of a tree that is named so that its tag is read as it is written. -/
def IsPlainlyNamed (element : String × Attributes) : Prop :=
  isProperName element.1 = true ∧ ∀ key ∈ element.2.entries.map Prod.fst, isFreeKey key = true

mutual

theorem legible_of_elements {node : Node}
    (plain : ∀ element ∈ node.elements, IsPlainlyNamed element) : node.Legible := by
  cases node with
  | text value => trivial
  | element name attributes children =>
    obtain ⟨⟨properName, freeKeys⟩, plainChildren⟩ := List.forall_mem_cons.mp plain
    have legibleChildren := legibleAll_of_elementsAll plainChildren
    cases children with
    | nil => exact legibleSingle_of_isProperName properName freeKeys
    | cons child others =>
      exact ⟨legiblePair_of_isProperName properName freeKeys, legibleChildren⟩

theorem legibleAll_of_elementsAll {nodes : List Node}
    (plain : ∀ element ∈ elementsAll nodes, IsPlainlyNamed element) : LegibleAll nodes := by
  cases nodes with
  | nil => trivial
  | cons node rest =>
    obtain ⟨plainNode, plainRest⟩ := List.forall_mem_append.mp plain
    exact ⟨legible_of_elements plainNode, legibleAll_of_elementsAll plainRest⟩

end

end Node

/-! ### What is left in clean trees -/

/-- A name in one of the namespaces of drawing editors. -/
def IsEditorName (name : String) : Prop :=
  ∃ editor ∈ ["sodipodi:", "inkscape:", "sketch:"], editor.toList <+: name.toList

/-- A value that is not empty: words without blanks, with one space between neighbours. -/
def IsWorded (value : String) : Prop :=
  ∃ words, words ≠ [] ∧ (∀ word ∈ words, word ≠ [] ∧ ∀ c ∈ word, isBlank c = false) ∧
    value.toList = joinWords words

/-- The name and the attributes of an element that says nothing but what is drawn. -/
structure IsShown (element : String × Attributes) : Prop where
  notDescriptive : element.1 ∉ ["metadata", "title", "desc"]
  notEditor : ¬IsEditorName element.1
  notDeclaring : ∀ pair ∈ element.2.entries,
    pair.1 ∉ ["xmlns:sodipodi", "xmlns:inkscape", "xmlns:sketch"]
  notOfEditor : ∀ pair ∈ element.2.entries, ¬IsEditorName pair.1
  worded : ∀ pair ∈ element.2.entries, IsWorded pair.2

theorem inEditorNamespace_iff {name : String} :
    inEditorNamespace name = true ↔ IsEditorName name := by
  unfold inEditorNamespace IsEditorName
  rw [List.any_eq_true]
  refine exists_congr fun editor => and_congr_right fun _ => ?_
  rw [Option.isSome_iff_exists]
  refine exists_congr fun behind => ?_
  rw [dropStart?_eq_some_iff]
  exact eq_comm

theorem isDroppedElement_eq_false_iff {name : String} :
    isDroppedElement name = false ↔
      name ∉ ["metadata", "title", "desc"] ∧ ¬IsEditorName name := by
  rw [isDroppedElement, Bool.or_eq_false_iff, List.contains_eq_mem, decide_eq_false_iff_not,
    ← inEditorNamespace_iff, Bool.not_eq_true, descriptiveElements]

theorem isEditorAttribute_eq_false_iff {key : String} :
    isEditorAttribute key = false ↔
      key ∉ ["xmlns:sodipodi", "xmlns:inkscape", "xmlns:sketch"] ∧ ¬IsEditorName key := by
  rw [isEditorAttribute, Bool.or_eq_false_iff, List.contains_eq_mem, decide_eq_false_iff_not,
    ← inEditorNamespace_iff, Bool.not_eq_true, editorDeclarations]

theorem isWorded_collapseBlanks {value : String}
    (something : (collapseBlanks value).isEmpty = false) : IsWorded (collapseBlanks value) := by
  refine ⟨words value.toList, ?_, ?_, toList_collapseBlanks value⟩
  · intro noWords
    have isNil : (collapseBlanks value).toList = [] := by
      rw [toList_collapseBlanks, collapse, noWords]
      rfl
    rw [String.toList_eq_nil_iff.mp isNil] at something
    cases something
  · intro word isWord
    obtain ⟨isPiece, notEmpty⟩ := List.mem_filter.mp isWord
    refine ⟨?_, fun c member => (mem_splitAt isPiece c member).1⟩
    rintro rfl
    cases notEmpty

theorem mem_cleanAttributes {entries : List (String × String)} {pair : String × String}
    (member : pair ∈ cleanAttributes entries) :
    isEditorAttribute pair.1 = false ∧ IsWorded pair.2 := by
  obtain ⟨⟨key, value⟩, -, isKept⟩ := List.mem_filterMap.mp member
  simp only at isKept
  split at isKept
  · cases isKept
  · next stays =>
    cases isKept
    rw [Bool.not_eq_true, Bool.or_eq_false_iff] at stays
    exact ⟨stays.1, isWorded_collapseBlanks stays.2⟩

namespace Node

theorem isDropped_of_root {node : Node} (root : node.name? = some "svg") :
    node.isDropped = false := by
  cases node with
  | text value => rfl
  | element name attributes children =>
    cases root
    change isDroppedElement "svg" = false
    decide

mutual

/-- Whatever is in a clean tree shows, if the tree itself is not left out. -/
theorem isShown_of_clean {node : Node} (clean : node.clean = node)
    (kept : node.isDropped = false) : ∀ element ∈ node.elements, IsShown element := by
  cases node with
  | text value => exact fun _ member => nomatch member
  | element name attributes children =>
    obtain ⟨sameAttributes, cleanChildren⟩ := clean_element_self clean
    obtain ⟨notDescriptive, notEditor⟩ := isDroppedElement_eq_false_iff.mp kept
    have keptPair {pair : String × String} (member : pair ∈ attributes.entries) :
        isEditorAttribute pair.1 = false ∧ IsWorded pair.2 := by
      rw [← sameAttributes] at member
      exact mem_cleanAttributes member
    have shown : IsShown (name, attributes) :=
      ⟨notDescriptive, notEditor,
        fun pair member => (isEditorAttribute_eq_false_iff.mp (keptPair member).1).1,
        fun pair member => (isEditorAttribute_eq_false_iff.mp (keptPair member).1).2,
        fun pair member => (keptPair member).2⟩
    exact List.forall_mem_cons.mpr ⟨shown, isShown_of_cleanAll cleanChildren⟩

theorem isShown_of_cleanAll {nodes : List Node} (clean : cleanAll nodes = nodes) :
    ∀ element ∈ elementsAll nodes, IsShown element := by
  cases nodes with
  | nil => exact fun _ member => nomatch member
  | cons node rest =>
    obtain ⟨kept, -, cleanNode, cleanRest⟩ := cleanAll_cons_self clean
    exact List.forall_mem_append.mpr
      ⟨isShown_of_clean cleanNode kept, isShown_of_cleanAll cleanRest⟩

end

end Node

/-! ### Elements stem from tags -/

/-- What a tag makes of an element when it is read. -/
def Tag.Opens (mode : Mode) (tag : Tag) (element : String × Attributes) : Prop :=
  Building.openElement mode tag = .ok ⟨element.1, element.2, []⟩

namespace Building

variable {mode : Mode} {building next final : Building} {node : Node}

/-- The elements of what has been built so far. -/
def elements (building : Building) : List (String × Attributes) :=
  building.root.toList.flatMap Node.elements ++
    building.opened.flatMap fun element => element.close.elements

theorem opens_of_openElement {tag : Tag} {element : OpenElement}
    (isOpened : openElement mode tag = .ok element) :
    element.close.elements = [(element.name, element.attributes)] ∧
      tag.Opens mode (element.name, element.attributes) := by
  obtain ⟨attributes, isRead, isElement⟩ := bind_eq_ok_iff.mp isOpened
  cases isElement
  exact ⟨rfl, isOpened⟩

/-- A node that is put into an open element brings its own elements. -/
theorem mem_elements_push {parent : OpenElement} {outer : List OpenElement}
    (opened : building.opened = parent :: outer) :
    ∀ element ∈ ({ building with opened := parent.push node :: outer } : Building).elements,
      element ∈ building.elements ∨ element ∈ node.elements := by
  intro element member
  unfold elements at member ⊢
  simp only [opened, OpenElement.push, OpenElement.close, Node.elements, List.flatMap_cons,
    Node.elementsAll_append, Node.elementsAll, List.append_nil, List.mem_append,
    List.mem_cons] at member ⊢
  tauto

theorem mem_elements_attach (attached : building.attach mode node = .ok next) :
    ∀ element ∈ next.elements, element ∈ building.elements ∨ element ∈ node.elements := by
  unfold attach at attached
  split at attached
  · cases attached
    exact fun element member => .inl member
  · split at attached
    · next parent outer opened =>
      cases attached
      exact mem_elements_push opened
    · next noneOpened =>
      split at attached
      · cases attached
      · cases attached
        intro element member
        rw [elements, noneOpened] at member
        simp only [Option.toList_some, List.flatMap_cons, List.flatMap_nil,
          List.append_nil] at member
        exact .inr member

theorem mem_elements_pushText {value : String} (pushed : building.pushText value = .ok next) :
    ∀ element ∈ next.elements, element ∈ building.elements := by
  rcases pushText_cases pushed with ⟨-, rfl⟩ | ⟨-, parent, outer, opened, rfl⟩
  · exact fun element member => member
  · exact fun element member => (mem_elements_push opened element member).resolve_right nofun

/-- The only element that a step adds is the one that its tag opens. -/
theorem mem_elements_step {delivery : Delivery} (stepped : building.step mode delivery = .ok next) :
    ∀ element ∈ next.elements, element ∈ building.elements ∨
      ∃ tag, delivery.event.tag? = some tag ∧ tag.Opens mode element := by
  obtain ⟨event, offset⟩ := delivery
  have advances : Advances mode building event next := advances_of_step stepped
  intro element member
  cases advances with
  | skips => exact .inl member
  | hides => exact .inl member
  | omits => exact .inl member
  | strays => exact .inl member
  | passes => exact .inl member
  | @enters tag entered _ isOpened visible =>
    obtain ⟨alone, opens⟩ := opens_of_openElement isOpened
    rw [elements, List.flatMap_cons, alone, List.mem_append, List.singleton_append,
      List.mem_cons] at member
    rcases member with inRoot | rfl | inOpened
    · exact .inl (List.mem_append_left _ inRoot)
    · exact .inr ⟨tag, rfl, opens⟩
    · exact .inl (List.mem_append_right _ inOpened)
  | @inserts tag inserted _ _ isOpened visible attached =>
    obtain ⟨alone, opens⟩ := opens_of_openElement isOpened
    rcases mem_elements_attach attached element member with inBuilding | isInserted
    · exact .inl inBuilding
    · rw [alone, List.mem_singleton] at isInserted
      rw [isInserted]
      exact .inr ⟨tag, rfl, opens⟩
  | @leaves left outer _ _ opened attached =>
    refine .inl ?_
    rw [elements, opened, List.flatMap_cons, List.mem_append, List.mem_append]
    rcases mem_elements_attach attached element member with inOuter | inLeft
    · rcases List.mem_append.mp inOuter with inRoot | inOpened
      · exact .inl inRoot
      · exact .inr (.inr inOpened)
    · exact .inr (.inl inLeft)
  | writes _ _ pushed => exact .inl (mem_elements_pushText pushed element member)
  | copies _ pushed => exact .inl (mem_elements_pushText pushed element member)

theorem mem_elements_run {deliveries : List Delivery}
    (run : deliveries.foldlM (Building.step mode) building = .ok final) :
    ∀ element ∈ final.elements, element ∈ building.elements ∨
      ∃ tag ∈ deliveries.filterMap fun delivery => delivery.event.tag?, tag.Opens mode element := by
  induction deliveries generalizing building with
  | nil =>
    cases run
    exact fun element member => .inl member
  | cons delivery rest inductionHypothesis =>
    rw [List.foldlM_cons] at run
    obtain ⟨middle, stepped, restRun⟩ := bind_eq_ok_iff.mp run
    intro element member
    rcases inductionHypothesis restRun element member with inMiddle | ⟨tag, isTag, opens⟩
    · rcases mem_elements_step stepped element inMiddle with inBuilding | ⟨tag, isTag, opens⟩
      · exact .inl inBuilding
      · exact .inr ⟨tag, List.mem_filterMap.mpr ⟨delivery, List.mem_cons_self, isTag⟩, opens⟩
    · obtain ⟨later, isLater, isTag⟩ := List.mem_filterMap.mp isTag
      exact .inr ⟨tag, List.mem_filterMap.mpr ⟨later, List.mem_cons_of_mem _ isLater, isTag⟩, opens⟩

end Building

/-- Every element that is read stems from a tag of the text. -/
theorem exists_startTag_of_readTree {mode : Mode} {text : String} {tree : Node}
    (read : readTree mode text = .ok tree) :
    ∀ element ∈ tree.elements, ∃ tag ∈ startTags text, tag.Opens mode element := by
  unfold readTree at read
  obtain ⟨-, final, run, finished⟩ := buildTree_eq_ok_iff.mp read
  obtain ⟨noneOpened, rooted, -⟩ := Building.finish_cases finished
  intro element member
  have inFinal : element ∈ final.elements := by
    rw [Building.elements, rooted, noneOpened]
    simpa using member
  exact (Building.mem_elements_run run element inFinal).resolve_left nofun

/-! ### Plain names -/

/-- An element has the name of its tag, and keys of its tag only. -/
theorem Tag.Opens.cases {mode : Mode} {tag : Tag} {element : String × Attributes}
    (opens : tag.Opens mode element) :
    element.1 = tag.name ∧ ∃ pairs, tag.attributes = .ok pairs ∧
      ∀ key ∈ element.2.entries.map Prod.fst, key ∈ pairs.map Prod.fst := by
  obtain ⟨name, attributes⟩ := element
  obtain ⟨pairs, isRead, isElement⟩ := bind_eq_ok_iff.mp opens
  cases isElement
  refine ⟨rfl, pairs, isRead, ?_⟩
  have distinct := (keys_of_readAttributesFrom isRead).1
  have cleanKeys := keys_cleanAttributes_sublist pairs
  have keysOf {kept : List (String × String)} (keptDistinct : (kept.map Prod.fst).Nodup) :
      (Attributes.ofList kept).entries.map Prod.fst = kept.map Prod.fst := by
    rw [Attributes.entries_ofList keptDistinct]
  intro key member
  cases mode with
  | plain =>
    rw [← keysOf distinct]
    exact member
  | cleaning =>
    apply cleanKeys.subset
    rw [← keysOf (distinct.sublist cleanKeys)]
    exact member

theorem isPlainlyNamed_of_readTree {mode : Mode} {text : String} {tree : Node}
    (plain : hasPlainNames text = true) (read : readTree mode text = .ok tree) :
    ∀ element ∈ tree.elements, Node.IsPlainlyNamed element := by
  intro element member
  obtain ⟨tag, isTag, opens⟩ := exists_startTag_of_readTree read element member
  obtain ⟨sameName, pairs, isRead, keys⟩ := opens.cases
  have plainTag := List.all_eq_true.mp plain tag isTag
  rw [isRead, Bool.and_eq_true, List.all_eq_true] at plainTag
  obtain ⟨properName, freeKeys⟩ := plainTag
  refine ⟨sameName ▸ properName, fun key isKey => ?_⟩
  obtain ⟨pair, isPair, rfl⟩ := List.mem_map.mp (keys key isKey)
  exact freeKeys pair isPair

/-- A text with plain names that is read with cleaning is optimized to markup that is read
again, as the normal form of the clean tree. -/
theorem parse_markup_of_plain {text : String} {cleaned : Node}
    (plain : hasPlainNames text = true) (read : readTree .cleaning text = .ok cleaned) :
    parse cleaned.markup = .ok cleaned.normal :=
  readTree_markup_of_legible (Node.legible_of_elements (isPlainlyNamed_of_readTree plain read))
    (cleaned_of_readTree read).root

end IconForge.Svg
