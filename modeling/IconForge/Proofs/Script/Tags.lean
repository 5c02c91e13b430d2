import IconForge.Proofs.Script.Printing
import IconForge.Proofs.Gather.Loading
import IconForge.Proofs.Text.Case

/-!
Contract: the tags that are written for a loaded drawing, read back.

Owns:
- that the reader takes nothing but identifiers for the names of a tag;
- that what is written for a drawing is read as the expression that it means exactly if
  the names of the elements inside it are identifiers, with their first character in upper
  form;
- names of XML documents, and which of them are such names in ASCII.

Main statement: `read?_loaded_iff`.

Does not own: how drawings are loaded.
-/

namespace IconForge.Script.Reader

open IconForge.Svg

variable {alphabet : Alphabet} {text : List Char} {tokens : List Token} {token : Token}
  {machine next final : Machine} {name : String}

/-! ### Words are identifiers -/

theorem mem_of_map_cons {first : Token} {later? : Option (List Token)}
    (cut : later?.map (first :: ·) = some tokens) (member : token ∈ tokens) :
    token = first ∨ ∃ later, later? = some later ∧ token ∈ later := by
  obtain ⟨later, isLater, rfl⟩ := Option.map_eq_some_iff.mp cut
  rcases List.mem_cons.mp member with isFirst | inLater
  · exact Or.inl isFirst
  · exact Or.inr ⟨later, isLater, inLater⟩

theorem isIdentifier_of_word (cut : tokens? alphabet text = some tokens)
    (member : .word name ∈ tokens) : alphabet.isIdentifier name = true := by
  fun_induction tokens? alphabet text generalizing tokens with
  | case1 =>
    cases cut
    cases member
  | case2 c rest starts word =>
    rename_i inductionHypothesis
    rcases mem_of_map_cons cut member with isWord | ⟨later, isLater, inLater⟩
    · cases isWord
      unfold Alphabet.isIdentifier
      rw [String.toList_ofList]
      exact Bool.and_eq_true_iff.mpr ⟨starts, List.all_takeWhile⟩
    · exact inductionHypothesis isLater inLater
  | case3 _ _ _ _ inductionHypothesis => exact inductionHypothesis cut member
  | case4 =>
    rename_i inductionHypothesis
    rcases mem_of_map_cons cut member with isNumber | ⟨later, isLater, inLater⟩
    · cases isNumber
    · exact inductionHypothesis isLater inLater
  | case5 => cases cut
  | case6 _ _ _ _ _ _ _ inductionHypothesis =>
    obtain ⟨value, -, cutBehind⟩ := Option.bind_eq_some_iff.mp cut
    rcases mem_of_map_cons cutBehind member with isString | ⟨later, isLater, inLater⟩
    · cases isString
    · exact inductionHypothesis isLater inLater
  | case7 _ _ _ _ _ _ _ inductionHypothesis =>
    rcases mem_of_map_cons cut member with isMark | ⟨later, isLater, inLater⟩
    · cases isMark
    · exact inductionHypothesis isLater inLater
  | case8 => cases cut

/-! ### The names of tags -/

def Token.words : Token → List String
  | .word name => [name]
  | _ => []

def tagNamesAll (items : List Expression) : List String :=
  (callsAll items).flatMap Prod.fst

/-- The names in the tags of an expression. -/
def Expression.tagNames (expression : Expression) : List String :=
  expression.calls.flatMap Prod.fst

theorem tagNamesAll_nil : tagNamesAll [] = [] := by
  rw [tagNamesAll, callsAll]
  rfl

theorem tagNamesAll_append (front back : List Expression) :
    tagNamesAll (front ++ back) = tagNamesAll front ++ tagNamesAll back := by
  rw [tagNamesAll, callsAll_append, List.flatMap_append]
  rfl

theorem tagNamesAll_singleton (expression : Expression) :
    tagNamesAll [expression] = expression.tagNames := by
  rw [tagNamesAll, callsAll, callsAll, List.append_nil]
  rfl

theorem tagNames_list (items : List Expression) :
    (Expression.list items).tagNames = tagNamesAll items := by
  rw [Expression.tagNames, Expression.calls]
  rfl

theorem tagNames_create (tag : List String) (props : Option (List (String × PropValue)))
    (arguments : List Expression) :
    (Expression.create tag props arguments).tagNames = tag ++ tagNamesAll arguments := by
  rw [Expression.tagNames, Expression.calls, List.flatMap_cons]
  rfl

/-- The names of tags in what an unfinished list or call holds, its own included. -/
def Frame.tagNames : Frame → List String
  | .list items => tagNamesAll items
  | .create tag _ arguments => tag ++ tagNamesAll arguments

/-- The names of tags in front of what is due; those of what is called are not of a tag. -/
def Due.tagNames : Due → List String
  | .value => []
  | .item items => tagNamesAll items
  | .itemEnd items => tagNamesAll items
  | .called _ => []
  | .calledName _ => []
  | .tagName names => names
  | .tagEnd names => names
  | .props tag => tag
  | .prop tag _ => tag
  | .colon tag _ _ => tag
  | .propValue tag _ _ => tag
  | .propEnd tag _ => tag
  | .argumentEnd tag _ arguments => tag ++ tagNamesAll arguments
  | .nothing expression => expression.tagNames

namespace Machine

/-- The names of tags that a machine holds. -/
def tagNames (machine : Machine) : List String :=
  machine.due.tagNames ++ machine.frames.flatMap Frame.tagNames

/-- A complete expression brings its names into what is around it. -/
theorem tagNames_complete (expression : Expression) (frames : List Frame) :
    (complete expression frames).tagNames ⊆
      expression.tagNames ++ frames.flatMap Frame.tagNames := by
  intro name
  match frames with
  | [] => simp [complete, tagNames, Due.tagNames]
  | .list items :: outer =>
    simp only [complete, tagNames, Due.tagNames, tagNamesAll_append, tagNamesAll_singleton,
      Frame.tagNames, List.flatMap_cons, List.mem_append]
    grind
  | .create tag props arguments :: outer =>
    simp only [complete, tagNames, Due.tagNames, tagNamesAll_append, tagNamesAll_singleton,
      Frame.tagNames, List.flatMap_cons, List.mem_append]
    grind

theorem tagNames_complete_list (items : List Expression) (frames : List Frame) :
    (complete (.list items) frames).tagNames ⊆
      tagNamesAll items ++ frames.flatMap Frame.tagNames := by
  rw [← tagNames_list]
  exact tagNames_complete _ _

theorem tagNames_complete_create (tag : List String)
    (props : Option (List (String × PropValue))) (arguments : List Expression)
    (frames : List Frame) :
    (complete (.create tag props arguments) frames).tagNames ⊆
      tag ++ tagNamesAll arguments ++ frames.flatMap Frame.tagNames := by
  rw [← tagNames_create tag props]
  exact tagNames_complete _ _

theorem tagNames_startValue? {frames : List Frame}
    (starts : startValue? frames token = some next) :
    next.tagNames ⊆ frames.flatMap Frame.tagNames := by
  unfold startValue? at starts
  split at starts
  · next value =>
    cases starts
    exact tagNames_complete (.text value) frames
  · split at starts
    · cases starts
      exact tagNames_complete .null frames
    · cases starts
      exact List.Subset.refl _
  · cases starts
    exact List.Subset.refl _
  · cases starts

/-- A token brings no names into tags but its own. -/
theorem tagNames_step? (steps : machine.step? token = some next) :
    next.tagNames ⊆ machine.tagNames ++ token.words := by
  obtain ⟨due, frames⟩ := machine
  unfold step? at steps
  dsimp only at steps
  split at steps
  -- A value starts, as it may where an item is due.
  case h_1 | h_3 =>
    exact List.subset_append_of_subset_left _ (tagNames_startValue? steps)
  -- A list or a call is complete.
  case h_2 items | h_5 items =>
    cases steps
    exact List.subset_append_of_subset_left _ (tagNames_complete_list items frames)
  case h_23 tag props arguments =>
    cases steps
    exact List.subset_append_of_subset_left _ (tagNames_complete_create tag props arguments frames)
  -- The called function creates elements, or there are no properties.
  case h_7 | h_13 =>
    split at steps
    · cases steps
      simp [tagNames, Due.tagNames, tagNamesAll_nil]
    · cases steps
  case h_24 => cases steps
  -- Something else is due within the same tag, which may have got a name.
  all_goals
    cases steps
    simp [tagNames, Due.tagNames, Frame.tagNames, Token.words, tagNamesAll_nil]

theorem tagNames_run? (runs : machine.run? tokens = some final) :
    final.tagNames ⊆ machine.tagNames ++ tokens.flatMap Token.words := by
  induction tokens generalizing machine with
  | nil =>
    cases runs
    exact List.subset_append_left _ _
  | cons token rest inductionHypothesis =>
    obtain ⟨next, steps, runsOn⟩ := Option.bind_eq_some_iff.mp runs
    have here := tagNames_step? steps
    have later := inductionHypothesis runsOn
    intro name member
    rw [List.flatMap_cons, ← List.append_assoc]
    rcases List.mem_append.mp (later member) with inNext | inRest
    · exact List.mem_append_left _ (here inNext)
    · exact List.mem_append_right _ inRest

end Machine

/-- The names in the tags of an expression that has been read are identifiers. -/
theorem isIdentifier_of_read? {alphabet : Alphabet} {text : String} {expression : Expression}
    (read : Expression.read? alphabet text = some expression) :
    ∀ tag ∈ expression.tags, ∀ name ∈ tag, alphabet.isIdentifier name = true := by
  intro tag isTag name isName
  obtain ⟨tokens, cut, read⟩ := Option.bind_eq_some_iff.mp read
  obtain ⟨machine, runs, read⟩ := Option.bind_eq_some_iff.mp read
  have held := Machine.tagNames_run? runs
  have isHeld : name ∈ machine.tagNames := by
    obtain ⟨call, isCall, rfl⟩ := List.mem_map.mp isTag
    split at read
    · next isDue =>
      cases read
      rw [Machine.tagNames, isDue]
      exact List.mem_append_left _ (List.mem_flatMap.mpr ⟨call, isCall, isName⟩)
    · cases read
  rcases List.mem_append.mp (held isHeld) with inStart | inTokens
  · cases inStart
  · obtain ⟨token, isToken, isWord⟩ := List.mem_flatMap.mp inTokens
    cases token with
    | word word =>
      cases List.mem_singleton.mp isWord
      exact isIdentifier_of_word cut isToken
    | number _ => cases isWord
    | string _ => cases isWord
    | mark _ => cases isWord

/-! ### Names of elements -/

mutual

theorem elementNames_eq (place : Nat) (node : Node) :
    elementNames node = (placed place node).map Placed.name := by
  cases node with
  | text value => rfl
  | element name attributes children =>
    rw [elementNames, placed, List.map_cons, elementNamesAll_eq 0 children]

theorem elementNamesAll_eq (place : Nat) (nodes : List Node) :
    elementNamesAll nodes = (placedAll place nodes).map Placed.name := by
  cases nodes with
  | nil => rfl
  | cons node rest =>
    rw [elementNamesAll, placedAll, List.map_append, elementNames_eq place node,
      elementNamesAll_eq (place + 1) rest]

end

variable {indent : String} {node : Node}

/-- The name of the root is left out, and is an identifier with its first character in
upper form. -/
theorem hasIdentifiers_iff (root : node.name? = some "svg") :
    HasIdentifiers alphabet (elementNames node) ↔
      ∀ element ∈ inside node,
        alphabet.isIdentifier (Naming.capitalize element.name) = true := by
  cases node with
  | text value => cases root
  | element name attributes children =>
    cases root
    have isRoot : alphabet.isIdentifier (Naming.capitalize "svg") = true :=
      alphabet.isIdentifier_of_ascii (by decide)
    rw [HasIdentifiers, elementNames, List.forall_mem_cons, and_iff_right isRoot,
      elementNamesAll_eq 0, List.forall_mem_map]
    rfl

/-- What is written for a drawing is read as the expression that it means exactly if the
names of the elements inside it are identifiers with their first character in upper form. -/
theorem read?_rootExpression_iff (root : node.name? = some "svg")
    (spaces : ∀ c ∈ indent.toList, c = ' ') :
    Expression.read? alphabet (rootExpression indent node) = some (rootMeaning node) ↔
      ∀ element ∈ inside node,
        alphabet.isIdentifier (Naming.capitalize element.name) = true := by
  constructor
  · intro read element isInside
    exact isIdentifier_of_read? read element.tag (tag_mem_tags root isInside) _
      (List.mem_cons_of_mem _ List.mem_cons_self)
  · intro identifiers
    exact read?_of_reads (reads_root spaces ((hasIdentifiers_iff root).mpr identifiers))

/-! ### Names of documents -/

/-- Characters beyond ASCII with which names start in XML. -/
def xmlStarts : Text.CodePoints where
  ranges :=
    [(0xC0, 0xD6), (0xD8, 0xF6), (0xF8, 0x2FF), (0x370, 0x37D), (0x37F, 0x1FFF),
     (0x200C, 0x200D), (0x2070, 0x218F), (0x2C00, 0x2FEF), (0x3001, 0xD7FF),
     (0xF900, 0xFDCF), (0xFDF0, 0xFFFD), (0x10000, 0xEFFFF)]

/-- Characters beyond ASCII with which names only go on in XML. -/
def xmlContinuations : Text.CodePoints where
  ranges := [(0xB7, 0xB7), (0x300, 0x36F), (0x203F, 0x2040)]

def isXmlStart (c : Char) : Bool :=
  c.isAlpha || c == '_' || c == ':' || xmlStarts.contains c

def isXmlPart (c : Char) : Bool :=
  isXmlStart c || c.isDigit || c == '-' || c == '.' || xmlContinuations.contains c

/-- Whether a text is a name in XML. -/
def isXmlName (name : String) : Bool :=
  match name.toList with
  | [] => false
  | c :: rest => isXmlStart c && rest.all isXmlPart

/-- Whether a character may stand in names of XML, but not in identifiers. -/
def isXmlSign (c : Char) : Bool :=
  c == '-' || c == '.' || c == ':'

variable {c : Char}

theorem isXmlSign_cases (sign : isXmlSign c = true) :
    c.toNat < 0x80 ∧ c.toUpper = c ∧ isIdentifierStart c = false ∧
      isIdentifierPart c = false := by
  simp only [isXmlSign, Bool.or_eq_true, beq_iff_eq] at sign
  rcases sign with (rfl | rfl) | rfl <;> decide

theorem isIdentifierStart_toUpper (starts : isXmlStart c = true) (ascii : c.toNat < 0x80)
    (noSign : isXmlSign c = false) :
    c.toUpper.toNat < 0x80 ∧ isIdentifierStart c.toUpper = true := by
  refine Text.Case.forall_ascii (p := fun c => isXmlStart c = true → isXmlSign c = false →
    c.toUpper.toNat < 0x80 ∧ isIdentifierStart c.toUpper = true) ?_ ascii starts noSign
  decide

theorem isIdentifierPart_of_isXmlPart (part : isXmlPart c = true) (ascii : c.toNat < 0x80)
    (noSign : isXmlSign c = false) : isIdentifierPart c = true := by
  refine Text.Case.forall_ascii (p := fun c => isXmlPart c = true → isXmlSign c = false →
    isIdentifierPart c = true) ?_ ascii part noSign
  decide

/-- No name with a hyphen, a dot or a colon becomes an identifier. -/
theorem not_isXmlSign_of_isIdentifier
    (identifier : alphabet.isIdentifier (Naming.capitalize name) = true) :
    ∀ c ∈ name.toList, isXmlSign c = false := by
  unfold Alphabet.isIdentifier Naming.capitalize at identifier
  rw [String.toList_ofList] at identifier
  generalize name.toList = characters at identifier ⊢
  cases characters with
  | nil => exact List.forall_mem_nil _
  | cons first rest =>
    rw [Naming.capitalizeChars] at identifier
    cases isUpper : Text.Case.upper first with
    | nil => exact absurd isUpper (Text.Case.upper_ne_nil first)
    | cons head others =>
      rw [isUpper, List.cons_append, Bool.and_eq_true, List.all_eq_true] at identifier
      obtain ⟨starts, goesOn⟩ := identifier
      refine List.forall_mem_cons.mpr ⟨?_, fun c member => ?_⟩
      · cases sign : isXmlSign first with
        | false => rfl
        | true =>
          obtain ⟨ascii, sameUpper, noStart, -⟩ := isXmlSign_cases sign
          rw [Text.Case.upper, if_pos ascii, sameUpper] at isUpper
          cases isUpper
          rw [alphabet.starts_ascii _ ascii, noStart] at starts
          cases starts
      · cases sign : isXmlSign c with
        | false => rfl
        | true =>
          obtain ⟨ascii, -, -, noPart⟩ := isXmlSign_cases sign
          have continues := goesOn c (List.mem_append_right _ member)
          rw [alphabet.continues_ascii _ ascii, noPart] at continues
          cases continues

theorem isIdentifier_of_isXmlName (isName : isXmlName name = true)
    (ascii : ∀ c ∈ name.toList, c.toNat < 0x80)
    (noSign : ∀ c ∈ name.toList, isXmlSign c = false) :
    alphabet.isIdentifier (Naming.capitalize name) = true := by
  unfold isXmlName at isName
  unfold Alphabet.isIdentifier Naming.capitalize
  rw [String.toList_ofList]
  generalize name.toList = characters at isName ascii noSign ⊢
  cases characters with
  | nil => cases isName
  | cons c rest =>
    rw [Bool.and_eq_true, List.all_eq_true] at isName
    rw [List.forall_mem_cons] at ascii noSign
    obtain ⟨upperAscii, starts⟩ := isIdentifierStart_toUpper isName.1 ascii.1 noSign.1
    rw [Naming.capitalizeChars, Text.Case.upper, if_pos ascii.1, List.singleton_append]
    refine Bool.and_eq_true_iff.mpr
      ⟨(alphabet.starts_ascii _ upperAscii).trans starts, List.all_eq_true.mpr ?_⟩
    intro d member
    have part := isIdentifierPart_of_isXmlPart (isName.2 d member) (ascii.2 d member)
      (noSign.2 d member)
    exact (alphabet.continues_ascii d (ascii.2 d member)).trans part

/-! ### Loaded drawings -/

variable {tree : Files.Tree} {file : Files.Path} {drawing : Node}

theorem name?_of_loadDrawing (loaded : Gather.loadDrawing tree file = .ok drawing) :
    drawing.name? = some "svg" := by
  obtain ⟨source, cleaned, -, -, parsed⟩ := Gather.loadDrawing_eq_ok_iff.mp loaded
  exact (readTree_plain_iff.mp parsed).2

/-- What is written for a loaded drawing is the text of an expression, the tags of which
are those of the elements inside the drawing, and of fragments. It is read as that
expression exactly if the names of these elements are identifiers with their first
character in upper form. A name with a hyphen, a dot or a colon is none; any other name in
ASCII that is one in XML is. -/
theorem read?_loaded_iff (loaded : Gather.loadDrawing tree file = .ok drawing)
    (alphabet : Alphabet) {indent : String} (spaces : ∀ c ∈ indent.toList, c = ' ') :
    (∃ depth, rootExpression indent drawing = (rootMeaning drawing).layout indent depth) ∧
      (∀ tag ∈ (rootMeaning drawing).tags, tag = ["React", "Fragment"] ∨
        ∃ element ∈ inside drawing, tag = ["SVG", Naming.capitalize element.name]) ∧
      (Expression.read? alphabet (rootExpression indent drawing) = some (rootMeaning drawing) ↔
        ∀ element ∈ inside drawing,
          alphabet.isIdentifier (Naming.capitalize element.name) = true) ∧
      ∀ element ∈ inside drawing,
        (alphabet.isIdentifier (Naming.capitalize element.name) = true →
          ∀ c ∈ element.name.toList, isXmlSign c = false) ∧
        (isXmlName element.name = true → (∀ c ∈ element.name.toList, c.toNat < 0x80) →
          (∀ c ∈ element.name.toList, isXmlSign c = false) →
            alphabet.isIdentifier (Naming.capitalize element.name) = true) := by
  have root := name?_of_loadDrawing loaded
  refine ⟨rootExpression_eq_layout indent drawing, fun tag => mem_tags_rootMeaning root,
    read?_rootExpression_iff root spaces, fun element _ => ⟨?_, ?_⟩⟩
  · exact not_isXmlSign_of_isIdentifier
  · exact isIdentifier_of_isXmlName

/-- A name with a capital letter inside it, beside one of small letters. -/
def clippedGroup : String := "<svg><clipPath/><g><path/></g></svg>"

def clippedGroupTree : Node :=
  .element "svg" .empty
    [.element "clipPath" .empty [], .element "g" .empty [.element "path" .empty []]]

theorem loadDrawing_clippedGroup :
    Gather.loadDrawing (Gather.soleDrawing clippedGroup) Gather.drawingFile =
      .ok clippedGroupTree := by
  have parsed : parse clippedGroup = .ok clippedGroupTree := by
    apply readTree_plain_iff.mpr
    constructor
    · decide +kernel
    · rfl
  exact Gather.loadDrawing_soleDrawing parsed rfl (by decide)

theorem read?_loaded_iff_clippedGroup :
    Gather.loadDrawing (Gather.soleDrawing clippedGroup) Gather.drawingFile =
        .ok clippedGroupTree ∧
      (∀ c ∈ "".toList, c = ' ') ∧
      Expression.read? .unicode (rootExpression "" clippedGroupTree) =
        some (rootMeaning clippedGroupTree) ∧
      ∀ element ∈ inside clippedGroupTree,
        Alphabet.unicode.isIdentifier (Naming.capitalize element.name) = true := by
  have spaces : ∀ c ∈ "".toList, c = ' ' := List.forall_mem_nil _
  obtain ⟨-, -, readIff, each⟩ := read?_loaded_iff loadDrawing_clippedGroup .unicode spaces
  have identifiers : ∀ element ∈ inside clippedGroupTree,
      Alphabet.unicode.isIdentifier (Naming.capitalize element.name) = true := by
    intro element isInside
    have plain : ∀ element ∈ inside clippedGroupTree, isXmlName element.name = true ∧
        element.name.toList.all (fun c => decide (c.toNat < 0x80) && !isXmlSign c) = true := by
      decide
    obtain ⟨isName, inAscii⟩ := plain element isInside
    simp only [List.all_eq_true, Bool.and_eq_true, decide_eq_true_eq, Bool.not_eq_true']
      at inAscii
    exact (each element isInside).2 isName (fun c member => (inAscii c member).1)
      fun c member => (inAscii c member).2
  exact ⟨loadDrawing_clippedGroup, spaces, readIff.mpr identifiers, identifiers⟩

/-- A name with a hyphen in it, which elements of drawings have. -/
def fontFace : String := "<svg><font-face/></svg>"

def fontFaceTree : Node :=
  .element "svg" .empty [.element "font-face" .empty []]

/-- In no alphabet is the tag of each element made of identifiers, though all names are
ones in XML. -/
theorem tags_fontFace :
    ¬∃ alphabet : Alphabet, ∀ source plain drawing, parse source = .ok plain →
      (∀ name ∈ elementNames plain, isXmlName name = true) →
        Gather.loadDrawing (Gather.soleDrawing source) Gather.drawingFile = .ok drawing →
          ∀ tag ∈ (rootMeaning drawing).tags, tag = ["React", "Fragment"] ∨
            ∃ name, alphabet.isIdentifier name = true ∧ tag = ["SVG", name] := by
  rintro ⟨alphabet, allIdentifiers⟩
  have parsed : parse fontFace = .ok fontFaceTree := by
    apply readTree_plain_iff.mpr
    constructor
    · decide +kernel
    · rfl
  have loaded : Gather.loadDrawing (Gather.soleDrawing fontFace) Gather.drawingFile =
      .ok fontFaceTree :=
    Gather.loadDrawing_soleDrawing parsed rfl (by decide)
  have isTag : ["SVG", Naming.capitalize "font-face"] ∈ (rootMeaning fontFaceTree).tags :=
    List.mem_cons_self
  rcases allIdentifiers _ _ _ parsed (by decide) loaded _ isTag with
    isFragment | ⟨name, identifier, isName⟩
  · exact absurd (List.cons.inj isFragment).1 (by decide)
  · cases isName
    have noSign := not_isXmlSign_of_isIdentifier identifier '-' (by decide)
    cases noSign

end IconForge.Script.Reader
