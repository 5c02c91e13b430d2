import IconForge.Proofs.Svg.Building
import IconForge.Proofs.Svg.Normal

/-!
Contract: trees whose markup is read tag by tag as it is written.

Owns:
- the trees of which every tag is written legibly;
- the marks of a tag and of an escaped text in front of any other text;
- that the markup of a legible tree is read as the tree's normal form.

Main statements: `marksFrom?_markupAll`, `readTree_markup_of_legible`.

Does not own: which names and keys are legible wherever they stand.
-/

namespace IconForge.Svg

open IconForge.Text

/-- The text of a start tag between the angle brackets. -/
def tagText (name : String) (attributes : Attributes) : List Char :=
  name.toList ++ attributesText attributes.entries

/-- A tag that is read as it is written. -/
structure LegibleTag (name : String) (attributes : Attributes) : Prop where
  /-- The name is not taken for the start of another construct. -/
  starts : startsTag name.toList = true
  /-- The name has no end inside it. -/
  unspaced : ∀ c ∈ name.toList, isSpace c = false
  /-- Every key is read as one. -/
  keys : ∀ key ∈ attributes.entries.map Prod.fst, isKey key.toList = true
  /-- The tag does not end before its text, nor go on behind it. -/
  closed : scan? .outside (tagText name attributes) = some .outside

/-- A start tag and an end tag that are read as they are written. -/
structure LegiblePair (name : String) (attributes : Attributes) : Prop extends
    LegibleTag name attributes where
  /-- The end tag ends behind the name. -/
  closedName : scan? .outside name.toList = some .outside
  /-- The start tag is not taken for an element without children. -/
  noSlash : (tagText name attributes).getLast? ≠ some '/'

/-- A tag of an element without children that is read as it is written. -/
structure LegibleSingle (name : String) (attributes : Attributes) : Prop extends
    LegibleTag name attributes where
  /-- The tag is not taken for an end tag. -/
  notBlank : tagText name attributes ≠ []

mutual

/-- A node of which all tags are read as they are written. -/
def Node.Legible : Node → Prop
  | .text _ => True
  | .element name attributes [] => LegibleSingle name attributes
  | .element name attributes (child :: children) =>
    LegiblePair name attributes ∧ child.Legible ∧ Node.LegibleAll children

/-- Neighbouring nodes of which all tags are read as they are written. -/
def Node.LegibleAll : List Node → Prop
  | [] => True
  | node :: rest => node.Legible ∧ Node.LegibleAll rest

end

theorem Node.legibleAll_children {name : String} {attributes : Attributes}
    {children : List Node} (legible : (Node.element name attributes children).Legible) :
    Node.LegibleAll children := by
  cases children with
  | nil => trivial
  | cons child rest => exact legible.2

/-! ### Texts -/

/-- Whether a text is empty or starts at a tag. -/
def StartsAtTag (text : List Char) : Prop :=
  ∀ c ∈ text.head?, c = '<'

theorem startsAtTag_cons (rest : List Char) : StartsAtTag ('<' :: rest) := by
  intro c member
  exact (Option.mem_some.mp member).symm

/-- The marks of a text do not depend on the blanks in front of it. -/
theorem marksFrom?_dropWhile (opened : List String) (text : List Char) :
    marksFrom? opened (text.dropWhile isSpace) = marksFrom? opened text := by
  have again := dropWhile_dropWhile isSpace text
  cases start : text.dropWhile isSpace with
  | nil =>
    rw [marksFrom?_blank opened start]
    exact marksFrom?_blank opened rfl
  | cons c behind =>
    rw [start] at again
    by_cases isTag : c = '<'
    · subst isTag
      cases read : readConstruct opened behind with
      | error fault => rw [marksFrom?_fault start read, marksFrom?_fault again read]
      | ok construct => rw [marksFrom?_construct start read, marksFrom?_construct again read]
    · rw [marksFrom?_run start isTag, marksFrom?_run again isTag]

theorem takeWhile_run {run rest : List Char} (noTag : ∀ c ∈ run, (c != '<') = true)
    (starts : StartsAtTag rest) :
    (run ++ rest).takeWhile (· != '<') = run ∧ (run ++ rest).dropWhile (· != '<') = rest := by
  rw [List.takeWhile_append_of_pos noTag, List.dropWhile_append_of_pos noTag]
  cases rest with
  | nil => exact ⟨List.append_nil run, rfl⟩
  | cons c others =>
    rw [starts c rfl]
    exact ⟨List.append_nil run, rfl⟩

/-- An escaped text in front of a tag is read as what is left of it without the
blanks at its ends. -/
theorem marksFrom?_escaped (opened : List String) (text : List Char) {rest : List Char}
    (starts : StartsAtTag rest) :
    marksFrom? opened (text.flatMap escapeChar ++ rest) =
      (marksFrom? opened rest).map (Node.traversalAll (textNodes (strip text)) ++ ·) := by
  have visible := dropWhile_isSpace_escaped text
  rw [traversalAll_textNodes]
  cases start : text.dropWhile isSpace with
  | nil =>
    rw [start] at visible
    have isBlank : strip text = [] := by
      unfold strip
      rw [start]
      rfl
    rw [← marksFrom?_dropWhile, dropWhile_append_blank rest visible, marksFrom?_dropWhile,
      isBlank]
    exact (Option.map_id_apply).symm
  | cons d others =>
    rw [start, List.flatMap_cons] at visible
    cases written : escapeChar d with
    | nil =>
      have notEmpty := (escapeChar_of_not_isSpace (not_isSpace_of_dropWhile start)).2.2
      rw [written] at notEmpty
      cases notEmpty
    | cons c tail =>
      rw [written, List.cons_append] at visible
      have run := (span_append visible rest).2
      have noSign : ∀ member ∈ c :: (tail ++ others.flatMap escapeChar),
          isMarkupSign member = false := by
        intro member isMember
        rw [← List.cons_append, ← written, ← List.flatMap_cons] at isMember
        exact not_isMarkupSign_of_mem_escaped isMember
      have noTag : ∀ member ∈ tail ++ others.flatMap escapeChar, (member != '<') = true := by
        intro member isMember
        have isNoSign := noSign member (List.mem_cons_of_mem _ isMember)
        simp only [isMarkupSign, Bool.or_eq_false_iff] at isNoSign
        rw [bne, isNoSign.1.1.1]
        rfl
      have isText : c ≠ '<' := by
        intro isLess
        have isNoSign := noSign c List.mem_cons_self
        rw [isLess] at isNoSign
        cases isNoSign
      obtain ⟨taken, left⟩ := takeWhile_run noTag starts
      rw [marksFrom?_run run isText, taken, left, ← visible]
      change (Event.text (strip (text.flatMap escapeChar))).marks?.bind _ = _
      rw [strip_escaped, Event.marks?, resolve_escaped]
      rfl

/-! ### Tags -/

theorem startsTag_append {front : List Char} (starts : startsTag front = true)
    (notBlank : front ≠ []) (behind : List Char) : startsTag (front ++ behind) = true := by
  cases front with
  | nil => exact absurd rfl notBlank
  | cons c rest =>
    rw [List.cons_append]
    unfold startsTag at starts ⊢
    split at starts
    · cases starts
    · cases starts
    · cases starts
    · next noDeclaration noInstruction noClosing =>
      split
      · next sameText =>
        cases sameText
        exact absurd rfl (noDeclaration rest)
      · next sameText =>
        cases sameText
        exact absurd rfl (noInstruction rest)
      · next sameText =>
        cases sameText
        exact absurd rfl (noClosing rest)
      · rfl

theorem attributesText_cons (entry : String × String) (others : List (String × String)) :
    ∃ rest, attributesText (entry :: others) = ' ' :: rest := by
  unfold attributesText
  rw [List.flatMap_cons, toList_attributeMarkup]
  exact ⟨_, rfl⟩

theorem takeWhile_attributesText (entries : List (String × String)) :
    (attributesText entries).takeWhile (fun c => !isSpace c) = [] := by
  cases entries with
  | nil => rfl
  | cons entry others =>
    obtain ⟨rest, startsBlank⟩ := attributesText_cons entry others
    rw [startsBlank]
    rfl

theorem toList_tagMarkup (name : String) (attributes : Attributes) :
    (tagMarkup name attributes).toList = '<' :: tagText name attributes := by
  have joined : ∀ entries : List (String × String),
      (String.join (entries.map attributeMarkup)).toList = attributesText entries := by
    intro entries
    induction entries with
    | nil => rfl
    | cons entry others inductionHypothesis =>
      rw [List.map_cons, String.join_cons, String.toList_append, inductionHypothesis]
      rfl
  unfold tagMarkup tagText
  rw [String.toList_append, String.toList_append, joined]
  rfl

/-- A tag with a name that starts no other construct starts none either, unless
nothing is in it. -/
theorem startsTag_tagText {name : String} {attributes : Attributes}
    (starts : startsTag name.toList = true) (notBlank : tagText name attributes ≠ [])
    (behind : List Char) : startsTag (tagText name attributes ++ behind) = true := by
  unfold tagText at notBlank ⊢
  cases nameIs : name.toList with
  | cons c rest =>
    rw [nameIs] at starts
    rw [List.append_assoc]
    exact startsTag_append starts (List.cons_ne_nil c rest) _
  | nil =>
    rw [nameIs] at notBlank
    cases entriesAre : attributes.entries with
    | nil =>
      rw [entriesAre] at notBlank
      exact absurd rfl notBlank
    | cons entry others =>
      obtain ⟨rest, startsBlank⟩ := attributesText_cons entry others
      rw [startsBlank]
      rfl

namespace LegibleTag

variable {name : String} {attributes : Attributes}

theorem tagOf_tagText (legible : LegibleTag name attributes) :
    tagOf (tagText name attributes) = ⟨name, attributesText attributes.entries⟩ := by
  have cut := tagOf_append legible.unspaced (takeWhile_attributesText attributes.entries)
  rw [String.ofList_toList] at cut
  exact cut

theorem attributes_tag (legible : LegibleTag name attributes) :
    (Tag.mk name (attributesText attributes.entries)).attributes = .ok attributes.entries :=
  readAttributesFrom_written [] _ attributes.distinct legible.keys
    (fun _ _ _ isSeen => nomatch isSeen)

end LegibleTag

/-- The tag of an element without children leads into it and out of it. -/
theorem marksFrom?_single {name : String} {attributes : Attributes}
    (legible : LegibleSingle name attributes) (opened : List String) (rest : List Char) :
    marksFrom? opened ('<' :: (tagText name attributes ++ '/' :: '>' :: rest)) =
      (marksFrom? opened rest).map ([.opens name attributes, .closes] ++ ·) := by
  have starts := startsTag_tagText legible.starts legible.notBlank ('/' :: '>' :: rest)
  have read := readConstruct_selfClosing opened starts legible.closed
  have passes : (Event.selfClosing (tagOf (tagText name attributes))).marks? =
      some [.opens name attributes, .closes] := by
    rw [legible.tagOf_tagText, Event.marks?, legible.attributes_tag]
    exact congrArg (fun entries => some [Mark.opens name entries, .closes])
      (Attributes.ofList_entries attributes)
  rw [marksFrom?_construct rfl read, passes]
  rfl

/-- The start tag of an element leads into it. -/
theorem marksFrom?_start {name : String} {attributes : Attributes}
    (legible : LegiblePair name attributes) (opened : List String) (rest : List Char) :
    marksFrom? opened ('<' :: (tagText name attributes ++ '>' :: rest)) =
      (marksFrom? (name :: opened) rest).map ([.opens name attributes] ++ ·) := by
  have starts : startsTag (tagText name attributes ++ '>' :: rest) = true := by
    by_cases isBlank : tagText name attributes = []
    · rw [isBlank]
      rfl
    · exact startsTag_tagText legible.starts isBlank ('>' :: rest)
  have read := readConstruct_opening opened starts legible.closed legible.noSlash
  have passes : (Event.opening (tagOf (tagText name attributes))).marks? =
      some [.opens name attributes] := by
    rw [legible.tagOf_tagText, Event.marks?, legible.attributes_tag]
    exact congrArg (fun entries => some [Mark.opens name entries])
      (Attributes.ofList_entries attributes)
  have sameName : (tagOf (tagText name attributes)).name = name := by
    rw [legible.tagOf_tagText]
  rw [marksFrom?_construct rfl read, passes, sameName]
  rfl

/-- The end tag of an element leads out of it. -/
theorem marksFrom?_end {name : String} {attributes : Attributes}
    (legible : LegiblePair name attributes) (opened : List String) (rest : List Char) :
    marksFrom? (name :: opened) ('<' :: '/' :: (name.toList ++ '>' :: rest)) =
      (marksFrom? opened rest).map ([.closes] ++ ·) := by
  have read := readConstruct_closing opened rest legible.unspaced legible.closedName
  rw [marksFrom?_construct rfl read]
  rfl

/-! ### Trees -/

theorem toList_markup_text (value : String) :
    (Node.text value).markup.toList = value.toList.flatMap escapeChar := by
  unfold Node.markup
  exact toList_escape value

theorem toList_markup_single (name : String) (attributes : Attributes) :
    (Node.element name attributes []).markup.toList =
      '<' :: (tagText name attributes ++ ['/', '>']) := by
  unfold Node.markup
  rw [List.isEmpty_nil, if_pos rfl, String.toList_append, toList_tagMarkup]
  rfl

theorem toList_markup_parent (name : String) (attributes : Attributes) (child : Node)
    (children : List Node) :
    (Node.element name attributes (child :: children)).markup.toList =
      '<' :: (tagText name attributes ++ '>' :: ((Node.markupAll (child :: children)).toList ++
        '<' :: '/' :: (name.toList ++ ['>']))) := by
  have signs : ">".toList = ['>'] ∧ "</".toList = ['<', '/'] := by
    decide
  unfold Node.markup
  rw [List.isEmpty_cons, if_neg Bool.false_ne_true]
  simp only [String.toList_append, toList_tagMarkup, signs.1, signs.2, List.append_assoc,
    List.cons_append, List.nil_append]

theorem markup_starts {node : Node} (isElement : node.name?.isSome = true) :
    ∃ behind, node.markup.toList = '<' :: behind := by
  cases node with
  | text value => cases isElement
  | element name attributes children =>
    cases children with
    | nil => exact ⟨_, toList_markup_single name attributes⟩
    | cons child others => exact ⟨_, toList_markup_parent name attributes child others⟩

theorem startsAtTag_markup {node : Node} (isElement : node.name?.isSome = true)
    (rest : List Char) : StartsAtTag (node.markup.toList ++ rest) := by
  obtain ⟨behind, starts⟩ := markup_starts isElement
  rw [starts]
  exact startsAtTag_cons (behind ++ rest)

theorem withoutMark_markup {node : Node} (isElement : node.name?.isSome = true) :
    withoutMark node.markup.toList = node.markup.toList := by
  obtain ⟨behind, starts⟩ := markup_starts isElement
  rw [starts]
  rfl

theorem toList_markupAll_cons (node : Node) (rest : List Node) :
    (Node.markupAll (node :: rest)).toList =
      node.markup.toList ++ (Node.markupAll rest).toList :=
  String.toList_append

mutual

/-- The markup of a legible element leads through its normal form. -/
theorem marksFrom?_markup {node : Node} (legible : node.Legible)
    (isElement : node.name?.isSome = true) (opened : List String) (rest : List Char) :
    marksFrom? opened (node.markup.toList ++ rest) =
      (marksFrom? opened rest).map (node.normal.traversal ++ ·) := by
  cases node with
  | text value => cases isElement
  | element name attributes children =>
    have legibleChildren := Node.legibleAll_children legible
    have inside := marksFrom?_markupAll [] legibleChildren (name :: opened)
      (startsAtTag_cons ('/' :: (name.toList ++ '>' :: rest)))
    rw [List.flatMap_nil, List.nil_append] at inside
    cases children with
    | nil =>
      rw [toList_markup_single]
      simp only [List.cons_append, List.append_assoc, List.nil_append]
      exact marksFrom?_single legible opened rest
    | cons child others =>
      have legibleTags := legible.1
      rw [toList_markup_parent]
      simp only [List.cons_append, List.append_assoc, List.nil_append]
      rw [marksFrom?_start legibleTags, inside, marksFrom?_end legibleTags]
      simp only [Option.map_map]
      apply congrFun
      apply congrArg
      funext following
      simp only [Function.comp_apply, Node.normal, Node.traversal, List.append_assoc,
        List.cons_append, List.nil_append]

/-- The markup of legible nodes behind a text leads through their normal form. -/
theorem marksFrom?_markupAll {nodes : List Node} (pending : List Char)
    (legible : Node.LegibleAll nodes) (opened : List String) {rest : List Char}
    (starts : StartsAtTag rest) :
    marksFrom? opened
        (pending.flatMap escapeChar ++ ((Node.markupAll nodes).toList ++ rest)) =
      (marksFrom? opened rest).map (Node.traversalAll (Node.normalAll pending nodes) ++ ·) := by
  cases nodes with
  | nil => exact marksFrom?_escaped opened pending starts
  | cons node others =>
    obtain ⟨legibleNode, legibleOthers⟩ := legible
    rw [toList_markupAll_cons]
    cases node with
    | text value =>
      have further := marksFrom?_markupAll (pending ++ value.toList) legibleOthers opened starts
      rw [List.flatMap_append] at further
      rw [toList_markup_text, Node.normalAll_text, ← further]
      simp only [List.append_assoc]
    | element name attributes children =>
      have behind := marksFrom?_markupAll [] legibleOthers opened starts
      rw [List.flatMap_nil, List.nil_append] at behind
      have isElement : (Node.element name attributes children).name?.isSome = true := rfl
      have startsHere := startsAtTag_markup isElement ((Node.markupAll others).toList ++ rest)
      rw [List.append_assoc, marksFrom?_escaped opened pending startsHere,
        marksFrom?_markup legibleNode isElement, behind, Node.normalAll_element]
      simp only [Option.map_map]
      apply congrFun
      apply congrArg
      funext following
      simp only [Function.comp_apply, Node.traversalAll_append, Node.traversalAll, Node.normal,
        List.append_assoc]

end

/-- The markup of a legible tree is read as its normal form. -/
theorem readTree_markup_of_legible {tree : Node} (legible : tree.Legible)
    (root : tree.name? = some "svg") : readTree .plain tree.markup = .ok tree.normal := by
  have isElement : tree.name?.isSome = true := by
    rw [root]
    rfl
  have read := marksFrom?_markup legible isElement [] []
  have atEnd : marksFrom? [] [] = some [] := marksFrom?_blank [] rfl
  rw [List.append_nil, atEnd] at read
  rw [readTree_plain_iff, withoutMark_markup isElement, read]
  constructor
  · exact congrArg some (List.append_nil _)
  · cases tree with
    | text value => cases isElement
    | element name attributes children => exact root

end IconForge.Svg
