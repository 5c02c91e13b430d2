import IconForge.Proofs.Svg.Legible

/-!
Contract: a tree that is read back from its markup is legible.

Owns:
- the form of the names and keys that are read at all;
- that reading keeps in step with what was written, as long as it delivers the
  tags that were written.

Main statement: `legible_of_readTree_markup`.

Does not own: the texts between tags.
-/

namespace IconForge.Svg

open IconForge.Text

/-! ### Names and keys that are read -/

/-- Whether a mark has a name and keys that can have been cut from a tag. -/
def Mark.WellCut : Mark → Prop
  | opens name attributes =>
    startsTag name.toList = true ∧ (∀ c ∈ name.toList, isSpace c = false) ∧
      ∀ key ∈ attributes.entries.map Prod.fst, isKey key.toList = true
  | _ => True

theorem startsTag_of_append {front behind : List Char}
    (starts : startsTag (front ++ behind) = true) : startsTag front = true := by
  cases front with
  | nil => rfl
  | cons c rest =>
    unfold startsTag at starts ⊢
    rw [List.cons_append] at starts
    split
    · next same =>
      cases same
      cases starts
    · next same =>
      cases same
      cases starts
    · next same =>
      cases same
      cases starts
    · rfl

/-- The attributes of a tag are the entries of the list that they make. -/
theorem attributes_eq_entries {tag : Tag} {pairs : List (String × String)}
    (read : tag.attributes = .ok pairs) :
    tag.attributes = .ok (Attributes.ofList pairs).entries := by
  rw [Attributes.entries_ofList (keys_of_readAttributesFrom read).1, read]

theorem wellCut_of_tagOf {content behind : List Char} {pairs : List (String × String)}
    (starts : startsTag (content ++ behind) = true)
    (read : (tagOf content).attributes = .ok pairs) :
    (Mark.opens (tagOf content).name (Attributes.ofList pairs)).WellCut := by
  have keys := keys_of_readAttributesFrom read
  refine ⟨?_, tagOf_name_unspaced content, ?_⟩
  · have parts := tagOf_eq content
    rw [parts] at starts
    exact startsTag_of_append (startsTag_of_append starts)
  · rw [Attributes.entries_ofList keys.1]
    exact fun key member => (keys.2 key member).1

theorem wellCut_textMarks (value : String) : ∀ mark ∈ textMarks value, mark.WellCut := by
  intro mark member
  unfold textMarks at member
  split at member
  · cases member
  · rw [List.mem_singleton.mp member]
    trivial

theorem wellCut_of_construct {opened : List String} {text : List Char} {construct : Construct}
    {marks : List Mark} (isFrom : construct.From opened text)
    (passes : construct.event.marks? = some marks) : ∀ mark ∈ marks, mark.WellCut := by
  intro mark member
  cases isFrom with
  | opening starts =>
    obtain ⟨pairs, isOk, rfl⟩ := Option.map_eq_some_iff.mp passes
    rw [List.mem_singleton.mp member]
    exact wellCut_of_tagOf starts (ok_of_toOption isOk)
  | selfClosing starts =>
    obtain ⟨pairs, isOk, rfl⟩ := Option.map_eq_some_iff.mp passes
    rcases List.mem_cons.mp member with rfl | isEnd
    · exact wellCut_of_tagOf starts (ok_of_toOption isOk)
    · rw [List.mem_singleton.mp isEnd]
      trivial
  | closing =>
    cases passes
    rw [List.mem_singleton.mp member]
    trivial
  | characterData =>
    cases passes
    exact wellCut_textMarks _ mark member
  | aside =>
    cases passes
    cases member

theorem wellCut_of_marksFrom? {opened : List String} {text : List Char} {marks : List Mark}
    (passes : marksFrom? opened text = some marks) : ∀ mark ∈ marks, mark.WellCut := by
  induction opened, text using markup_induction generalizing marks with
  | blank opened text isBlank =>
    rw [marksFrom?_blank opened isBlank] at passes
    cases passes
    exact fun _ member => nomatch member
  | fault opened text behind fault start read =>
    rw [marksFrom?_fault start read] at passes
    cases passes
  | construct opened text behind construct start read inductionHypothesis =>
    rw [marksFrom?_construct start read] at passes
    obtain ⟨here, passesHere, passesLater⟩ := Option.bind_eq_some_iff.mp passes
    obtain ⟨later, passLater, rfl⟩ := Option.map_eq_some_iff.mp passesLater
    intro mark member
    rcases List.mem_append.mp member with isHere | isLater
    · exact wellCut_of_construct (from_of_readConstruct read) passesHere mark isHere
    · exact inductionHypothesis passLater mark isLater
  | run opened text c behind start isText inductionHypothesis =>
    rw [marksFrom?_run start isText] at passes
    obtain ⟨here, passesHere, passesLater⟩ := Option.bind_eq_some_iff.mp passes
    obtain ⟨later, passLater, rfl⟩ := Option.map_eq_some_iff.mp passesLater
    obtain ⟨value, -, rfl⟩ := Option.map_eq_some_iff.mp passesHere
    intro mark member
    rcases List.mem_append.mp member with isHere | isLater
    · exact wellCut_textMarks _ mark isHere
    · exact inductionHypothesis passLater mark isLater

/-! ### Tags without the texts between them -/

/-- Whether a mark comes from a tag. -/
def Mark.isTag : Mark → Bool
  | text _ => false
  | _ => true

/-- The marks that come from tags. -/
def tagsOf (marks : List Mark) : List Mark :=
  marks.filter Mark.isTag

theorem tagsOf_append (front back : List Mark) :
    tagsOf (front ++ back) = tagsOf front ++ tagsOf back :=
  List.filter_append front back

theorem tagsOf_textNodes (text : List Char) :
    tagsOf (Node.traversalAll (textNodes text)) = [] := by
  unfold textNodes
  split <;> rfl

/-! ### In step -/

/-- What begins at a `<` is a construct, and its marks come first. -/
theorem marksFrom?_construct_cases {opened : List String} {behind : List Char}
    {marks : List Mark} (passes : marksFrom? opened ('<' :: behind) = some marks) :
    ∃ (construct : Construct) (here following : List Mark), construct.From opened behind ∧
      construct.event.marks? = some here ∧
        marksFrom? construct.opened construct.rest = some following ∧
          marks = here ++ following := by
  have start : ('<' :: behind).dropWhile isSpace = '<' :: behind := rfl
  cases read : readConstruct opened behind with
  | error fault =>
    rw [marksFrom?_fault start read] at passes
    cases passes
  | ok construct =>
    rw [marksFrom?_construct start read] at passes
    obtain ⟨here, passesHere, passesLater⟩ := Option.bind_eq_some_iff.mp passes
    obtain ⟨following, passFollowing, isAppend⟩ := Option.map_eq_some_iff.mp passesLater
    exact ⟨construct, here, following, from_of_readConstruct read, passesHere, passFollowing,
      isAppend.symm⟩

theorem eq_nil_of_blank {blank behind : List Char} (isBlank : blank.dropWhile isSpace = [])
    (visible : ∀ c ∈ (blank ++ behind).head?, isSpace c = false) : blank = [] := by
  cases blank with
  | nil => rfl
  | cons c rest =>
    have isSpaceHere := List.dropWhile_eq_nil_iff.mp isBlank c List.mem_cons_self
    rw [visible c rfl] at isSpaceHere
    cases isSpaceHere

/-- A text that is read as attributes is the text that is written for them, if
neither goes on with a blank. -/
theorem eq_attributesText {attributes : Attributes} {place : Nat} {front behind tail : List Char}
    (keys : ∀ key ∈ attributes.entries.map Prod.fst, isKey key.toList = true)
    (read : readAttributesFrom [] place front = .ok attributes.entries)
    (same : front ++ behind = attributesText attributes.entries ++ tail)
    (behindVisible : ∀ c ∈ behind.head?, isSpace c = false)
    (tailVisible : ∀ c ∈ tail.head?, isSpace c = false) :
    front = attributesText attributes.entries ∧ behind = tail := by
  have written : readAttributesFrom [] place (attributesText attributes.entries) =
      .ok attributes.entries :=
    readAttributesFrom_written [] place attributes.distinct keys
      (fun _ _ _ isSeen => nomatch isSeen)
  have isEmptyRest : ∀ following : List (String × String),
      attributes.entries = attributes.entries ++ following → following = [] :=
    fun following equal => List.self_eq_append_right.mp equal
  rcases List.append_eq_append_iff.mp same with ⟨more, longer, left⟩ | ⟨more, shorter, left⟩
  · rw [longer] at written
    obtain ⟨later, stop, following, readMore, split⟩ := readAttributesFrom_split read written
    rw [isEmptyRest following split] at readMore
    have isBlank := blank_of_readAttributesFrom_nil readMore
    rw [left] at behindVisible
    have nothing := eq_nil_of_blank isBlank behindVisible
    rw [nothing] at longer left
    exact ⟨(longer.trans (List.append_nil front)).symm, left⟩
  · rw [shorter] at read
    obtain ⟨later, stop, following, readMore, split⟩ := readAttributesFrom_split written read
    rw [isEmptyRest following split] at readMore
    have isBlank := blank_of_readAttributesFrom_nil readMore
    rw [left] at tailVisible
    have nothing := eq_nil_of_blank isBlank tailVisible
    rw [nothing] at shorter left
    exact ⟨shorter.trans (List.append_nil _), left.symm⟩

/-- A tag with the name and the attributes that were written is the tag that was
written. -/
theorem eq_tagText {name : String} {attributes : Attributes} {content behind tail : List Char}
    (keys : ∀ key ∈ attributes.entries.map Prod.fst, isKey key.toList = true)
    (sameName : (tagOf content).name = name)
    (read : (tagOf content).attributes = .ok attributes.entries)
    (same : content ++ behind = tagText name attributes ++ tail)
    (behindVisible : ∀ c ∈ behind.head?, isSpace c = false)
    (tailVisible : ∀ c ∈ tail.head?, isSpace c = false) :
    content = tagText name attributes ∧ behind = tail := by
  have parts := tagOf_eq content
  rw [sameName] at parts
  unfold tagText at same ⊢
  rw [parts, List.append_assoc, List.append_assoc, List.append_cancel_left_eq] at same
  obtain ⟨sameText, sameBehind⟩ := eq_attributesText keys read same behindVisible tailVisible
  exact ⟨by rw [← sameText]; exact parts, sameBehind⟩

/-- A `>` or a `/`, with which the text of a tag ends. -/
theorem visible_of_tail {c : Char} {rest : List Char} (ends : c = '>' ∨ c = '/') :
    ∀ first ∈ (c :: rest).head?, isSpace first = false := by
  intro first member
  rw [← Option.mem_some.mp member]
  rcases ends with rfl | rfl <;> rfl

/-- A tag that is written does not start as a declaration or an instruction. -/
theorem not_declared {name : String} {attributes : Attributes} {c d : Char}
    {tail body : List Char} (starts : startsTag name.toList = true) (ends : c = '>' ∨ c = '/')
    (same : tagText name attributes ++ c :: tail = d :: body) (declares : d = '!' ∨ d = '?') :
    False := by
  by_cases isBlank : tagText name attributes = []
  · rw [isBlank, List.nil_append] at same
    obtain ⟨rfl, -⟩ := List.cons.inj same
    rcases ends with rfl | rfl <;> rcases declares with isSign | isSign <;> cases isSign
  · have startsHere := startsTag_tagText starts isBlank (c :: tail)
    rw [same] at startsHere
    rcases declares with rfl | rfl <;> cases startsHere

/-- If the tag that is written is delivered, it is read to its end and no
further. -/
theorem tag_in_step {name : String} {attributes : Attributes} {opened : List String} {c : Char}
    {tail : List Char} {marks more : List Mark}
    (wellCut : (Mark.opens name attributes).WellCut) (ends : c = '>' ∨ c = '/')
    (passes : marksFrom? opened ('<' :: (tagText name attributes ++ c :: tail)) = some marks)
    (same : tagsOf marks = .opens name attributes :: more) :
    startsTag (tagText name attributes ++ c :: tail) = true ∧
      LegibleTag name attributes ∧
      ((c = '>' ∧ (tagText name attributes).getLast? ≠ some '/' ∧
          ∃ following, marksFrom? (name :: opened) tail = some following ∧
            tagsOf following = more) ∨
        (c = '/' ∧ ∃ rest following, tail = '>' :: rest ∧
          marksFrom? opened rest = some following ∧ more = .closes :: tagsOf following)) := by
  obtain ⟨starts, unspaced, keys⟩ := wellCut
  obtain ⟨construct, here, following, isFrom, passesHere, passesLater, rfl⟩ :=
    marksFrom?_construct_cases passes
  rw [tagsOf_append] at same
  generalize textIs : tagText name attributes ++ c :: tail = text at isFrom ⊢
  -- Of all that can begin here, only a tag can deliver the mark of a tag first.
  cases isFrom with
  | @opening content rest length startsHere scanned noSlash =>
    obtain ⟨pairs, isOk, rfl⟩ := Option.map_eq_some_iff.mp passesHere
    obtain ⟨sameTag, sameMore⟩ := List.cons.inj same
    obtain ⟨sameName, sameAttributes⟩ := Mark.opens.inj sameTag
    have read := attributes_eq_entries (ok_of_toOption isOk)
    rw [sameAttributes] at read
    obtain ⟨sameText, sameTail⟩ := eq_tagText keys sameName read textIs.symm
      (visible_of_tail (Or.inl rfl)) (visible_of_tail ends)
    obtain ⟨isEnd, rfl⟩ := List.cons.inj sameTail
    subst sameText
    have slashless : (tagText name attributes).getLast? ≠ some '/' :=
      getLast?_of_dropEnd?_slash noSlash
    rw [sameName] at passesLater
    exact ⟨startsHere, ⟨starts, unspaced, keys, scanned⟩,
      Or.inl ⟨isEnd.symm, slashless, following, passesLater, sameMore⟩⟩
  | @selfClosing content rest length startsHere scanned =>
    obtain ⟨pairs, isOk, rfl⟩ := Option.map_eq_some_iff.mp passesHere
    obtain ⟨sameTag, sameMore⟩ := List.cons.inj same
    obtain ⟨sameName, sameAttributes⟩ := Mark.opens.inj sameTag
    have read := attributes_eq_entries (ok_of_toOption isOk)
    rw [sameAttributes] at read
    obtain ⟨sameText, sameTail⟩ := eq_tagText keys sameName read textIs.symm
      (visible_of_tail (Or.inr rfl)) (visible_of_tail ends)
    obtain ⟨isEnd, rfl⟩ := List.cons.inj sameTail
    subst sameText
    exact ⟨startsHere, ⟨starts, unspaced, keys, scan?_outside_of_slash scanned⟩,
      Or.inr ⟨isEnd.symm, rest, following, rfl, passesLater, sameMore.symm⟩⟩
  | closing =>
    cases passesHere
    cases same
  | @characterData body rest value length =>
    exact (not_declared starts ends textIs (Or.inl rfl)).elim
  | @aside d body rest length declares =>
    exact (not_declared starts ends textIs declares).elim

/-- If an end tag is delivered where one is written, it is read to its end and
no further. -/
theorem end_in_step {name : String} {opened : List String} {rest : List Char}
    {marks more : List Mark}
    (passes : marksFrom? (name :: opened) ('<' :: '/' :: (name.toList ++ '>' :: rest)) =
      some marks)
    (same : tagsOf marks = .closes :: more) :
    scan? .outside name.toList = some .outside ∧
      ∃ following, marksFrom? opened rest = some following ∧ tagsOf following = more := by
  obtain ⟨construct, here, following, isFrom, passesHere, passesLater, rfl⟩ :=
    marksFrom?_construct_cases passes
  rw [tagsOf_append] at same
  generalize textIs : '/' :: (name.toList ++ '>' :: rest) = text at isFrom
  cases isFrom with
  | @opening content behind length startsHere scanned noSlash =>
    rw [← textIs] at startsHere
    cases startsHere
  | @selfClosing content behind length startsHere scanned =>
    rw [← textIs] at startsHere
    cases startsHere
  | @closing content behind outer length scanned named =>
    cases passesHere
    obtain ⟨isName, rfl⟩ := List.cons.inj named
    obtain ⟨-, sameText⟩ := List.cons.inj textIs
    obtain ⟨blanks, isBlank, parts⟩ := closingName_append content
    generalize closingName content = trimmed at isName parts
    subst isName parts
    rw [String.toList_ofList, List.append_assoc, List.append_cancel_left_eq] at sameText
    have visible : ∀ c ∈ (blanks ++ '>' :: behind).head?, isSpace c = false := by
      rw [← sameText]
      exact visible_of_tail (Or.inl rfl)
    have nothing := eq_nil_of_blank isBlank visible
    subst nothing
    obtain ⟨-, rfl⟩ := List.cons.inj sameText
    rw [List.append_nil] at scanned
    rw [String.toList_ofList]
    exact ⟨scanned, following, passesLater, List.cons.inj same |>.2⟩
  | characterData => cases textIs
  | aside declares =>
    obtain ⟨isSlash, -⟩ := List.cons.inj textIs
    rcases declares with rfl | rfl <;> cases isSlash

/-- What an escaped text in front of a tag leaves for the tags behind it. -/
theorem text_in_step {opened : List String} {text rest : List Char} {marks : List Mark}
    (starts : StartsAtTag rest)
    (passes : marksFrom? opened (text.flatMap escapeChar ++ rest) = some marks) :
    ∃ following, marksFrom? opened rest = some following ∧ tagsOf following = tagsOf marks := by
  rw [marksFrom?_escaped opened text starts] at passes
  obtain ⟨following, passesLater, isAppend⟩ := Option.map_eq_some_iff.mp passes
  refine ⟨following, passesLater, ?_⟩
  rw [← isAppend, tagsOf_append, tagsOf_textNodes, List.nil_append]

mutual

/-- An element is legible if its tags are delivered where its markup stands. -/
theorem element_in_step {node : Node} {opened : List String} {rest : List Char}
    {marks more : List Mark} (isElement : node.name?.isSome = true)
    (wellCut : ∀ mark ∈ node.traversal, mark.WellCut)
    (passes : marksFrom? opened (node.markup.toList ++ rest) = some marks)
    (same : tagsOf marks = tagsOf node.traversal ++ more) :
    node.Legible ∧
      ∃ following, marksFrom? opened rest = some following ∧ tagsOf following = more := by
  cases node with
  | text value => cases isElement
  | element name attributes children =>
    have wellCutTag := wellCut (.opens name attributes) List.mem_cons_self
    have wellCutChildren : ∀ mark ∈ Node.traversalAll children, mark.WellCut := by
      intro mark member
      exact wellCut mark (List.mem_cons_of_mem _ (List.mem_append_left _ member))
    have sameTags : tagsOf marks =
        .opens name attributes :: (tagsOf (Node.traversalAll children) ++ .closes :: more) := by
      rw [same]
      change .opens name attributes :: tagsOf (Node.traversalAll children ++ [.closes]) ++ more = _
      rw [tagsOf_append, List.cons_append, List.append_assoc]
      rfl
    cases children with
    | nil =>
      rw [toList_markup_single] at passes
      simp only [List.cons_append, List.append_assoc, List.nil_append] at passes
      obtain ⟨startsHere, legible, isParent | isSingle⟩ :=
        tag_in_step wellCutTag (Or.inr rfl) passes sameTags
      · obtain ⟨isEnd, -⟩ := isParent
        cases isEnd
      · obtain ⟨-, behind, following, sameBehind, passesLater, sameMore⟩ := isSingle
        obtain ⟨-, rfl⟩ := List.cons.inj sameBehind
        refine ⟨⟨legible, ?_⟩, following, passesLater, (List.cons.inj sameMore).2.symm⟩
        intro isBlank
        rw [isBlank] at startsHere
        cases startsHere
    | cons child others =>
      rw [toList_markup_parent] at passes
      simp only [List.cons_append, List.append_assoc, List.nil_append] at passes
      obtain ⟨-, legible, isParent | isSingle⟩ :=
        tag_in_step wellCutTag (Or.inl rfl) passes sameTags
      · obtain ⟨-, noSlash, inside, passesInside, sameInside⟩ := isParent
        obtain ⟨legibleChildren, behind, passesEnd, sameEnd⟩ :=
          nodes_in_step [] wellCutChildren (startsAtTag_cons _) passesInside sameInside
        obtain ⟨closedName, following, passesLater, sameMore⟩ := end_in_step passesEnd sameEnd
        exact ⟨⟨⟨legible, closedName, noSlash⟩, legibleChildren⟩, following, passesLater,
          sameMore⟩
      · obtain ⟨isSlash, -⟩ := isSingle
        cases isSlash

/-- Nodes are legible if their tags are delivered where their markup stands,
whatever texts come before and between them. -/
theorem nodes_in_step {nodes : List Node} (pending : List Char) {opened : List String}
    {rest : List Char} {marks more : List Mark}
    (wellCut : ∀ mark ∈ Node.traversalAll nodes, mark.WellCut) (starts : StartsAtTag rest)
    (passes : marksFrom? opened
      (pending.flatMap escapeChar ++ ((Node.markupAll nodes).toList ++ rest)) = some marks)
    (same : tagsOf marks = tagsOf (Node.traversalAll nodes) ++ more) :
    Node.LegibleAll nodes ∧
      ∃ following, marksFrom? opened rest = some following ∧ tagsOf following = more := by
  cases nodes with
  | nil =>
    obtain ⟨following, passesLater, sameTags⟩ := text_in_step starts passes
    exact ⟨trivial, following, passesLater, sameTags.trans same⟩
  | cons node others =>
    have wellCutNode : ∀ mark ∈ node.traversal, mark.WellCut :=
      fun mark member => wellCut mark (List.mem_append_left _ member)
    have wellCutOthers : ∀ mark ∈ Node.traversalAll others, mark.WellCut :=
      fun mark member => wellCut mark (List.mem_append_right _ member)
    rw [Node.traversalAll, tagsOf_append, List.append_assoc] at same
    rw [toList_markupAll_cons] at passes
    cases node with
    | text value =>
      rw [toList_markup_text, List.append_assoc, ← List.append_assoc,
        ← List.flatMap_append] at passes
      obtain ⟨legibleOthers, behind⟩ :=
        nodes_in_step (pending ++ value.toList) wellCutOthers starts passes same
      exact ⟨⟨trivial, legibleOthers⟩, behind⟩
    | element name attributes children =>
      have isElement : (Node.element name attributes children).name?.isSome = true := rfl
      have startsHere := startsAtTag_markup isElement ((Node.markupAll others).toList ++ rest)
      rw [List.append_assoc] at passes
      obtain ⟨here, passesHere, sameHere⟩ := text_in_step startsHere passes
      obtain ⟨legible, behind, passesBehind, sameBehind⟩ :=
        element_in_step isElement wellCutNode passesHere (sameHere.trans same)
      obtain ⟨legibleOthers, following⟩ :=
        nodes_in_step [] wellCutOthers starts passesBehind sameBehind
      exact ⟨⟨legible, legibleOthers⟩, following⟩

end

/-- A tree that is read back from its markup is legible. -/
theorem legible_of_readTree_markup {tree : Node}
    (read : readTree .plain tree.markup = .ok tree) : tree.Legible := by
  obtain ⟨passes, root⟩ := readTree_plain_iff.mp read
  have isElement : tree.name?.isSome = true := by
    rw [root]
    rfl
  rw [withoutMark_markup isElement] at passes
  have wellCut := wellCut_of_marksFrom? passes
  rw [← List.append_nil tree.markup.toList] at passes
  exact (element_in_step isElement wellCut passes (List.append_nil _).symm).1

end IconForge.Svg
