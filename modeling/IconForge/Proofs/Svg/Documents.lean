import IconForge.Proofs.Svg.Building

/-!
Contract: the texts that are read, and the trees that they are read as.

Owns:
- what events tell of a tree, rule by rule, and that they tell one thing only;
- texts that are documents of a tree.

Main statement: `parse_eq_ok_iff_isDocument`.

Does not own: how a tree is put together while events come in.
-/

namespace IconForge.Svg

/-- What events tell on the way through a tree. A start tag tells its name and
its attributes as they are listed in it, a text what stands for it once its
references are replaced. Events whose attributes or references are at fault
tell nothing that could be said. -/
inductive Tells : List Delivery → List Mark → Prop where
  | nothing : Tells [] []
  | opening {tag : Tag} {attributes : Attributes} {offset : Nat} {rest : List Delivery}
      {marks : List Mark} (read : tag.attributes = .ok attributes.entries)
      (following : Tells rest marks) :
      Tells (⟨.opening tag, offset⟩ :: rest) (.opens tag.name attributes :: marks)
  | selfClosing {tag : Tag} {attributes : Attributes} {offset : Nat} {rest : List Delivery}
      {marks : List Mark} (read : tag.attributes = .ok attributes.entries)
      (following : Tells rest marks) :
      Tells (⟨.selfClosing tag, offset⟩ :: rest)
        (.opens tag.name attributes :: .closes :: marks)
  | closing {offset : Nat} {rest : List Delivery} {marks : List Mark}
      (following : Tells rest marks) : Tells (⟨.closing, offset⟩ :: rest) (.closes :: marks)
  | text {raw value : List Char} {offset : Nat} {rest : List Delivery} {marks : List Mark}
      (resolved : resolve raw = .ok value) (notEmpty : value ≠ [])
      (following : Tells rest marks) :
      Tells (⟨.text raw, offset⟩ :: rest) (.text (String.ofList value) :: marks)
  | emptyText {raw : List Char} {offset : Nat} {rest : List Delivery} {marks : List Mark}
      (resolved : resolve raw = .ok []) (following : Tells rest marks) :
      Tells (⟨.text raw, offset⟩ :: rest) marks
  | characterData {value : String} {offset : Nat} {rest : List Delivery} {marks : List Mark}
      (notEmpty : value ≠ "") (following : Tells rest marks) :
      Tells (⟨.characterData value, offset⟩ :: rest) (.text value :: marks)
  | emptyCharacterData {offset : Nat} {rest : List Delivery} {marks : List Mark}
      (following : Tells rest marks) : Tells (⟨.characterData "", offset⟩ :: rest) marks
  | aside {offset : Nat} {rest : List Delivery} {marks : List Mark}
      (following : Tells rest marks) : Tells (⟨.aside, offset⟩ :: rest) marks

/-! ### What is told is what the events stand for -/

theorem textMarks_of_ne {value : String} (notEmpty : value ≠ "") :
    textMarks value = [.text value] := by
  unfold textMarks
  rw [if_neg]
  intro isEmpty
  exact notEmpty (String.isEmpty_iff.mp isEmpty)

theorem ofList_ne_empty {value : List Char} (notEmpty : value ≠ []) :
    String.ofList value ≠ "" := by
  intro same
  have characters := congrArg String.toList same
  rw [String.toList_ofList] at characters
  exact notEmpty characters

/-- Adding an event adds its marks in front. -/
theorem marksOf?_cons (event : Event) {offset : Nat} {rest : List Delivery}
    {here later : List Mark} (marks : event.marks? = some here)
    (following : marksOf? rest = some later) :
    marksOf? (⟨event, offset⟩ :: rest) = some (here ++ later) := by
  rw [marksOf?, marks, Option.bind_some, following]
  rfl

theorem marks?_opening {tag : Tag} {attributes : Attributes}
    (read : tag.attributes = .ok attributes.entries) :
    (Event.opening tag).marks? = some [.opens tag.name attributes] := by
  rw [Event.marks?, read]
  exact congrArg (fun same => some [Mark.opens tag.name same])
    (Attributes.ofList_entries attributes)

theorem marks?_selfClosing {tag : Tag} {attributes : Attributes}
    (read : tag.attributes = .ok attributes.entries) :
    (Event.selfClosing tag).marks? = some [.opens tag.name attributes, .closes] := by
  rw [Event.marks?, read]
  exact congrArg (fun same => some [Mark.opens tag.name same, .closes])
    (Attributes.ofList_entries attributes)

theorem marks?_text {raw value : List Char} (resolved : resolve raw = .ok value) :
    (Event.text raw).marks? = some (textMarks (String.ofList value)) := by
  rw [Event.marks?, resolved]
  rfl

theorem marksOf?_of_tells {deliveries : List Delivery} {marks : List Mark}
    (tells : Tells deliveries marks) : marksOf? deliveries = some marks := by
  induction tells with
  | nothing => rfl
  | opening read _ following => exact marksOf?_cons _ (marks?_opening read) following
  | selfClosing read _ following => exact marksOf?_cons _ (marks?_selfClosing read) following
  | closing _ following => exact marksOf?_cons .closing rfl following
  | text resolved notEmpty _ following =>
    have marks := marks?_text resolved
    rw [textMarks_of_ne (ofList_ne_empty notEmpty)] at marks
    exact marksOf?_cons _ marks following
  | emptyText resolved _ following => exact marksOf?_cons _ (marks?_text resolved) following
  | characterData notEmpty _ following =>
    exact marksOf?_cons (.characterData _) (congrArg some (textMarks_of_ne notEmpty)) following
  | emptyCharacterData _ following => exact marksOf?_cons (.characterData "") rfl following
  | aside _ following => exact marksOf?_cons .aside rfl following

/-- The attributes that are read from a tag have different keys, so that none
of them is lost. -/
theorem entries_ofList_of_read {tag : Tag} {pairs : List (String × String)}
    (read : tag.attributes = .ok pairs) : (Attributes.ofList pairs).entries = pairs :=
  Attributes.entries_ofList (keys_of_readAttributesFrom read).1

theorem tells_of_marks? {delivery : Delivery} {rest : List Delivery} {here later : List Mark}
    (marks : delivery.event.marks? = some here) (following : Tells rest later) :
    Tells (delivery :: rest) (here ++ later) := by
  obtain ⟨event, offset⟩ := delivery
  cases event with
  | opening tag =>
    obtain ⟨pairs, isRead, rfl⟩ := Option.map_eq_some_iff.mp marks
    have read := ok_of_toOption isRead
    exact .opening (read.trans (congrArg Except.ok (entries_ofList_of_read read).symm)) following
  | selfClosing tag =>
    obtain ⟨pairs, isRead, rfl⟩ := Option.map_eq_some_iff.mp marks
    have read := ok_of_toOption isRead
    exact .selfClosing (read.trans (congrArg Except.ok (entries_ofList_of_read read).symm))
      following
  | closing =>
    cases marks
    exact .closing following
  | text raw =>
    obtain ⟨value, isResolved, rfl⟩ := Option.map_eq_some_iff.mp marks
    have resolved := ok_of_toOption isResolved
    cases value with
    | nil => exact .emptyText resolved following
    | cons c others =>
      rw [textMarks_of_ne (ofList_ne_empty (List.cons_ne_nil c others))]
      exact .text resolved (List.cons_ne_nil c others) following
  | characterData value =>
    cases marks
    by_cases isEmpty : value = ""
    · subst isEmpty
      exact .emptyCharacterData following
    · rw [textMarks_of_ne isEmpty]
      exact .characterData isEmpty following
  | aside =>
    cases marks
    exact .aside following

theorem tells_of_marksOf? {deliveries : List Delivery} {marks : List Mark}
    (standFor : marksOf? deliveries = some marks) : Tells deliveries marks := by
  induction deliveries generalizing marks with
  | nil =>
    cases standFor
    exact .nothing
  | cons delivery rest inductionHypothesis =>
    rw [marksOf?] at standFor
    obtain ⟨here, passes, others⟩ := Option.bind_eq_some_iff.mp standFor
    obtain ⟨later, passLater, rfl⟩ := Option.map_eq_some_iff.mp others
    exact tells_of_marks? passes (inductionHypothesis passLater)

/-- Events tell at most one thing: the marks that they stand for. -/
theorem tells_iff {deliveries : List Delivery} {marks : List Mark} :
    Tells deliveries marks ↔ marksOf? deliveries = some marks :=
  ⟨marksOf?_of_tells, tells_of_marksOf?⟩

theorem reading_marks?_iff {reading : Reading} {marks : List Mark} :
    reading.marks? = some marks ↔ reading.fault = none ∧ Tells reading.deliveries marks := by
  obtain ⟨deliveries, fault⟩ := reading
  rw [tells_iff]
  cases fault with
  | none => exact (and_iff_right rfl).symm
  | some fault =>
    exact iff_of_false (fun impossible => nomatch impossible) (fun both => nomatch both.1)

/-! ### Documents -/

/-- A text is a document of a tree: it is markup to its end, it tells all of
the tree and nothing else in document order, and the root is named `svg`. -/
structure IsDocument (text : String) (node : Node) : Prop where
  isMarkup : (readDocument text.toList).fault = none
  tellsTree : Tells (readDocument text.toList).deliveries node.traversal
  isDrawing : node.name? = some "svg"

theorem isDocument_iff {text : String} {node : Node} :
    IsDocument text node ↔
      (readDocument text.toList).marks? = some node.traversal ∧ node.name? = some "svg" := by
  rw [reading_marks?_iff]
  exact ⟨fun document => ⟨⟨document.isMarkup, document.tellsTree⟩, document.isDrawing⟩,
    fun parts => ⟨parts.1.1, parts.1.2, parts.2⟩⟩

/-- A text is read as a tree exactly if it is a document of that tree. All
other texts are refused: those with a fault, and those that tell no root,
several roots, a text outside the root, an element that stays open, or a root
of another name. -/
theorem parse_eq_ok_iff_isDocument (text : String) :
    (∀ node, parse text = .ok node ↔ IsDocument text node) ∧
      ((∃ error, parse text = .error error) ↔ ¬∃ node, IsDocument text node) := by
  have accepts (node : Node) : parse text = .ok node ↔ IsDocument text node := by
    rw [isDocument_iff, readDocument_eq]
    exact readTree_plain_iff
  refine ⟨accepts, ?_⟩
  constructor
  · rintro ⟨error, refused⟩ ⟨node, document⟩
    rw [(accepts node).mpr document] at refused
    cases refused
  · intro noDocument
    cases outcome : parse text with
    | error error => exact ⟨error, rfl⟩
    | ok node => exact absurd ⟨node, (accepts node).mp outcome⟩ noDocument

end IconForge.Svg
