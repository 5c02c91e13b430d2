import IconForge.Proofs.Svg.Building

/-!
Contract: reading with cleaning is reading followed by cleaning the tree.

Owns:
- the clean form of a tree, defined on the tree alone;
- how a run that cleans keeps up with a run that does not: what is open inside
  an element left out, and the clean forms of everything else.

Main statement: `optimize_of_parse`.

Does not own: documents that are only read with cleaning, because what is
wrong with them is left out.
-/

namespace IconForge.Svg

open IconForge.Text

/-! ### Clean trees -/

theorem keys_cleanAttributes_sublist (entries : List (String × String)) :
    ((cleanAttributes entries).map Prod.fst).Sublist (entries.map Prod.fst) := by
  induction entries with
  | nil => exact List.Sublist.slnil
  | cons entry others inductionHypothesis =>
    unfold cleanAttributes at inductionHypothesis ⊢
    rw [List.filterMap_cons]
    split
    · exact inductionHypothesis.cons _
    · next kept isKept =>
      have sameKey : kept.1 = entry.1 := by
        simp only at isKept
        split at isKept
        · cases isKept
        · cases isKept
          rfl
      rw [List.map_cons, List.map_cons, sameKey]
      exact inductionHypothesis.cons_cons _

/-- The attributes that cleaning keeps, with their blanks collapsed. -/
def Attributes.clean (attributes : Attributes) : Attributes where
  entries := cleanAttributes attributes.entries
  distinct := attributes.distinct.sublist (keys_cleanAttributes_sublist attributes.entries)

/-- Whether cleaning leaves out a node with all that is inside it. -/
def Node.isDropped : Node → Bool
  | .element name _ _ => isDroppedElement name
  | .text _ => false

mutual

/-- A node with clean attributes and with only those children that are neither
dropped nor empty containers once they are clean. -/
def Node.clean : Node → Node
  | .text value => .text value
  | .element name attributes children =>
    .element name attributes.clean (Node.cleanAll children)

/-- The clean forms of those neighbouring nodes that cleaning keeps. -/
def Node.cleanAll : List Node → List Node
  | [] => []
  | node :: rest =>
    if node.isDropped || isEmptyContainer node.clean then Node.cleanAll rest
    else node.clean :: Node.cleanAll rest

end

namespace Node

theorem cleanAll_append (front back : List Node) :
    cleanAll (front ++ back) = cleanAll front ++ cleanAll back := by
  induction front with
  | nil => rfl
  | cons node rest inductionHypothesis =>
    rw [List.cons_append, cleanAll, cleanAll, inductionHypothesis]
    split <;> rfl

theorem cleanAll_of_dropped {node : Node} (dropped : node.isDropped = true) :
    cleanAll [node] = [] := by
  rw [cleanAll, dropped]
  rfl

theorem cleanAll_of_empty {node : Node} (empty : isEmptyContainer node.clean = true) :
    cleanAll [node] = [] := by
  rw [cleanAll, empty, Bool.or_true]
  rfl

theorem cleanAll_of_kept {node : Node} (kept : node.isDropped = false)
    (notEmpty : isEmptyContainer node.clean = false) : cleanAll [node] = [node.clean] := by
  rw [cleanAll, kept, notEmpty]
  rfl

end Node

/-- An open element with clean attributes and clean children. -/
def OpenElement.clean (element : OpenElement) : OpenElement where
  name := element.name
  attributes := element.attributes.clean
  children := Node.cleanAll element.children

theorem OpenElement.close_clean (element : OpenElement) :
    element.clean.close = element.close.clean := by
  unfold OpenElement.close
  rw [Node.clean]
  rfl

theorem OpenElement.clean_push (element : OpenElement) (node : Node) :
    (element.push node).clean =
      { element.clean with children := element.clean.children ++ Node.cleanAll [node] } := by
  unfold OpenElement.push OpenElement.clean
  rw [Node.cleanAll_append]

/-- The clean form of a root, if cleaning keeps it. -/
def cleanRoot : Option Node → Option Node
  | none => none
  | some node => (Node.cleanAll [node]).head?

namespace Building

/-! ### Runs side by side -/

/-- How what has been built with cleaning goes with what has been built without:
the elements that are open there are those hidden inside an element that was
dropped, and those that are kept and are open here too, in their clean form. -/
structure Follows (hidden kept : List OpenElement) (whole cleaned : Building) : Prop where
  noneSkipped : whole.skipping = 0
  opened : whole.opened = hidden ++ kept
  skipping : cleaned.skipping = hidden.length
  outermost : ∀ element ∈ hidden.getLast?, isDroppedElement element.name = true
  visible : ∀ element ∈ kept, isDroppedElement element.name = false
  openedCleaned : cleaned.opened = kept.map OpenElement.clean
  rootCleaned : cleaned.root = cleanRoot whole.root

theorem follows_start : Follows [] [] start start where
  noneSkipped := rfl
  opened := rfl
  skipping := rfl
  outermost := fun _ member => nomatch member
  visible := fun _ member => nomatch member
  openedCleaned := rfl
  rootCleaned := rfl

variable {hidden kept : List OpenElement} {whole cleaned next : Building} {node : Node}

/-- What is put into a hidden element changes nothing that is kept. -/
theorem Follows.push_hidden {parent : OpenElement}
    (follows : Follows (parent :: hidden) kept whole cleaned) (node : Node) :
    Follows (parent.push node :: hidden) kept
      { whole with opened := parent.push node :: (hidden ++ kept) } cleaned where
  noneSkipped := follows.noneSkipped
  opened := rfl
  skipping := follows.skipping
  outermost := by
    have outermost := follows.outermost
    intro element member
    cases hidden with
    | nil =>
      cases member
      exact outermost parent rfl
    | cons other others => exact outermost element member
  visible := follows.visible
  openedCleaned := follows.openedCleaned
  rootCleaned := follows.rootCleaned

theorem Follows.push_kept {parent : OpenElement}
    (follows : Follows [] (parent :: kept) whole cleaned) (node : Node) :
    Follows [] (parent.push node :: kept)
      { whole with opened := parent.push node :: kept }
      { cleaned with opened := (parent.push node).clean :: kept.map OpenElement.clean } where
  noneSkipped := follows.noneSkipped
  opened := rfl
  skipping := follows.skipping
  outermost := follows.outermost
  visible := by
    have visible := follows.visible
    intro element member
    rcases List.mem_cons.mp member with isHead | isLater
    · rw [isHead]
      exact visible parent List.mem_cons_self
    · exact visible element (List.mem_cons_of_mem _ isLater)
  openedCleaned := rfl
  rootCleaned := follows.rootCleaned

/-- A node of which nothing is left changes nothing that is kept. -/
theorem Follows.attach_gone (follows : Follows [] kept whole cleaned)
    (attached : whole.attach .plain node = .ok next) (gone : Node.cleanAll [node] = []) :
    ∃ kept, Follows [] kept next cleaned := by
  have opened := follows.opened
  rcases attach_plain_cases attached with
    ⟨parent, outer, hasParent, rfl⟩ | ⟨hasNone, rootless, rfl⟩
  · rw [List.nil_append, hasParent] at opened
    subst opened
    have unchanged : (parent.push node).clean = parent.clean := by
      rw [OpenElement.clean_push, gone, List.append_nil]
    have pushed := follows.push_kept node
    rw [unchanged] at pushed
    have sameOpened := follows.openedCleaned
    rw [List.map_cons] at sameOpened
    rw [← sameOpened] at pushed
    exact ⟨_, pushed⟩
  · rw [List.nil_append, hasNone] at opened
    subst opened
    refine ⟨[], { follows with rootCleaned := ?_ }⟩
    rw [follows.rootCleaned, rootless, cleanRoot, cleanRoot, gone]
    rfl

/-- What becomes of a node that is not dropped becomes of its clean form, too. -/
theorem Follows.attach_visible (follows : Follows [] kept whole cleaned)
    (attached : whole.attach .plain node = .ok next) (visible : node.isDropped = false) :
    ∃ kept cleanedNext, cleaned.attach .cleaning node.clean = .ok cleanedNext ∧
      Follows [] kept next cleanedNext := by
  unfold attach
  by_cases empty : isEmptyContainer node.clean = true
  · rw [if_pos ⟨rfl, empty⟩]
    obtain ⟨kept, stillFollows⟩ := follows.attach_gone attached (Node.cleanAll_of_empty empty)
    exact ⟨kept, cleaned, rfl, stillFollows⟩
  · rw [if_neg (fun both => empty both.2)]
    have keeps := Node.cleanAll_of_kept visible (Bool.eq_false_iff.mpr empty)
    have opened := follows.opened
    rcases attach_plain_cases attached with
      ⟨parent, outer, hasParent, rfl⟩ | ⟨hasNone, rootless, rfl⟩
    · rw [List.nil_append, hasParent] at opened
      subst opened
      have pushed := follows.push_kept node
      rw [OpenElement.clean_push, keeps] at pushed
      rw [follows.openedCleaned, List.map_cons]
      exact ⟨_, _, rfl, pushed⟩
    · rw [List.nil_append, hasNone] at opened
      subst opened
      rw [follows.openedCleaned, follows.rootCleaned, rootless]
      refine ⟨[], _, rfl, { follows with openedCleaned := rfl, rootCleaned := ?_ }⟩
      rw [cleanRoot, keeps]
      rfl

theorem Follows.pushText (follows : Follows [] kept whole cleaned) {value : String}
    (pushed : whole.pushText value = .ok next) :
    ∃ kept cleanedNext, cleaned.pushText value = .ok cleanedNext ∧
      Follows [] kept next cleanedNext := by
  unfold Building.pushText
  have opened := follows.opened
  rcases pushText_cases pushed with
    ⟨isEmpty, rfl⟩ | ⟨notEmpty, parent, outer, hasParent, rfl⟩
  · rw [if_pos isEmpty]
    exact ⟨kept, cleaned, rfl, follows⟩
  · rw [if_neg (Bool.eq_false_iff.mp notEmpty), follows.openedCleaned]
    rw [List.nil_append, hasParent] at opened
    subst opened
    have isPushed := follows.push_kept (.text value)
    rw [OpenElement.clean_push] at isPushed
    exact ⟨_, _, rfl, isPushed⟩

/-- What is attached behind hidden elements is attached to a hidden one. -/
theorem Follows.attach_hidden {parent : OpenElement}
    (follows : Follows (parent :: hidden) kept whole cleaned)
    (attached : whole.attach .plain node = .ok next) :
    Follows (parent.push node :: hidden) kept next cleaned := by
  have opened := follows.opened
  rcases attach_plain_cases attached with
    ⟨other, outer, hasParent, rfl⟩ | ⟨hasNone, -, -⟩
  · rw [hasParent, List.cons_append, List.cons.injEq] at opened
    rw [opened.1, opened.2]
    exact follows.push_hidden node
  · rw [hasNone] at opened
    cases opened

theorem Follows.pushText_hidden {parent : OpenElement} {value : String}
    (follows : Follows (parent :: hidden) kept whole cleaned)
    (pushed : whole.pushText value = .ok next) :
    ∃ hidden, Follows hidden kept next cleaned := by
  have opened := follows.opened
  rcases pushText_cases pushed with
    ⟨-, rfl⟩ | ⟨-, other, outer, hasParent, rfl⟩
  · exact ⟨_, follows⟩
  · rw [hasParent, List.cons_append, List.cons.injEq] at opened
    rw [opened.1, opened.2]
    exact ⟨_, follows.push_hidden (.text value)⟩

/-! ### Steps -/

/-- The element that a tag opens when a document is cleaned is the clean form of
the one it opens otherwise. -/
theorem openElement_cleaning {tag : Tag} {element : OpenElement}
    (isOpened : openElement .plain tag = .ok element) :
    openElement .cleaning tag = .ok element.clean := by
  unfold openElement at isOpened ⊢
  cases read : tag.attributes with
  | error error =>
    rw [read] at isOpened
    cases isOpened
  | ok attributes =>
    rw [read] at isOpened
    cases isOpened
    have distinct := (keys_of_readAttributesFrom read).1
    have cleanDistinct := distinct.sublist (keys_cleanAttributes_sublist attributes)
    have sameAttributes : Attributes.ofList (cleanAttributes attributes) =
        (Attributes.ofList attributes).clean := by
      apply Attributes.ext
      unfold Attributes.clean
      rw [Attributes.entries_ofList cleanDistinct]
      simp only [Attributes.entries_ofList distinct]
    unfold OpenElement.clean
    rw [← sameAttributes]
    rfl

/-- An element that is dropped hides what is opened inside it. -/
theorem Follows.hide (follows : Follows [] kept whole cleaned) {element : OpenElement}
    (dropped : isDroppedElement element.name = true) :
    Follows [element] kept { whole with opened := element :: whole.opened }
      { cleaned with skipping := 1 } where
  noneSkipped := follows.noneSkipped
  opened := congrArg (element :: ·) follows.opened
  skipping := rfl
  outermost := by
    intro outermost member
    cases member
    exact dropped
  visible := follows.visible
  openedCleaned := follows.openedCleaned
  rootCleaned := follows.rootCleaned

theorem Follows.open_visible (follows : Follows [] kept whole cleaned) {element : OpenElement}
    (visible : isDroppedElement element.name = false) :
    Follows [] (element :: kept) { whole with opened := element :: whole.opened }
      { cleaned with opened := element.clean :: cleaned.opened } where
  noneSkipped := follows.noneSkipped
  opened := congrArg (element :: ·) follows.opened
  skipping := follows.skipping
  outermost := follows.outermost
  visible := List.forall_mem_cons.mpr ⟨visible, follows.visible⟩
  openedCleaned := congrArg (element.clean :: ·) follows.openedCleaned
  rootCleaned := follows.rootCleaned

theorem Follows.leave {element : OpenElement}
    (follows : Follows [] (element :: kept) whole cleaned) :
    isDroppedElement element.name = false ∧ cleaned.opened =
        element.clean :: kept.map OpenElement.clean ∧
      Follows [] kept { whole with opened := kept }
        { cleaned with opened := kept.map OpenElement.clean } :=
  have visible := List.forall_mem_cons.mp follows.visible
  ⟨visible.1, follows.openedCleaned,
    { follows with opened := rfl, visible := visible.2, openedCleaned := rfl }⟩

theorem Follows.leave_hidden {element : OpenElement}
    (follows : Follows (element :: hidden) kept whole cleaned) :
    Follows hidden kept { whole with opened := hidden ++ kept }
      { cleaned with skipping := cleaned.skipping - 1 } where
  noneSkipped := follows.noneSkipped
  opened := rfl
  skipping := congrArg (· - 1) follows.skipping
  outermost := by
    have outermost := follows.outermost
    intro other member
    cases hidden with
    | nil => cases member
    | cons parent others => exact outermost other member
  visible := follows.visible
  openedCleaned := follows.openedCleaned
  rootCleaned := follows.rootCleaned

/-- A step that does not clean, outside of what is hidden, is followed by the
step that does. -/
theorem Follows.step_visible (follows : Follows [] kept whole cleaned) {event : Event}
    (advances : Advances .plain whole event next) :
    ∃ hidden kept cleanedNext, Advances .cleaning cleaned event cleanedNext ∧
      Follows hidden kept next cleanedNext := by
  have reading : cleaned.skipping = 0 := follows.skipping
  cases advances with
  | skips skipping =>
    rw [follows.noneSkipped] at skipping
    cases skipping
  | hides _ _ dropped => cases dropped.1
  | omits _ _ dropped => cases dropped.1
  | @enters tag element _ isOpened =>
    have cleanedOpened := openElement_cleaning isOpened
    by_cases dropped : isDroppedElement element.name = true
    · exact ⟨[element], kept, _, .hides reading cleanedOpened ⟨rfl, dropped⟩,
        follows.hide dropped⟩
    · exact ⟨[], element :: kept, _,
        .enters reading cleanedOpened (fun both => dropped both.2),
        follows.open_visible (Bool.eq_false_iff.mpr dropped)⟩
  | @inserts tag element _ _ isOpened _ attached =>
    have cleanedOpened := openElement_cleaning isOpened
    by_cases dropped : isDroppedElement element.name = true
    · have gone : Node.cleanAll [element.close] = [] := Node.cleanAll_of_dropped dropped
      obtain ⟨stillKept, stillFollows⟩ := follows.attach_gone attached gone
      exact ⟨[], stillKept, cleaned, .omits reading cleanedOpened ⟨rfl, dropped⟩, stillFollows⟩
    · obtain ⟨stillKept, cleanedNext, cleanedAttached, stillFollows⟩ :=
        follows.attach_visible attached (Bool.eq_false_iff.mpr dropped)
      rw [← OpenElement.close_clean] at cleanedAttached
      exact ⟨[], stillKept, cleanedNext,
        .inserts reading cleanedOpened (fun both => dropped both.2) cleanedAttached,
        stillFollows⟩
  | strays _ noneOpened =>
    have opened := follows.opened
    rw [noneOpened, List.nil_append] at opened
    have noneCleaned := follows.openedCleaned
    rw [← opened, List.map_nil] at noneCleaned
    exact ⟨[], kept, cleaned, .strays reading noneCleaned, follows⟩
  | @leaves element outer _ _ opened attached =>
    have same := follows.opened
    rw [opened, List.nil_append] at same
    subst same
    obtain ⟨visible, cleanedOpened, followsOuter⟩ := follows.leave
    obtain ⟨stillKept, cleanedNext, cleanedAttached, stillFollows⟩ :=
      followsOuter.attach_visible attached visible
    rw [← OpenElement.close_clean] at cleanedAttached
    exact ⟨[], stillKept, cleanedNext, .leaves reading cleanedOpened cleanedAttached,
      stillFollows⟩
  | writes _ resolved pushed =>
    obtain ⟨stillKept, cleanedNext, cleanedPushed, stillFollows⟩ := follows.pushText pushed
    exact ⟨[], stillKept, cleanedNext, .writes reading resolved cleanedPushed, stillFollows⟩
  | copies _ pushed =>
    obtain ⟨stillKept, cleanedNext, cleanedPushed, stillFollows⟩ := follows.pushText pushed
    exact ⟨[], stillKept, cleanedNext, .copies reading cleanedPushed, stillFollows⟩
  | passes => exact ⟨[], kept, cleaned, .passes reading, follows⟩

/-- A step that does not clean, inside of what is hidden, is followed by one
that only counts how deep it is. -/
theorem Follows.step_hidden {innermost : OpenElement}
    (follows : Follows (innermost :: hidden) kept whole cleaned) {event : Event}
    (advances : Advances .plain whole event next) :
    ∃ hidden kept, Follows hidden kept next
      { cleaned with skipping := skipped cleaned.skipping event } := by
  cases advances with
  | skips skipping =>
    rw [follows.noneSkipped] at skipping
    cases skipping
  | hides _ _ dropped => cases dropped.1
  | omits _ _ dropped => cases dropped.1
  | @enters tag element =>
    exact ⟨element :: innermost :: hidden, kept, { follows with
      opened := congrArg (element :: ·) follows.opened
      skipping := congrArg (· + 1) follows.skipping
      outermost := follows.outermost }⟩
  | inserts _ _ _ attached => exact ⟨_, kept, follows.attach_hidden attached⟩
  | strays _ noneOpened =>
    have opened := follows.opened
    rw [noneOpened] at opened
    cases opened
  | @leaves element outer _ _ opened attached =>
    have same := follows.opened
    rw [opened, List.cons_append, List.cons.injEq] at same
    obtain ⟨rfl, rfl⟩ := same
    have left := follows.leave_hidden
    cases hidden with
    | nil =>
      have dropped : isDroppedElement element.name = true := follows.outermost element rfl
      have gone : Node.cleanAll [element.close] = [] := Node.cleanAll_of_dropped dropped
      obtain ⟨stillKept, stillFollows⟩ := left.attach_gone attached gone
      exact ⟨[], stillKept, stillFollows⟩
    | cons parent others => exact ⟨_, kept, left.attach_hidden attached⟩
  | writes _ _ pushed =>
    obtain ⟨stillHidden, stillFollows⟩ := follows.pushText_hidden pushed
    exact ⟨stillHidden, kept, stillFollows⟩
  | copies _ pushed =>
    obtain ⟨stillHidden, stillFollows⟩ := follows.pushText_hidden pushed
    exact ⟨stillHidden, kept, stillFollows⟩
  | passes => exact ⟨_, kept, follows⟩

theorem Follows.step (follows : Follows hidden kept whole cleaned) {delivery : Delivery}
    (stepped : whole.step .plain delivery = .ok next) :
    ∃ hidden kept cleanedNext, cleaned.step .cleaning delivery = .ok cleanedNext ∧
      Follows hidden kept next cleanedNext := by
  have advances := advances_of_step stepped
  simp only [step_eq_ok_iff]
  cases hidden with
  | nil => exact follows.step_visible advances
  | cons innermost others =>
    have skipping : 0 < cleaned.skipping := by
      rw [follows.skipping]
      exact Nat.zero_lt_succ _
    obtain ⟨stillHidden, stillKept, stillFollows⟩ := follows.step_hidden advances
    exact ⟨stillHidden, stillKept, _, .skips skipping, stillFollows⟩

/-- A run that does not clean is followed by the run that does. -/
theorem Follows.run (follows : Follows hidden kept whole cleaned) {deliveries : List Delivery}
    (run : deliveries.foldlM (Building.step .plain) whole = .ok next) :
    ∃ hidden kept cleanedNext,
      deliveries.foldlM (Building.step .cleaning) cleaned = .ok cleanedNext ∧
        Follows hidden kept next cleanedNext := by
  induction deliveries generalizing hidden kept whole cleaned with
  | nil =>
    cases run
    exact ⟨hidden, kept, cleaned, rfl, follows⟩
  | cons delivery rest inductionHypothesis =>
    rw [List.foldlM_cons] at run ⊢
    cases stepped : whole.step .plain delivery with
    | error error =>
      rw [stepped] at run
      cases run
    | ok middle =>
      rw [stepped] at run
      obtain ⟨_, _, cleanedMiddle, cleanedStepped, stillFollows⟩ := follows.step stepped
      rw [cleanedStepped]
      exact inductionHypothesis stillFollows run

theorem Follows.finish (follows : Follows hidden kept whole cleaned)
    (finished : whole.finish = .ok node) : cleaned.finish = .ok node.clean := by
  obtain ⟨noneOpened, rooted, isSvg⟩ := finish_cases finished
  have opened := follows.opened
  rw [noneOpened] at opened
  obtain ⟨noneHidden, noneKept⟩ := List.append_eq_nil_iff.mp opened.symm
  have cleanedOpened := follows.openedCleaned
  rw [noneKept, List.map_nil] at cleanedOpened
  have cleanedRoot := follows.rootCleaned
  rw [rooted] at cleanedRoot
  cases node with
  | text value => cases isSvg
  | element name attributes children =>
    cases isSvg
    have svgIsKept : isDroppedElement "svg" = false := by
      decide
    have visible : (Node.element "svg" attributes children).isDropped = false :=
      svgIsKept
    have notEmpty : isEmptyContainer (Node.element "svg" attributes children).clean = false :=
      Bool.and_false _
    rw [cleanRoot, Node.cleanAll_of_kept visible notEmpty] at cleanedRoot
    unfold Building.finish
    simp only [cleanedOpened, cleanedRoot, List.head?_cons]
    rfl

end Building

/-- What is read as a tree is read as its clean form when it is cleaned. -/
theorem readTree_cleaning_of_plain {text : String} {node : Node}
    (read : readTree .plain text = .ok node) : readTree .cleaning text = .ok node.clean := by
  unfold readTree at read ⊢
  rw [buildTree_eq_ok_iff] at read ⊢
  obtain ⟨noFault, final, run, finished⟩ := read
  obtain ⟨_, _, cleanedFinal, cleanedRun, follows⟩ := Building.follows_start.run run
  exact ⟨noFault, cleanedFinal, cleanedRun, follows.finish finished⟩

/-- Optimizing a drawing writes the clean form of the tree that it is read as. -/
theorem optimize_of_parse {text : String} {node : Node} (parsed : parse text = .ok node) :
    optimize text = .ok node.clean.markup := by
  unfold optimize
  rw [readTree_cleaning_of_plain parsed]
  rfl

/-- A drawing of which little is left. -/
def noisyText : String :=
  "<?xml version='1.0'?><svg id=' a\n b' class=' ' sketch:type='x'>" ++
    "<title>t<b/></title><g><defs/></g><path/></svg>"

/-- The tree that the noisy drawing is read as. -/
def noisyTree : Node :=
  .element "svg" ⟨[("id", " a\n b"), ("class", " "), ("sketch:type", "x")], by decide⟩
    [.element "title" .empty [.text "t", .element "b" .empty []],
      .element "g" .empty [.element "defs" .empty []], .element "path" .empty []]

theorem optimize_noisyText :
    parse noisyText = .ok noisyTree ∧ optimize noisyText = .ok noisyTree.clean.markup ∧
      noisyTree.clean.markup = "<svg id=\"a b\"><path/></svg>" := by
  have parsed : parse noisyText = .ok noisyTree := by
    apply readTree_plain_iff.mpr
    constructor
    · decide +kernel
    · rfl
  refine ⟨parsed, optimize_of_parse parsed, ?_⟩
  decide +kernel

end IconForge.Svg
