import IconForge.Proofs.Svg.Tag
import IconForge.Proofs.Svg.Traversal

/-!
Contract: what is put together from a document read as it is.

Owns:
- the marks that lead to what has been built so far;
- that every event that is read adds its marks, and that none fails which
  stays on the way through a tree;
- the trees that documents are read as, by their marks.

Main statement: `readTree_plain_iff`.

Does not own: the marks of a text.
-/

namespace IconForge.Svg

open IconForge.Text

/-! ### End tags close what is open -/

/-- The elements that are open behind an event. -/
def Event.opened? (opened : List String) : Event → Option (List String)
  | .opening tag => some (tag.name :: opened)
  | .closing =>
    match opened with
    | [] => none
    | _ :: outer => some outer
  | _ => some opened

/-- Events of which every end tag closes an open element. -/
def Nested (opened : List String) : List Delivery → Prop
  | [] => True
  | delivery :: rest => ∃ inner, delivery.event.opened? opened = some inner ∧ Nested inner rest

theorem opened?_of_from {opened : List String} {text : List Char} {construct : Construct}
    (isFrom : construct.From opened text) :
    construct.event.opened? opened = some construct.opened := by
  cases isFrom with
  | opening => rfl
  | selfClosing => rfl
  | closing scanned named =>
    subst named
    rfl
  | characterData => rfl
  | aside => rfl

theorem nested_readFrom (opened : List String) (offset : Nat) (text : List Char) :
    Nested opened (readFrom opened offset text).deliveries := by
  fun_induction readFrom opened offset text with
  | case1 => trivial
  | case2 => trivial
  | case3 opened offset text place behind construct read stop start following
      inductionHypothesis =>
    exact ⟨construct.opened, opened?_of_from (from_of_readConstruct read), inductionHypothesis⟩
  | case4 opened offset text place c behind start isText run stop following
      inductionHypothesis =>
    exact ⟨opened, rfl, inductionHypothesis⟩

/-! ### Marks of what has been built -/

/-- The marks that lead into open elements, of which the innermost comes
first. -/
def openedMarks : List OpenElement → List Mark
  | [] => []
  | element :: outer =>
    openedMarks outer ++
      .opens element.name element.attributes :: Node.traversalAll element.children

/-- The marks of a root, if there is one. -/
def rootMarks : Option Node → List Mark
  | none => []
  | some node => node.traversal

namespace Building

/-- The marks that lead to what has been built so far. -/
def marks (building : Building) : List Mark :=
  rootMarks building.root ++ openedMarks building.opened

/-- The names of the open elements, the innermost first. -/
def names (building : Building) : List String :=
  building.opened.map OpenElement.name

theorem openedMarks_push (parent : OpenElement) (outer : List OpenElement) (node : Node) :
    openedMarks (parent.push node :: outer) = openedMarks (parent :: outer) ++ node.traversal := by
  simp only [openedMarks, OpenElement.push, Node.traversalAll_append,
    Node.traversalAll_singleton, List.append_assoc, List.cons_append]

theorem openedMarks_close (element : OpenElement) (outer : List OpenElement) :
    openedMarks outer ++ element.close.traversal =
      openedMarks (element :: outer) ++ [.closes] := by
  simp only [openedMarks, OpenElement.close, Node.traversal, List.append_assoc,
    List.cons_append]

theorem depthOf_openedMarks (opened : List OpenElement) :
    depthOf (openedMarks opened) = opened.length := by
  induction opened with
  | nil => rfl
  | cons element outer inductionHypothesis =>
    rw [openedMarks, depthOf_append, depthOf_cons, depthOf_traversalAll, inductionHypothesis,
      List.length_cons]
    rfl

theorem depthOf_marks (building : Building) :
    depthOf building.marks = building.opened.length := by
  rw [marks, depthOf_append, depthOf_openedMarks]
  cases building.root with
  | none => exact Int.zero_add _
  | some node =>
    rw [rootMarks, depthOf_traversal]
    exact Int.zero_add _

theorem traversal_ne_nil (node : Node) : node.traversal ≠ [] := by
  cases node <;> simp [Node.traversal]

/-- There is no root yet while the way through a tree goes on. -/
theorem root_eq_none_of_marks {building : Building} {following : List Mark} {node : Node}
    (onTheWay : building.marks ++ following = node.traversal) (goesOn : following ≠ []) :
    building.root = none := by
  cases rooted : building.root with
  | none => rfl
  | some root =>
    have whole : root.traversal ++ (openedMarks building.opened ++ following) =
        node.traversal ++ [] := by
      rw [← List.append_assoc, List.append_nil, ← onTheWay, marks, rooted, rootMarks]
    have nothingLeft := (Node.traversal_append_inj whole).2
    exact absurd (List.append_eq_nil_iff.mp nothingLeft).2 goesOn

/-! ### Steps -/

/-- A node goes into the innermost open element, or becomes the root. -/
theorem attach_plain_cases {building attached : Building} {node : Node}
    (isAttached : building.attach .plain node = .ok attached) :
    (∃ parent outer, building.opened = parent :: outer ∧
      attached = { building with opened := parent.push node :: outer }) ∨
      (building.opened = [] ∧ building.root = none ∧
        attached = { building with root := some node }) := by
  unfold attach at isAttached
  rw [if_neg (fun both => nomatch both.1)] at isAttached
  split at isAttached
  · next parent outer opened =>
    cases isAttached
    exact Or.inl ⟨parent, outer, opened, rfl⟩
  · next opened =>
    split at isAttached
    · cases isAttached
    · next rootless =>
      cases isAttached
      exact Or.inr ⟨opened, rootless, rfl⟩

theorem attach_plain_marks {building attached : Building} {node : Node}
    (isAttached : building.attach .plain node = .ok attached) :
    attached.marks = building.marks ++ node.traversal ∧
      attached.skipping = building.skipping ∧ attached.names = building.names := by
  rcases attach_plain_cases isAttached with
    ⟨parent, outer, opened, rfl⟩ | ⟨opened, rootless, rfl⟩
  · refine ⟨?_, rfl, ?_⟩
    · unfold marks
      simp only [opened]
      rw [openedMarks_push, List.append_assoc]
    · unfold names
      rw [opened]
      rfl
  · refine ⟨?_, rfl, rfl⟩
    unfold marks
    simp only [opened, rootless, rootMarks, openedMarks, List.append_nil, List.nil_append]

theorem attach_plain_total {building : Building} (node : Node)
    (rootless : building.root = none) :
    ∃ attached, building.attach .plain node = .ok attached := by
  unfold attach
  rw [if_neg (fun both => nomatch both.1)]
  cases building.opened with
  | nil =>
    rw [rootless]
    exact ⟨_, rfl⟩
  | cons parent outer => exact ⟨_, rfl⟩

/-- A text that is not empty goes into the innermost open element. -/
theorem pushText_cases {building pushed : Building} {value : String}
    (isPushed : building.pushText value = .ok pushed) :
    (value.isEmpty = true ∧ pushed = building) ∨
      (value.isEmpty = false ∧ ∃ parent outer, building.opened = parent :: outer ∧
        pushed = { building with opened := parent.push (.text value) :: outer }) := by
  unfold pushText at isPushed
  split at isPushed
  · next isEmpty =>
    cases isPushed
    exact Or.inl ⟨isEmpty, rfl⟩
  · next notEmpty =>
    split at isPushed
    · next parent outer opened =>
      cases isPushed
      exact Or.inr ⟨Bool.eq_false_iff.mpr notEmpty, parent, outer, opened, rfl⟩
    · cases isPushed

theorem pushText_marks {building pushed : Building} {value : String}
    (isPushed : building.pushText value = .ok pushed) :
    pushed.marks = building.marks ++ textMarks value ∧
      pushed.skipping = building.skipping ∧ pushed.names = building.names := by
  unfold textMarks
  rcases pushText_cases isPushed with
    ⟨isEmpty, rfl⟩ | ⟨notEmpty, parent, outer, opened, rfl⟩
  · rw [if_pos isEmpty, List.append_nil]
    exact ⟨rfl, rfl, rfl⟩
  · rw [if_neg (Bool.eq_false_iff.mp notEmpty)]
    refine ⟨?_, rfl, ?_⟩
    · unfold marks
      simp only [opened]
      rw [openedMarks_push, List.append_assoc]
      rfl
    · unfold names
      rw [opened]
      rfl

/-- A text cannot stand outside the root on the way through an element. -/
theorem pushText_total {building : Building} {value name : String} {following : List Mark}
    {node : Node} (onTheWay : building.marks ++ (textMarks value ++ following) = node.traversal)
    (named : node.name? = some name) : ∃ pushed, building.pushText value = .ok pushed := by
  unfold pushText
  unfold textMarks at onTheWay
  by_cases isEmpty : value.isEmpty = true
  · rw [if_pos isEmpty]
    exact ⟨_, rfl⟩
  · rw [if_neg isEmpty] at onTheWay ⊢
    cases opened : building.opened with
    | cons parent outer => exact ⟨_, rfl⟩
    | nil =>
      have rootless := root_eq_none_of_marks onTheWay (by simp)
      rw [marks, opened, rootless] at onTheWay
      cases node with
      | text other => cases named
      | element otherName attributes children => cases onTheWay

/-- The element that a tag opens when a document is read as it is. -/
theorem openElement_plain (tag : Tag) :
    openElement .plain tag =
      tag.attributes.map fun attributes => ⟨tag.name, Attributes.ofList attributes, []⟩ := by
  unfold openElement
  cases tag.attributes <;> rfl

/-- How many elements are open inside the one left out, behind an event. -/
def skipped (skipping : Nat) : Event → Nat
  | .opening _ => skipping + 1
  | .closing => skipping - 1
  | _ => skipping

/-- What a step does with an event. -/
inductive Advances (mode : Mode) (building : Building) : Event → Building → Prop where
  | skips {event : Event} (skipping : 0 < building.skipping) :
      Advances mode building event { building with skipping := skipped building.skipping event }
  | hides {tag : Tag} {element : OpenElement} (reading : building.skipping = 0)
      (isOpened : openElement mode tag = .ok element)
      (dropped : mode = .cleaning ∧ isDroppedElement element.name = true) :
      Advances mode building (.opening tag) { building with skipping := 1 }
  | enters {tag : Tag} {element : OpenElement} (reading : building.skipping = 0)
      (isOpened : openElement mode tag = .ok element)
      (visible : ¬(mode = .cleaning ∧ isDroppedElement element.name = true)) :
      Advances mode building (.opening tag) { building with opened := element :: building.opened }
  | omits {tag : Tag} {element : OpenElement} (reading : building.skipping = 0)
      (isOpened : openElement mode tag = .ok element)
      (dropped : mode = .cleaning ∧ isDroppedElement element.name = true) :
      Advances mode building (.selfClosing tag) building
  | inserts {tag : Tag} {element : OpenElement} {next : Building}
      (reading : building.skipping = 0) (isOpened : openElement mode tag = .ok element)
      (visible : ¬(mode = .cleaning ∧ isDroppedElement element.name = true))
      (attached : building.attach mode element.close = .ok next) :
      Advances mode building (.selfClosing tag) next
  | strays (reading : building.skipping = 0) (noneOpened : building.opened = []) :
      Advances mode building .closing building
  | leaves {element : OpenElement} {outer : List OpenElement} {next : Building}
      (reading : building.skipping = 0) (opened : building.opened = element :: outer)
      (attached : attach mode { building with opened := outer } element.close = .ok next) :
      Advances mode building .closing next
  | writes {raw value : List Char} {next : Building} (reading : building.skipping = 0)
      (resolved : resolve raw = .ok value)
      (pushed : building.pushText (String.ofList value) = .ok next) :
      Advances mode building (.text raw) next
  | copies {value : String} {next : Building} (reading : building.skipping = 0)
      (pushed : building.pushText value = .ok next) :
      Advances mode building (.characterData value) next
  | passes (reading : building.skipping = 0) : Advances mode building .aside building

theorem advances_of_step {mode : Mode} {building next : Building} {delivery : Delivery}
    (stepped : building.step mode delivery = .ok next) :
    Advances mode building delivery.event next := by
  obtain ⟨event, offset⟩ := delivery
  by_cases skipping : 0 < building.skipping
  · have isSkipped : next = { building with skipping := skipped building.skipping event } := by
      cases event <;> simp only [step, if_pos skipping] at stepped <;> cases stepped <;> rfl
    rw [isSkipped]
    exact .skips skipping
  · have reading : building.skipping = 0 := Nat.eq_zero_of_not_pos skipping
    cases event with
    | opening tag =>
      simp only [step, if_neg skipping, bind, Except.bind] at stepped
      split at stepped
      · cases stepped
      · next element isOpened =>
        split at stepped
        · next dropped =>
          cases stepped
          exact .hides reading isOpened dropped
        · next visible =>
          cases stepped
          exact .enters reading isOpened visible
    | selfClosing tag =>
      simp only [step, if_neg skipping, bind, Except.bind] at stepped
      split at stepped
      · cases stepped
      · next element isOpened =>
        split at stepped
        · next dropped =>
          cases stepped
          exact .omits reading isOpened dropped
        · next visible => exact .inserts reading isOpened visible stepped
    | closing =>
      simp only [step, if_neg skipping] at stepped
      split at stepped
      · next noneOpened =>
        cases stepped
        exact .strays reading noneOpened
      · next element outer opened => exact .leaves reading opened stepped
    | text raw =>
      simp only [step, if_neg skipping] at stepped
      split at stepped
      · cases stepped
      · next value resolved => exact .writes reading resolved stepped
    | characterData value =>
      simp only [step, if_neg skipping] at stepped
      exact .copies reading stepped
    | aside =>
      cases stepped
      exact .passes reading

/-- Outside of what is left out, an end tag closes the innermost open element. -/
theorem step_closing {mode : Mode} {building : Building} {element : OpenElement}
    {outer : List OpenElement} (offset : Nat) (reading : building.skipping = 0)
    (opened : building.opened = element :: outer) :
    building.step mode ⟨.closing, offset⟩ =
      attach mode { building with opened := outer } element.close := by
  simp only [step, if_neg (Nat.not_lt.mpr (Nat.le_of_eq reading)), opened]

theorem step_of_advances {mode : Mode} {building next : Building} {delivery : Delivery}
    (advances : Advances mode building delivery.event next) :
    building.step mode delivery = .ok next := by
  obtain ⟨event, offset⟩ := delivery
  have notSkipping (reading : building.skipping = 0) : ¬0 < building.skipping := by
    omega
  cases advances with
  | skips skipping => cases event <;> simp only [step, if_pos skipping, skipped]
  | hides reading isOpened dropped =>
    simp only [step, if_neg (notSkipping reading), isOpened, bind, Except.bind, if_pos dropped]
  | enters reading isOpened visible =>
    simp only [step, if_neg (notSkipping reading), isOpened, bind, Except.bind, if_neg visible]
  | omits reading isOpened dropped =>
    simp only [step, if_neg (notSkipping reading), isOpened, bind, Except.bind, if_pos dropped]
  | inserts reading isOpened visible attached =>
    simp only [step, if_neg (notSkipping reading), isOpened, bind, Except.bind, if_neg visible]
    exact attached
  | strays reading noneOpened => simp only [step, if_neg (notSkipping reading), noneOpened]
  | leaves reading opened attached => exact (step_closing offset reading opened).trans attached
  | writes reading resolved pushed =>
    simp only [step, if_neg (notSkipping reading), resolved]
    exact pushed
  | copies reading pushed =>
    simp only [step, if_neg (notSkipping reading)]
    exact pushed
  | passes => rfl

theorem step_eq_ok_iff {mode : Mode} {building next : Building} {delivery : Delivery} :
    building.step mode delivery = .ok next ↔ Advances mode building delivery.event next :=
  ⟨advances_of_step, step_of_advances⟩

theorem attributes_of_openElement_plain {tag : Tag} {element : OpenElement}
    (isOpened : openElement .plain tag = .ok element) :
    ∃ attributes, tag.attributes = .ok attributes ∧
      element = ⟨tag.name, Attributes.ofList attributes, []⟩ := by
  rw [openElement_plain] at isOpened
  cases read : tag.attributes with
  | error error =>
    rw [read] at isOpened
    cases isOpened
  | ok attributes =>
    rw [read] at isOpened
    cases isOpened
    exact ⟨attributes, rfl, rfl⟩

/-- A step adds the marks of its event. -/
theorem step_plain_marks {building next : Building} {delivery : Delivery} {inner : List String}
    (noneSkipped : building.skipping = 0)
    (follows : delivery.event.opened? building.names = some inner)
    (stepped : building.step .plain delivery = .ok next) :
    next.skipping = 0 ∧ next.names = inner ∧
      ∃ marks, delivery.event.marks? = some marks ∧ next.marks = building.marks ++ marks := by
  obtain ⟨event, offset⟩ := delivery
  have advances : Advances .plain building event next := advances_of_step stepped
  cases advances with
  | skips skipping =>
    rw [noneSkipped] at skipping
    cases skipping
  | hides _ _ dropped => cases dropped.1
  | omits _ _ dropped => cases dropped.1
  | enters reading isOpened visible =>
    cases follows
    obtain ⟨attributes, read, rfl⟩ := attributes_of_openElement_plain isOpened
    refine ⟨noneSkipped, rfl, _, by rw [Event.marks?, read]; rfl, ?_⟩
    unfold marks
    rw [openedMarks, List.append_assoc]
    rfl
  | inserts reading isOpened visible attached =>
    cases follows
    obtain ⟨attributes, read, rfl⟩ := attributes_of_openElement_plain isOpened
    obtain ⟨sameMarks, sameSkipping, sameNames⟩ := attach_plain_marks attached
    exact ⟨sameSkipping.trans noneSkipped, sameNames, _, by rw [Event.marks?, read]; rfl,
      sameMarks⟩
  | strays reading noneOpened =>
    unfold names at follows
    rw [noneOpened] at follows
    cases follows
  | leaves reading opened attached =>
    unfold names at follows
    rw [opened] at follows
    cases follows
    obtain ⟨sameMarks, sameSkipping, sameNames⟩ := attach_plain_marks attached
    refine ⟨sameSkipping.trans noneSkipped, sameNames, _, rfl, ?_⟩
    rw [sameMarks]
    unfold marks
    rw [List.append_assoc, openedMarks_close, opened, List.append_assoc]
  | writes reading resolved pushed =>
    cases follows
    obtain ⟨sameMarks, sameSkipping, sameNames⟩ := pushText_marks pushed
    exact ⟨sameSkipping.trans noneSkipped, sameNames, _, by rw [Event.marks?, resolved]; rfl,
      sameMarks⟩
  | copies reading pushed =>
    cases follows
    obtain ⟨sameMarks, sameSkipping, sameNames⟩ := pushText_marks pushed
    exact ⟨sameSkipping.trans noneSkipped, sameNames, _, rfl, sameMarks⟩
  | passes =>
    cases follows
    exact ⟨noneSkipped, rfl, [], rfl, (List.append_nil _).symm⟩

/-- A step that stays on the way through an element does not fail. -/
theorem step_plain_total {building : Building} {delivery : Delivery} {name : String}
    {passed following : List Mark} {node : Node} (noneSkipped : building.skipping = 0)
    (passes : delivery.event.marks? = some passed)
    (onTheWay : building.marks ++ (passed ++ following) = node.traversal)
    (named : node.name? = some name) : ∃ next, building.step .plain delivery = .ok next := by
  obtain ⟨event, offset⟩ := delivery
  simp only [step_eq_ok_iff]
  have visible (element : OpenElement) :
      ¬(Mode.plain = .cleaning ∧ isDroppedElement element.name = true) :=
    fun both => nomatch both.1
  cases event with
  | opening tag =>
    obtain ⟨attributes, read, -⟩ := Option.map_eq_some_iff.mp passes
    have isOpened := openElement_plain tag
    rw [ok_of_toOption read] at isOpened
    exact ⟨_, .enters noneSkipped isOpened (visible _)⟩
  | selfClosing tag =>
    obtain ⟨attributes, read, rfl⟩ := Option.map_eq_some_iff.mp passes
    have isOpened := openElement_plain tag
    rw [ok_of_toOption read] at isOpened
    have rootless := root_eq_none_of_marks onTheWay (by simp)
    obtain ⟨next, attached⟩ := attach_plain_total _ rootless
    exact ⟨next, .inserts noneSkipped isOpened (visible _) attached⟩
  | closing =>
    cases passes
    cases opened : building.opened with
    | nil => exact ⟨building, .strays noneSkipped opened⟩
    | cons element outer =>
      have rootless : building.root = none := root_eq_none_of_marks onTheWay (by simp)
      have total := @attach_plain_total { building with opened := outer } element.close rootless
      obtain ⟨next, attached⟩ := total
      exact ⟨next, .leaves noneSkipped opened attached⟩
  | text raw =>
    obtain ⟨value, read, rfl⟩ := Option.map_eq_some_iff.mp passes
    obtain ⟨next, pushed⟩ := pushText_total onTheWay named
    exact ⟨next, .writes noneSkipped (ok_of_toOption read) pushed⟩
  | characterData value =>
    cases passes
    obtain ⟨next, pushed⟩ := pushText_total onTheWay named
    exact ⟨next, .copies noneSkipped pushed⟩
  | aside => exact ⟨building, .passes noneSkipped⟩

/-! ### Whole documents -/

/-- A document is finished when nothing is open, as its root. -/
theorem finish_cases {building : Building} {node : Node} (finished : building.finish = .ok node) :
    building.opened = [] ∧ building.root = some node ∧ node.name? = some "svg" := by
  unfold finish at finished
  split at finished
  · cases finished
  · next opened =>
    split at finished
    · cases finished
    · next root rooted =>
      split at finished
      · cases finished
      · next name named =>
        split at finished
        · next isSvg =>
          cases finished
          subst isSvg
          exact ⟨opened, rooted, named⟩
        · cases finished

/-- A document is finished as a tree if it has led through all of it. -/
theorem finish_iff {building : Building} {node : Node} :
    building.finish = .ok node ↔
      building.marks = node.traversal ∧ node.name? = some "svg" := by
  constructor
  · intro finished
    obtain ⟨opened, rooted, isSvg⟩ := finish_cases finished
    refine ⟨?_, isSvg⟩
    rw [marks, rooted, opened, rootMarks, openedMarks, List.append_nil]
  · rintro ⟨sameMarks, isSvg⟩
    have depth := depthOf_marks building
    rw [sameMarks, depthOf_traversal] at depth
    have opened : building.opened = [] := List.length_eq_zero_iff.mp (by omega)
    cases rooted : building.root with
    | none =>
      rw [marks, rooted, opened] at sameMarks
      exact absurd sameMarks.symm (traversal_ne_nil node)
    | some root =>
      rw [marks, rooted, opened, rootMarks, openedMarks, List.append_nil] at sameMarks
      cases Node.traversal_inj sameMarks
      unfold finish
      simp only [opened, rooted, isSvg, if_true]

/-- A run over events that are nested ends in a tree exactly if the events lead
through the tree. -/
theorem run_plain_iff {deliveries : List Delivery} {building : Building} {node : Node}
    (noneSkipped : building.skipping = 0) (nested : Nested building.names deliveries) :
    (∃ final, deliveries.foldlM (step .plain) building = .ok final ∧ final.finish = .ok node) ↔
      ∃ passed, marksOf? deliveries = some passed ∧
        building.marks ++ passed = node.traversal ∧ node.name? = some "svg" := by
  induction deliveries generalizing building with
  | nil =>
    constructor
    · rintro ⟨final, run, finished⟩
      cases run
      rw [finish_iff] at finished
      exact ⟨[], rfl, by rw [List.append_nil]; exact finished.1, finished.2⟩
    · rintro ⟨passed, isNil, onTheWay, isSvg⟩
      cases isNil
      rw [List.append_nil] at onTheWay
      exact ⟨building, rfl, finish_iff.mpr ⟨onTheWay, isSvg⟩⟩
  | cons delivery rest inductionHypothesis =>
    obtain ⟨inner, follows, restNested⟩ := nested
    rw [List.foldlM_cons]
    constructor
    · rintro ⟨final, run, finished⟩
      cases stepped : building.step .plain delivery with
      | error error =>
        rw [stepped] at run
        cases run
      | ok next =>
        rw [stepped] at run
        obtain ⟨stillNone, nextNames, here, passes, nextMarks⟩ :=
          step_plain_marks noneSkipped follows stepped
        rw [← nextNames] at restNested
        obtain ⟨later, passLater, onTheWay, isSvg⟩ :=
          (inductionHypothesis stillNone restNested).mp ⟨final, run, finished⟩
        refine ⟨here ++ later, ?_, ?_, isSvg⟩
        · rw [marksOf?, passes, Option.bind_some, passLater]
          rfl
        · rw [← List.append_assoc, ← nextMarks, onTheWay]
    · rintro ⟨passed, passesAll, onTheWay, isSvg⟩
      rw [marksOf?] at passesAll
      obtain ⟨here, passes, passesLater⟩ := Option.bind_eq_some_iff.mp passesAll
      obtain ⟨later, passLater, isAppend⟩ := Option.map_eq_some_iff.mp passesLater
      subst isAppend
      obtain ⟨next, stepped⟩ := step_plain_total noneSkipped passes onTheWay isSvg
      obtain ⟨stillNone, nextNames, same, samePasses, nextMarks⟩ :=
        step_plain_marks noneSkipped follows stepped
      rw [passes, Option.some.injEq] at samePasses
      subst samePasses
      rw [← nextNames] at restNested
      rw [← List.append_assoc, ← nextMarks] at onTheWay
      rw [stepped]
      exact (inductionHypothesis stillNone restNested).mpr ⟨later, passLater, onTheWay, isSvg⟩

end Building

theorem buildTree_eq_ok_iff {mode : Mode} {reading : Reading} {node : Node} :
    buildTree mode reading = .ok node ↔
      reading.fault = none ∧ ∃ final,
        reading.deliveries.foldlM (Building.step mode) Building.start = .ok final ∧
          final.finish = .ok node := by
  unfold buildTree
  cases reading.deliveries.foldlM (Building.step mode) Building.start with
  | error error =>
    constructor
    · intro built
      cases built
    · rintro ⟨-, final, isError, -⟩
      cases isError
  | ok final =>
    cases reading.fault with
    | some fault =>
      constructor
      · intro built
        cases built
      · rintro ⟨isNone, -⟩
        cases isNone
    | none =>
      constructor
      · intro built
        exact ⟨rfl, final, rfl, built⟩
      · rintro ⟨-, other, same, finished⟩
        cases same
        exact finished

theorem buildTree_plain_iff {reading : Reading} {node : Node}
    (nested : Nested Building.start.names reading.deliveries) :
    buildTree .plain reading = .ok node ↔
      reading.marks? = some node.traversal ∧ node.name? = some "svg" := by
  rw [buildTree_eq_ok_iff, Building.run_plain_iff rfl nested]
  unfold Reading.marks?
  cases reading.fault with
  | some fault =>
    constructor
    · rintro ⟨isNone, -⟩
      cases isNone
    · rintro ⟨isNone, -⟩
      cases isNone
  | none =>
    constructor
    · rintro ⟨-, passed, passes, onTheWay, isSvg⟩
      exact ⟨passes.trans (congrArg some onTheWay), isSvg⟩
    · rintro ⟨passes, isSvg⟩
      exact ⟨rfl, node.traversal, passes, rfl, isSvg⟩

/-- A document without a byte order mark. -/
def withoutMark (text : List Char) : List Char :=
  match text with
  | '\uFEFF' :: rest => rest
  | _ => text

theorem withoutMark_of_ne {text : List Char} (noMark : ∀ rest, text ≠ '\uFEFF' :: rest) :
    withoutMark text = text := by
  unfold withoutMark
  split
  · next rest => exact absurd rfl (noMark rest)
  · rfl

theorem readDocument_eq (text : List Char) :
    readDocument text = readFrom [] 0 (withoutMark text) := by
  unfold readDocument
  split
  · rfl
  · next noMark => rw [withoutMark_of_ne noMark]

/-- A document is read as a tree exactly if it leads through that tree, and the
root is named `svg`. -/
theorem readTree_plain_iff {text : String} {node : Node} :
    readTree .plain text = .ok node ↔
      marksFrom? [] (withoutMark text.toList) = some node.traversal ∧
        node.name? = some "svg" := by
  unfold readTree
  rw [readDocument_eq]
  exact buildTree_plain_iff (nested_readFrom [] 0 _)

end IconForge.Svg
