import IconForge.Proofs.Svg.Legibility
import IconForge.Proofs.Svg.Weight

/-!
Contract: when optimizing what has been optimized changes nothing.

Owns:
- the trees that are read and optimized as they are written;
- the form of every tree that is read with cleaning;
- the exact condition under which an optimized text is stable, and a drawing
  of which the optimized text is not.

Main statement: `optimize_stable_iff`.

Does not own: what a single optimization does.
-/

namespace IconForge.Svg

open IconForge.Text

/-- Whether optimizing a text leaves it as it is, and the tree that it is read
as has that text as its markup. -/
def IsStable (text : String) : Prop :=
  optimize text = .ok text ∧ ∃ node, parse text = .ok node ∧ node.markup = text

mutual

/-- A node in which no text is empty. -/
def Node.Filled : Node → Prop
  | .text value => value.toList ≠ []
  | .element _ _ children => Node.FilledAll children

/-- Neighbouring nodes in which no text is empty. -/
def Node.FilledAll : List Node → Prop
  | [] => True
  | node :: rest => node.Filled ∧ Node.FilledAll rest

end

/-- A tree that cleaning leaves alone. -/
structure Node.Cleaned (node : Node) : Prop where
  root : node.name? = some "svg"
  clean : node.clean = node
  filled : node.Filled

/-- A tree that is read and optimized as it is written. -/
structure Node.Settled (node : Node) : Prop extends Node.Cleaned node where
  legible : node.Legible
  trimmed : node.Trimmed

namespace Node

theorem filledAll_append {front back : List Node} (frontFilled : FilledAll front)
    (backFilled : FilledAll back) : FilledAll (front ++ back) := by
  induction front with
  | nil => exact backFilled
  | cons node rest inductionHypothesis => exact ⟨frontFilled.1, inductionHypothesis frontFilled.2⟩

theorem filledAll_textNodes (text : List Char) : FilledAll (textNodes text) := by
  cases text with
  | nil => trivial
  | cons c rest =>
    refine ⟨?_, trivial⟩
    rw [Filled, String.toList_ofList]
    exact List.cons_ne_nil c rest

mutual

theorem filled_normal {node : Node} (isElement : node.name?.isSome = true) :
    node.normal.Filled := by
  cases node with
  | text value => cases isElement
  | element name attributes children => exact filledAll_normalAll [] children

/-- There are no empty texts in a normal form. -/
theorem filledAll_normalAll (pending : List Char) (nodes : List Node) :
    FilledAll (normalAll pending nodes) := by
  cases nodes with
  | nil => exact filledAll_textNodes (strip pending)
  | cons node rest =>
    cases node with
    | text value => exact filledAll_normalAll (pending ++ value.toList) rest
    | element name attributes children =>
      have here : (element name attributes children).normal.Filled := filled_normal rfl
      exact filledAll_append (filledAll_textNodes _) ⟨here, filledAll_normalAll [] rest⟩

end

/-! ### Trimmed trees and their normal forms -/

/-- Where there is something trimmed, its normal form is something. -/
theorem normalAll_ne_nil {pending : List Char} {nodes : List Node}
    (trimmed : TrimmedAll pending nodes) (filled : FilledAll nodes)
    (something : pending ≠ [] ∨ nodes ≠ []) : normalAll pending nodes ≠ [] := by
  induction nodes generalizing pending with
  | nil =>
    rcases something with hasText | hasNode
    · rw [normalAll]
      change strip pending = pending at trimmed
      rw [trimmed, textNodes_of_ne_nil hasText]
      exact List.cons_ne_nil _ _
    · exact absurd rfl hasNode
  | cons node rest inductionHypothesis =>
    cases node with
    | element name attributes children =>
      rw [normalAll_element]
      exact List.append_ne_nil_of_right_ne_nil _ (List.cons_ne_nil _ _)
    | text value =>
      apply inductionHypothesis trimmed filled.2
      exact Or.inl (List.append_ne_nil_of_right_ne_nil pending filled.1)

mutual

/-- A trimmed tree has the markup of its normal form. -/
theorem markup_normal {node : Node} (trimmed : node.Trimmed) (filled : node.Filled) :
    node.normal.markup = node.markup := by
  cases node with
  | text value => rfl
  | element name attributes children =>
    have inside := markupAll_normalAll trimmed filled
    rw [List.flatMap_nil, List.nil_append] at inside
    have sameInside := String.toList_inj.mp inside
    by_cases isLeaf : children = []
    · subst isLeaf
      rfl
    · have stillParent := normalAll_ne_nil trimmed filled (Or.inr isLeaf)
      rw [normal, markup, markup, List.isEmpty_eq_false_iff.mpr isLeaf,
        List.isEmpty_eq_false_iff.mpr stillParent, sameInside]

theorem markupAll_normalAll {pending : List Char} {nodes : List Node}
    (trimmed : TrimmedAll pending nodes) (filled : FilledAll nodes) :
    (markupAll (normalAll pending nodes)).toList =
      pending.flatMap escapeChar ++ (markupAll nodes).toList := by
  cases nodes with
  | nil =>
    rw [normalAll, toList_markupAll_textNodes]
    change strip pending = pending at trimmed
    rw [trimmed]
    exact (List.append_nil _).symm
  | cons node rest =>
    cases node with
    | text value =>
      have trimmedRest : TrimmedAll (pending ++ value.toList) rest := trimmed
      rw [normalAll_text, markupAll_normalAll trimmedRest filled.2, toList_markupAll_cons,
        toList_markup_text, List.flatMap_append, List.append_assoc]
    | element name attributes children =>
      obtain ⟨stripped, trimmedNode, trimmedRest⟩ := trimmed
      have sameNode := markup_normal trimmedNode filled.1
      have sameRest := markupAll_normalAll trimmedRest filled.2
      rw [List.flatMap_nil, List.nil_append] at sameRest
      rw [normal] at sameNode
      rw [normalAll_element, toList_markupAll_append, toList_markupAll_textNodes, stripped,
        toList_markupAll_cons, toList_markupAll_cons, sameNode, sameRest]

end

/-! ### Clean trees and their normal forms -/

theorem length_cleanAll_le (nodes : List Node) : (cleanAll nodes).length ≤ nodes.length := by
  induction nodes with
  | nil => exact Nat.le_refl 0
  | cons node rest inductionHypothesis =>
    rw [cleanAll]
    split
    · rw [List.length_cons]
      omega
    · rw [List.length_cons, List.length_cons]
      omega

theorem cleanAll_cons_self {node : Node} {rest : List Node}
    (clean : cleanAll (node :: rest) = node :: rest) :
    node.isDropped = false ∧ isEmptyContainer node = false ∧ node.clean = node ∧
      cleanAll rest = rest := by
  have notLonger := length_cleanAll_le rest
  rw [cleanAll] at clean
  split at clean
  · rw [clean, List.length_cons] at notLonger
    omega
  · next stays =>
    obtain ⟨sameNode, sameRest⟩ := List.cons.inj clean
    rw [Bool.not_eq_true, Bool.or_eq_false_iff, sameNode] at stays
    exact ⟨stays.1, stays.2, sameNode, sameRest⟩

theorem clean_element_self {name : String} {attributes : Attributes} {children : List Node}
    (clean : (element name attributes children).clean = element name attributes children) :
    attributes.clean = attributes ∧ cleanAll children = children := by
  rw [Node.clean] at clean
  obtain ⟨-, sameAttributes, sameChildren⟩ := element.inj clean
  exact ⟨sameAttributes, sameChildren⟩

theorem cleanAll_textNodes (text : List Char) : cleanAll (textNodes text) = textNodes text := by
  unfold textNodes
  split <;> rfl

mutual

/-- The normal form of a clean tree is clean if the tree is trimmed. -/
theorem clean_normal {node : Node} (clean : node.clean = node) (trimmed : node.Trimmed)
    (filled : node.Filled) : node.normal.clean = node.normal := by
  cases node with
  | text value => rfl
  | element name attributes children =>
    obtain ⟨cleanAttributes, cleanChildren⟩ := clean_element_self clean
    rw [normal, Node.clean, cleanAttributes, cleanAll_normalAll cleanChildren trimmed filled]

theorem cleanAll_normalAll {pending : List Char} {nodes : List Node}
    (clean : cleanAll nodes = nodes) (trimmed : TrimmedAll pending nodes)
    (filled : FilledAll nodes) :
    cleanAll (normalAll pending nodes) = normalAll pending nodes := by
  cases nodes with
  | nil => exact cleanAll_textNodes (strip pending)
  | cons node rest =>
    obtain ⟨notDropped, notEmpty, cleanNode, cleanRest⟩ := cleanAll_cons_self clean
    cases node with
    | text value =>
      have trimmedRest : TrimmedAll (pending ++ value.toList) rest := trimmed
      rw [normalAll_text]
      exact cleanAll_normalAll cleanRest trimmedRest filled.2
    | element name attributes children =>
      obtain ⟨-, trimmedNode, trimmedRest⟩ := trimmed
      have sameNode := clean_normal cleanNode trimmedNode filled.1
      have sameRest := cleanAll_normalAll cleanRest trimmedRest filled.2
      have stillNotEmpty :
          isEmptyContainer (element name attributes children).normal.clean = false := by
        rw [sameNode]
        by_cases isLeaf : children = []
        · subst isLeaf
          exact notEmpty
        · have stillParent := normalAll_ne_nil trimmedNode filled.1 (Or.inr isLeaf)
          rw [normal, isEmptyContainer, List.isEmpty_eq_false_iff.mpr stillParent]
          rfl
      have kept : cleanAll [(element name attributes children).normal] =
          [(element name attributes children).normal.clean] :=
        cleanAll_of_kept notDropped stillNotEmpty
      rw [normal] at kept sameNode
      rw [normalAll_element, cleanAll_append, cleanAll_textNodes, ← List.singleton_append,
        cleanAll_append, kept, sameNode, sameRest]

end

/-- What a settled tree is written as is stable. -/
theorem Settled.isStable {node : Node} (settled : node.Settled) : IsStable node.markup := by
  have parsed := readTree_markup_of_legible settled.legible settled.root
  have sameMarkup := markup_normal settled.trimmed settled.filled
  have sameClean := clean_normal settled.clean settled.trimmed settled.filled
  have cleaned := readTree_cleaning_of_plain parsed
  rw [sameClean] at cleaned
  refine ⟨?_, node.normal, parsed, sameMarkup⟩
  unfold optimize
  rw [cleaned]
  exact congrArg Except.ok sameMarkup

/-- A text is stable exactly if it is what a settled tree is written as. -/
theorem isStable_iff {text : String} :
    IsStable text ↔ ∃ node : Node, node.Settled ∧ node.markup = text := by
  constructor
  · rintro ⟨optimized, node, parsed, rfl⟩
    have root := (readTree_plain_iff.mp parsed).2
    have legible := legible_of_readTree_markup parsed
    have normal : node.normal = node :=
      Except.ok.inj ((readTree_markup_of_legible legible root).symm.trans parsed)
    have cleaned := readTree_cleaning_of_plain parsed
    unfold optimize at optimized
    rw [cleaned] at optimized
    have isElement : node.name?.isSome = true := by
      rw [root]
      rfl
    refine ⟨node, ⟨⟨root, clean_eq_of_markup_eq (Except.ok.inj optimized), ?_⟩, legible, ?_⟩, rfl⟩
    · rw [← normal]
      exact filled_normal isElement
    · exact trimmed_of_markup_eq (by rw [normal])
  · rintro ⟨node, settled, rfl⟩
    exact settled.isStable

end Node

/-! ### What is read with cleaning -/

theorem cleanAttributes_cleanAttributes (entries : List (String × String)) :
    cleanAttributes (cleanAttributes entries) = cleanAttributes entries := by
  induction entries with
  | nil => rfl
  | cons entry others inductionHypothesis =>
    obtain ⟨key, value⟩ := entry
    rw [cleanAttributes_cons]
    by_cases gone : (isEditorAttribute key || (collapseBlanks value).isEmpty) = true
    · rw [if_pos gone, inductionHypothesis]
    · rw [if_neg gone, cleanAttributes_cons, collapseBlanks_collapseBlanks, if_neg gone,
        inductionHypothesis]

/-- An open element that cleaning leaves alone. -/
structure OpenElement.IsClean (element : OpenElement) : Prop where
  clean : element.clean = element
  visible : isDroppedElement element.name = false
  filled : Node.FilledAll element.children

theorem OpenElement.IsClean.push {element : OpenElement} {node : Node}
    (isClean : element.IsClean) (kept : Node.cleanAll [node] = [node]) (filled : node.Filled) :
    (element.push node).IsClean where
  clean := by
    rw [OpenElement.clean_push, kept, isClean.clean]
    rfl
  visible := isClean.visible
  filled := Node.filledAll_append isClean.filled ⟨filled, trivial⟩

theorem OpenElement.IsClean.close_clean {element : OpenElement} (isClean : element.IsClean) :
    element.close.clean = element.close := by
  rw [← OpenElement.close_clean, isClean.clean]

namespace Building

/-- What has been built contains nothing that cleaning leaves out. -/
structure IsClean (building : Building) : Prop where
  opened : ∀ element ∈ building.opened, element.IsClean
  root : ∀ node ∈ building.root, node.clean = node ∧ node.Filled

theorem isClean_start : start.IsClean where
  opened := fun _ member => nomatch member
  root := fun _ member => nomatch member

variable {building next : Building} {node : Node}

theorem IsClean.push (isClean : building.IsClean) {parent : OpenElement}
    {outer : List OpenElement} (opened : building.opened = parent :: outer)
    (kept : Node.cleanAll [node] = [node]) (filled : node.Filled) :
    ({ building with opened := parent.push node :: outer } : Building).IsClean where
  opened := by
    have allClean := isClean.opened
    rw [opened] at allClean
    obtain ⟨parentClean, outerClean⟩ := List.forall_mem_cons.mp allClean
    exact List.forall_mem_cons.mpr ⟨parentClean.push kept filled, outerClean⟩
  root := isClean.root

theorem IsClean.attach (isClean : building.IsClean) (clean : node.clean = node)
    (visible : node.isDropped = false) (filled : node.Filled)
    (attached : building.attach .cleaning node = .ok next) : next.IsClean := by
  unfold Building.attach at attached
  split at attached
  · cases attached
    exact isClean
  · next stays =>
    have notEmpty : isEmptyContainer node.clean = false := by
      rw [clean]
      exact Bool.eq_false_iff.mpr fun empty => stays ⟨rfl, empty⟩
    have kept := Node.cleanAll_of_kept visible notEmpty
    rw [clean] at kept
    split at attached
    · next parent outer opened =>
      cases attached
      exact isClean.push opened kept filled
    · split at attached
      · cases attached
      · cases attached
        refine ⟨isClean.opened, ?_⟩
        intro root isRoot
        cases isRoot
        exact ⟨clean, filled⟩

theorem IsClean.close (isClean : building.IsClean) {element : OpenElement}
    (elementClean : element.IsClean)
    (attached : building.attach .cleaning element.close = .ok next) : next.IsClean :=
  isClean.attach elementClean.close_clean elementClean.visible elementClean.filled attached

theorem IsClean.pushText (isClean : building.IsClean) {value : String}
    (pushed : building.pushText value = .ok next) : next.IsClean := by
  rcases pushText_cases pushed with ⟨-, rfl⟩ | ⟨notEmpty, parent, outer, opened, rfl⟩
  · exact isClean
  · have filled : (Node.text value).Filled := by
      rw [Node.Filled]
      intro isNil
      rw [String.toList_eq_nil_iff.mp isNil] at notEmpty
      cases notEmpty
    exact isClean.push opened rfl filled

theorem isClean_openElement {tag : Tag} {element : OpenElement}
    (isOpened : openElement .cleaning tag = .ok element)
    (visible : isDroppedElement element.name = false) : element.IsClean := by
  unfold openElement at isOpened
  cases read : tag.attributes with
  | error error =>
    rw [read] at isOpened
    cases isOpened
  | ok attributes =>
    rw [read] at isOpened
    cases isOpened
    have distinct := (keys_of_readAttributesFrom read).1
    have cleanDistinct := distinct.sublist (keys_cleanAttributes_sublist attributes)
    refine ⟨?_, visible, trivial⟩
    have sameAttributes : (Attributes.ofList (cleanAttributes attributes)).clean =
        Attributes.ofList (cleanAttributes attributes) := by
      apply Attributes.ext
      unfold Attributes.clean
      simp only [Attributes.entries_ofList cleanDistinct]
      exact cleanAttributes_cleanAttributes attributes
    unfold OpenElement.clean
    simp only [sameAttributes]
    rfl

/-- Every step with cleaning keeps what has been built clean. -/
theorem IsClean.step (isClean : building.IsClean) {delivery : Delivery}
    (stepped : building.step .cleaning delivery = .ok next) : next.IsClean := by
  obtain ⟨event, offset⟩ := delivery
  have advances : Advances .cleaning building event next := advances_of_step stepped
  cases advances with
  | skips => exact ⟨isClean.opened, isClean.root⟩
  | hides => exact ⟨isClean.opened, isClean.root⟩
  | omits => exact isClean
  | strays => exact isClean
  | passes => exact isClean
  | @enters tag element _ isOpened visible =>
    have shown : isDroppedElement element.name = false :=
      Bool.eq_false_iff.mpr fun dropped => visible ⟨rfl, dropped⟩
    have elementClean := isClean_openElement isOpened shown
    exact ⟨List.forall_mem_cons.mpr ⟨elementClean, isClean.opened⟩, isClean.root⟩
  | @inserts tag element _ _ isOpened visible attached =>
    have shown : isDroppedElement element.name = false :=
      Bool.eq_false_iff.mpr fun dropped => visible ⟨rfl, dropped⟩
    exact isClean.close (isClean_openElement isOpened shown) attached
  | leaves _ opened attached =>
    have allClean := isClean.opened
    rw [opened] at allClean
    obtain ⟨elementClean, outerClean⟩ := List.forall_mem_cons.mp allClean
    have leftClean : IsClean { building with opened := _ } := ⟨outerClean, isClean.root⟩
    exact leftClean.close elementClean attached
  | writes _ _ pushed => exact isClean.pushText pushed
  | copies _ pushed => exact isClean.pushText pushed

theorem IsClean.run (isClean : building.IsClean) {deliveries : List Delivery}
    (run : deliveries.foldlM (Building.step .cleaning) building = .ok next) : next.IsClean := by
  induction deliveries generalizing building with
  | nil =>
    cases run
    exact isClean
  | cons delivery rest inductionHypothesis =>
    rw [List.foldlM_cons] at run
    cases stepped : building.step .cleaning delivery with
    | error error =>
      rw [stepped] at run
      cases run
    | ok middle =>
      rw [stepped] at run
      exact inductionHypothesis (isClean.step stepped) run

end Building

/-- Every tree that is read with cleaning is clean. -/
theorem cleaned_of_readTree {text : String} {tree : Node}
    (read : readTree .cleaning text = .ok tree) : tree.Cleaned := by
  unfold readTree at read
  obtain ⟨-, final, run, finished⟩ := buildTree_eq_ok_iff.mp read
  have isClean := Building.isClean_start.run run
  obtain ⟨-, rooted, root⟩ := Building.finish_cases finished
  obtain ⟨clean, filled⟩ := isClean.root tree rooted
  exact ⟨root, clean, filled⟩

/-! ### Optimizing again -/

/-- An optimized text is the markup of a tree that cleaning leaves alone. It is
stable exactly if it is the markup of a settled tree; and if the tags of the
first tree are legible, exactly if none of its texts has blanks at its ends. -/
theorem optimize_stable_iff {text output : String} (optimized : optimize text = .ok output) :
    ∃ tree, readTree .cleaning text = .ok tree ∧ tree.markup = output ∧
      (IsStable output ↔ ∃ settled : Node, settled.Settled ∧ settled.markup = output) ∧
        (tree.Legible → (IsStable output ↔ tree.Trimmed)) := by
  unfold optimize at optimized
  cases read : readTree .cleaning text with
  | error error =>
    rw [read] at optimized
    cases optimized
  | ok tree =>
    rw [read] at optimized
    cases optimized
    have cleaned := cleaned_of_readTree read
    refine ⟨tree, rfl, rfl, Node.isStable_iff, ?_⟩
    intro legible
    constructor
    · rintro ⟨-, node, parsed, sameMarkup⟩
      have normal := readTree_markup_of_legible legible cleaned.root
      have isNormal : tree.normal = node := Except.ok.inj (normal.symm.trans parsed)
      rw [← isNormal] at sameMarkup
      exact trimmed_of_markup_eq sameMarkup
    · intro trimmed
      have settled : tree.Settled := ⟨cleaned, legible, trimmed⟩
      exact settled.isStable

theorem optimize_stable_iff_space :
    optimize "<svg>&#32;</svg>" = .ok "<svg> </svg>" ∧
      ∃ tree, readTree .cleaning "<svg>&#32;</svg>" = .ok tree ∧ tree.markup = "<svg> </svg>" ∧
        (IsStable "<svg> </svg>" ↔
          ∃ settled : Node, settled.Settled ∧ settled.markup = "<svg> </svg>") ∧
          (tree.Legible → (IsStable "<svg> </svg>" ↔ tree.Trimmed)) := by
  have optimized : optimize "<svg>&#32;</svg>" = .ok "<svg> </svg>" := by
    decide +kernel
  exact ⟨optimized, optimize_stable_iff optimized⟩

/-- Optimizing once replaces the reference by a space, and optimizing twice
loses the space. -/
theorem optimize_space_unstable :
    ¬∀ text output, optimize text = .ok output → IsStable output := by
  intro idempotent
  have once : optimize "<svg>&#32;</svg>" = .ok "<svg> </svg>" := by
    decide +kernel
  have twice : optimize "<svg> </svg>" = .ok "<svg/>" := by
    decide +kernel
  have unchanged := (idempotent _ _ once).1
  rw [twice] at unchanged
  exact absurd (Except.ok.inj unchanged) (by decide)

end IconForge.Svg
