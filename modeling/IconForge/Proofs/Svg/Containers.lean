import IconForge.Proofs.Svg.Stability

/-!
Contract: containers in which nothing stands.

Owns:
- all nodes of a tree, in document order;
- that a clean tree has no container without children;
- where the normal form of a tree has one: where the tree has a container that holds
  nothing but blank texts.

Main statements: `isEmptyContainer_of_clean`, `exists_emptyContainer_normal_iff`.

Does not own: how a drawing comes to be read twice.
-/

namespace IconForge.Svg

open IconForge.Text

namespace Node

mutual

/-- A node and all nodes inside it, in document order. -/
def parts : Node → List Node
  | .text value => [.text value]
  | .element name attributes children => .element name attributes children :: partsAll children

/-- Neighbouring nodes and all nodes inside them, in document order. -/
def partsAll : List Node → List Node
  | [] => []
  | node :: rest => node.parts ++ partsAll rest

end

/-- Whether a node is a text of markup blanks only. -/
def isBlankText : Node → Bool
  | .text value => value.toList.all isSpace
  | .element _ _ _ => false

/-- Whether a node is a container in which there is no more than blank texts. -/
def isHollow : Node → Bool
  | .element name _ children => children.all isBlankText && containers.contains name
  | .text _ => false

/-! ### Clean trees -/

mutual

/-- A clean tree has no container without children inside it, and is none if it is kept. -/
theorem isEmptyContainer_of_clean {node : Node} (clean : node.clean = node)
    (notEmpty : isEmptyContainer node = false) :
    ∀ part ∈ node.parts, isEmptyContainer part = false := by
  cases node with
  | text value => exact List.forall_mem_singleton.mpr rfl
  | element name attributes children =>
    obtain ⟨-, cleanChildren⟩ := clean_element_self clean
    exact List.forall_mem_cons.mpr ⟨notEmpty, isEmptyContainer_of_cleanAll cleanChildren⟩

theorem isEmptyContainer_of_cleanAll {nodes : List Node} (clean : cleanAll nodes = nodes) :
    ∀ part ∈ partsAll nodes, isEmptyContainer part = false := by
  cases nodes with
  | nil => exact fun _ member => nomatch member
  | cons node rest =>
    obtain ⟨-, notEmpty, cleanNode, cleanRest⟩ := cleanAll_cons_self clean
    exact List.forall_mem_append.mpr
      ⟨isEmptyContainer_of_clean cleanNode notEmpty, isEmptyContainer_of_cleanAll cleanRest⟩

end

theorem isEmptyContainer_of_root {node : Node} (root : node.name? = some "svg") :
    isEmptyContainer node = false := by
  cases node with
  | text value => rfl
  | element name attributes children =>
    cases root
    exact Bool.and_false _

/-! ### Normal forms -/

theorem strip_eq_nil_iff (text : List Char) : strip text = [] ↔ text.all isSpace = true := by
  have sameVisible : text.all isSpace = (text.dropWhile isSpace).all isSpace := by
    have parts := congrArg (List.all · isSpace) (List.takeWhile_append_dropWhile (p := isSpace)
      (l := text))
    rw [List.all_append, List.all_takeWhile, Bool.true_and] at parts
    exact parts.symm
  rw [strip, dropEndWhile, List.reverse_eq_nil_iff, List.dropWhile_eq_nil_iff, sameVisible,
    List.all_eq_true]
  exact forall_congr' fun c => imp_congr_left List.mem_reverse

theorem textNodes_eq_nil_iff (text : List Char) : textNodes text = [] ↔ text = [] := by
  cases text with
  | nil => exact iff_of_true rfl rfl
  | cons c rest =>
    rw [textNodes_of_ne_nil (List.cons_ne_nil c rest)]
    exact iff_of_false (List.cons_ne_nil _ _) (List.cons_ne_nil _ _)

/-- Nothing is left of neighbouring nodes exactly if they are blank texts, as well as what
is pending in front of them. -/
theorem normalAll_eq_nil_iff (pending : List Char) (nodes : List Node) :
    normalAll pending nodes = [] ↔
      pending.all isSpace = true ∧ nodes.all isBlankText = true := by
  induction nodes generalizing pending with
  | nil =>
    rw [normalAll, textNodes_eq_nil_iff, strip_eq_nil_iff, List.all_nil]
    exact (and_iff_left rfl).symm
  | cons node rest inductionHypothesis =>
    rw [List.all_cons, Bool.and_eq_true]
    cases node with
    | text value =>
      rw [normalAll_text, inductionHypothesis, List.all_append, Bool.and_eq_true, and_assoc]
      rfl
    | element name attributes children =>
      rw [normalAll_element]
      have something : textNodes (strip pending) ++
          element name attributes (normalAll [] children) :: normalAll [] rest ≠ [] :=
        List.append_ne_nil_of_right_ne_nil _ (List.cons_ne_nil _ _)
      exact iff_of_false something fun blank => nomatch blank.2.1

theorem isEmptyContainer_normal (node : Node) : isEmptyContainer node.normal = node.isHollow := by
  cases node with
  | text value => rfl
  | element name attributes children =>
    have sameChildren : (normalAll [] children).isEmpty = children.all isBlankText := by
      rw [Bool.eq_iff_iff, List.isEmpty_iff, normalAll_eq_nil_iff]
      exact and_iff_right rfl
    rw [normal, isEmptyContainer, isHollow, sameChildren]

theorem partsAll_append (front back : List Node) :
    partsAll (front ++ back) = partsAll front ++ partsAll back := by
  induction front with
  | nil => rfl
  | cons node rest inductionHypothesis =>
    rw [List.cons_append, partsAll, partsAll, inductionHypothesis, List.append_assoc]

theorem any_partsAll_textNodes (text : List Char) :
    (partsAll (textNodes text)).any isEmptyContainer = false := by
  cases text with
  | nil => rfl
  | cons c rest =>
    rw [textNodes_of_ne_nil (List.cons_ne_nil c rest)]
    rfl

mutual

theorem any_parts_normal (node : Node) :
    node.normal.parts.any isEmptyContainer = node.parts.any isHollow := by
  have here := isEmptyContainer_normal node
  cases node with
  | text value => rfl
  | element name attributes children =>
    have inside := any_partsAll_normalAll [] children
    rw [normal] at here ⊢
    rw [parts, parts, List.any_cons, List.any_cons, here, inside]

theorem any_partsAll_normalAll (pending : List Char) (nodes : List Node) :
    (partsAll (normalAll pending nodes)).any isEmptyContainer =
      (partsAll nodes).any isHollow := by
  cases nodes with
  | nil => exact any_partsAll_textNodes (strip pending)
  | cons node rest =>
    rw [partsAll, List.any_append]
    cases node with
    | text value =>
      rw [normalAll_text, any_partsAll_normalAll (pending ++ value.toList) rest]
      rfl
    | element name attributes children =>
      have here := any_parts_normal (element name attributes children)
      rw [normal] at here
      rw [normalAll_element, partsAll_append, partsAll, List.any_append, List.any_append,
        any_partsAll_textNodes, Bool.false_or, here, any_partsAll_normalAll [] rest]

end

/-- The normal form of a tree has a container without children exactly if the tree has a
container with nothing but blank texts in it. -/
theorem exists_emptyContainer_normal_iff (node : Node) :
    (∃ part ∈ node.normal.parts, isEmptyContainer part = true) ↔
      ∃ part ∈ node.parts, part.isHollow = true := by
  rw [← List.any_eq_true, ← List.any_eq_true, any_parts_normal]

end Node

end IconForge.Svg
