import IconForge.Proofs.Svg.Reference
import IconForge.Proofs.Svg.Traversal

/-!
Contract: the trees in which neighbouring texts are one text.

Owns:
- the text between two tags, without the blanks at its ends;
- the normal form of a tree, in which neighbouring texts are put together and
  stripped, and left out if nothing remains;
- the trees that are their own normal form for that reason.

Main statement: `Node.normal_of_tidy`.

Does not own: that documents are read as normal forms.
-/

namespace IconForge.Svg

open IconForge.Text

/-- A text without the markup blanks at its ends. -/
def strip (text : List Char) : List Char :=
  dropEndWhile isSpace (text.dropWhile isSpace)

/-- The nodes that a text between tags becomes: none if it is empty. -/
def textNodes (text : List Char) : List Node :=
  if text.isEmpty then [] else [.text (String.ofList text)]

mutual

/-- The normal form of a node. -/
def Node.normal : Node → Node
  | .text value => .text value
  | .element name attributes children => .element name attributes (Node.normalAll [] children)

/-- The normal form of neighbouring nodes behind texts that are pending. -/
def Node.normalAll (pending : List Char) : List Node → List Node
  | [] => textNodes (strip pending)
  | node :: rest =>
    match node with
    | .text value => Node.normalAll (pending ++ value.toList) rest
    | .element _ _ _ => textNodes (strip pending) ++ node.normal :: Node.normalAll [] rest

end

mutual

/-- A node in which no text is empty, has another text beside it, or has blanks
at its ends. -/
def Node.Tidy : Node → Prop
  | .text value => value.toList ≠ [] ∧ strip value.toList = value.toList
  | .element _ _ children => Node.TidyAll children

/-- Neighbouring nodes that are tidy, of which no two are texts. -/
def Node.TidyAll : List Node → Prop
  | [] => True
  | node :: rest =>
    node.Tidy ∧ (node.name?.isSome ∨ ∀ next ∈ rest.head?, next.name?.isSome) ∧
      Node.TidyAll rest

end

/-! ### Stripping -/

theorem textNodes_of_ne_nil {text : List Char} (notEmpty : text ≠ []) :
    textNodes text = [.text (String.ofList text)] := by
  unfold textNodes
  rw [if_neg]
  rw [List.isEmpty_iff]
  exact notEmpty

theorem traversalAll_textNodes (text : List Char) :
    Node.traversalAll (textNodes text) = textMarks (String.ofList text) := by
  cases text with
  | nil => rfl
  | cons c rest =>
    rw [textNodes_of_ne_nil (List.cons_ne_nil c rest), Node.traversalAll_singleton, textMarks,
      if_neg]
    · rfl
    · rw [String.isEmpty_iff]
      simp

/-- Escaping leaves blanks as they are. -/
theorem escapeChar_of_isSpace {c : Char} (blank : isSpace c = true) : escapeChar c = [c] := by
  apply escapeChar_plain <;>
  · intro isSign
    subst isSign
    cases blank

/-- What a visible character is escaped to neither starts nor ends with a blank. -/
theorem escapeChar_of_not_isSpace {c : Char} (visible : isSpace c = false) :
    (escapeChar c).head?.any isSpace = false ∧
      (escapeChar c).reverse.head?.any isSpace = false ∧ (escapeChar c).isEmpty = false := by
  unfold escapeChar
  split
  case h_6 => exact ⟨visible, visible, rfl⟩
  all_goals exact ⟨rfl, rfl, rfl⟩

theorem dropWhile_isSpace_flatMap (write : Char → List Char) (text : List Char)
    (onBlanks : ∀ c, isSpace c = true → write c = [c])
    (onVisible : ∀ c, isSpace c = false →
      (write c).head?.any isSpace = false ∧ (write c).isEmpty = false) :
    (text.flatMap write).dropWhile isSpace = (text.dropWhile isSpace).flatMap write := by
  induction text with
  | nil => rfl
  | cons c rest inductionHypothesis =>
    by_cases blank : isSpace c = true
    · rw [List.flatMap_cons, onBlanks c blank, List.singleton_append,
        List.dropWhile_cons_of_pos blank, List.dropWhile_cons_of_pos blank, inductionHypothesis]
    · obtain ⟨startsVisible, notEmpty⟩ := onVisible c (Bool.eq_false_iff.mpr blank)
      rw [List.dropWhile_cons_of_neg blank, List.flatMap_cons]
      cases written : write c with
      | nil =>
        rw [written] at notEmpty
        cases notEmpty
      | cons first others =>
        rw [written] at startsVisible
        have visible : isSpace first = false := startsVisible
        rw [List.cons_append, List.dropWhile_cons_of_neg (Bool.eq_false_iff.mp visible)]

theorem dropEndWhile_isSpace_escaped (text : List Char) :
    dropEndWhile isSpace (text.flatMap escapeChar) =
      (dropEndWhile isSpace text).flatMap escapeChar := by
  have fromEnd := dropWhile_isSpace_flatMap (List.reverse ∘ escapeChar) text.reverse
    (fun _ blank => congrArg List.reverse (escapeChar_of_isSpace blank))
    (fun c visible => ⟨(escapeChar_of_not_isSpace visible).2.1, by
      rw [Function.comp_apply, List.isEmpty_reverse]
      exact (escapeChar_of_not_isSpace visible).2.2⟩)
  unfold dropEndWhile
  rw [List.reverse_flatMap, fromEnd, List.flatMap_reverse]

theorem dropWhile_isSpace_escaped (text : List Char) :
    (text.flatMap escapeChar).dropWhile isSpace = (text.dropWhile isSpace).flatMap escapeChar :=
  dropWhile_isSpace_flatMap escapeChar text
    (fun _ blank => escapeChar_of_isSpace blank)
    (fun _ visible => ⟨(escapeChar_of_not_isSpace visible).1,
      (escapeChar_of_not_isSpace visible).2.2⟩)

theorem strip_escaped (text : List Char) :
    strip (text.flatMap escapeChar) = (strip text).flatMap escapeChar := by
  unfold strip
  rw [dropWhile_isSpace_escaped, dropEndWhile_isSpace_escaped]

/-! ### Tidy trees are normal -/

theorem Node.normalAll_text (pending : List Char) (value : String) (rest : List Node) :
    Node.normalAll pending (.text value :: rest) =
      Node.normalAll (pending ++ value.toList) rest :=
  rfl

theorem Node.normalAll_element (pending : List Char) (name : String) (attributes : Attributes)
    (children rest : List Node) :
    Node.normalAll pending (.element name attributes children :: rest) =
      textNodes (strip pending) ++
        .element name attributes (Node.normalAll [] children) :: Node.normalAll [] rest :=
  rfl

mutual

/-- A tree in which no text is empty, has another text beside it, or has blanks
at its ends, is its own normal form. -/
theorem Node.normal_of_tidy {node : Node} (tidy : node.Tidy) : node.normal = node := by
  cases node with
  | text value => rfl
  | element name attributes children =>
    exact congrArg (Node.element name attributes) (Node.normalAll_of_tidy tidy)

theorem Node.normalAll_of_tidy {nodes : List Node} (tidy : Node.TidyAll nodes) :
    Node.normalAll [] nodes = nodes := by
  cases nodes with
  | nil => rfl
  | cons node rest =>
    obtain ⟨tidyNode, notAdjacent, tidyRest⟩ := tidy
    have restNormal := Node.normalAll_of_tidy tidyRest
    cases node with
    | element name attributes children =>
      rw [Node.normalAll_element, Node.normalAll_of_tidy tidyNode, restNormal]
      rfl
    | text value =>
      obtain ⟨notEmpty, stripped⟩ := tidyNode
      have isText : textNodes (strip value.toList) = [.text value] := by
        rw [stripped, textNodes_of_ne_nil notEmpty, String.ofList_toList]
      rw [Node.normalAll_text, List.nil_append]
      cases rest with
      | nil => exact isText
      | cons next others =>
        cases next with
        | text other =>
          rcases notAdjacent with isElement | nextIsElement
          · cases isElement
          · cases nextIsElement _ rfl
        | element name attributes children =>
          rw [Node.normalAll_element] at restNormal ⊢
          rw [isText]
          exact congrArg (Node.text value :: ·) restNormal

end

end IconForge.Svg
