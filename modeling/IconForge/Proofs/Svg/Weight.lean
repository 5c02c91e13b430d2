import IconForge.Proofs.Svg.Cleaning
import IconForge.Proofs.Svg.Collapse
import IconForge.Proofs.Svg.Legible

/-!
Contract: cleaning and normalizing make markup lighter, or leave a tree alone.

Owns:
- the weight of markup, in which a space is lighter than any other character;
- the trees in which no text between tags has blanks at its ends;
- that a tree whose clean or normal form weighs as much is clean, or trimmed.

Main statements: `clean_eq_of_markup_eq`, `trimmed_of_markup_eq`.

Does not own: when reading markup again leaves it alone.
-/

namespace IconForge.Svg

open IconForge.Text

mutual

/-- A node in which no text between two tags has blanks at its ends. -/
def Node.Trimmed : Node → Prop
  | .text _ => True
  | .element _ _ children => Node.TrimmedAll [] children

/-- Neighbouring nodes, behind texts that are pending, in which no text between
two tags has blanks at its ends. -/
def Node.TrimmedAll (pending : List Char) : List Node → Prop
  | [] => strip pending = pending
  | node :: rest =>
    match node with
    | .text value => Node.TrimmedAll (pending ++ value.toList) rest
    | .element _ _ _ => strip pending = pending ∧ node.Trimmed ∧ Node.TrimmedAll [] rest

end

/-! ### Weights -/

/-- The weight of a character. Blanks are collapsed to spaces, so a space is
lighter than any other character. -/
def ink (c : Char) : Nat :=
  if c = ' ' then 1 else 2

/-- The weight of a text. -/
def inkOf (text : List Char) : Nat :=
  weigh ink text

/-- The weight of a character as it stands in markup. -/
def escapedInk (c : Char) : Nat :=
  inkOf (escapeChar c)

theorem ink_pos (c : Char) : 0 < ink c := by
  unfold ink
  split <;> omega

theorem inkOf_append (front back : List Char) :
    inkOf (front ++ back) = inkOf front + inkOf back :=
  weigh_append ink front back

theorem inkOf_cons (c : Char) (rest : List Char) : inkOf (c :: rest) = ink c + inkOf rest :=
  weigh_cons ink c rest

theorem inkOf_escaped (text : List Char) :
    inkOf (text.flatMap escapeChar) = weigh escapedInk text := by
  induction text with
  | nil => rfl
  | cons c rest inductionHypothesis =>
    rw [List.flatMap_cons, inkOf_append, inductionHypothesis, weigh_cons]
    rfl

theorem escapedInk_space : escapedInk ' ' = 1 := by
  decide

theorem escapedInk_of_ne_space (c : Char) (notSpace : c ≠ ' ') : 1 < escapedInk c := by
  unfold escapedInk escapeChar
  split
  case h_6 =>
    rw [inkOf_cons, ink, if_neg notSpace]
    omega
  all_goals decide

/-- What is left of a text by dropping characters weighs less, or is the text. -/
theorem weigh_sublist {weight : Char → Nat} {shorter text : List Char}
    (positive : ∀ c, 0 < weight c) (isSublist : shorter.Sublist text) :
    weigh weight shorter ≤ weigh weight text ∧
      (weigh weight shorter = weigh weight text → shorter = text) := by
  induction isSublist with
  | slnil => exact ⟨Nat.le_refl _, fun _ => rfl⟩
  | cons c isSublist inductionHypothesis =>
    have heavy := positive c
    rw [weigh_cons]
    exact ⟨by omega, fun same => by omega⟩
  | cons_cons c isSublist inductionHypothesis =>
    rw [weigh_cons, weigh_cons]
    refine ⟨by omega, ?_⟩
    intro same
    rw [inductionHypothesis.2 (by omega)]

theorem strip_sublist (text : List Char) : (strip text).Sublist text := by
  have fromEnd : (((text.dropWhile isSpace).reverse).dropWhile isSpace).Sublist
      (text.dropWhile isSpace).reverse :=
    List.dropWhile_sublist isSpace
  have front := fromEnd.reverse
  rw [List.reverse_reverse] at front
  exact front.trans (List.dropWhile_sublist isSpace)

theorem strip_weight (text : List Char) :
    inkOf ((strip text).flatMap escapeChar) ≤ inkOf (text.flatMap escapeChar) ∧
      (inkOf ((strip text).flatMap escapeChar) = inkOf (text.flatMap escapeChar) →
        strip text = text) := by
  rw [inkOf_escaped, inkOf_escaped]
  exact weigh_sublist (weight_pos escapedInk_space escapedInk_of_ne_space) (strip_sublist text)

/-! ### The markup of tags -/

theorem inkOf_single (name : String) (attributes : Attributes) :
    inkOf (Node.element name attributes []).markup.toList =
      inkOf (tagText name attributes) + 6 := by
  have ends : inkOf ['/', '>'] = 4 ∧ ink '<' = 2 := by
    decide
  rw [toList_markup_single, inkOf_cons, inkOf_append, ends.1, ends.2]
  omega

theorem inkOf_parent (name : String) (attributes : Attributes) {children : List Node}
    (notEmpty : children ≠ []) :
    inkOf (Node.element name attributes children).markup.toList =
      inkOf (tagText name attributes) + inkOf (Node.markupAll children).toList +
        inkOf name.toList + 10 := by
  obtain ⟨child, others, rfl⟩ := List.exists_cons_of_ne_nil notEmpty
  have signs : inkOf ['>'] = 2 ∧ ink '<' = 2 ∧ ink '/' = 2 ∧ ink '>' = 2 := by
    decide
  rw [toList_markup_parent, inkOf_cons, inkOf_append, inkOf_cons, inkOf_append, inkOf_cons,
    inkOf_cons, inkOf_append, signs.1, signs.2.1, signs.2.2.1, signs.2.2.2]
  omega

theorem inkOf_markupAll_cons (node : Node) (rest : List Node) :
    inkOf (Node.markupAll (node :: rest)).toList =
      inkOf node.markup.toList + inkOf (Node.markupAll rest).toList := by
  rw [toList_markupAll_cons, inkOf_append]

/-! ### Clean forms -/

theorem inkOf_attributeMarkup (key value : String) :
    inkOf (attributeMarkup (key, value)).toList =
      inkOf key.toList + weigh escapedInk value.toList + 7 := by
  have signs : ink ' ' = 1 ∧ ink '=' = 2 ∧ ink '"' = 2 ∧ inkOf ['"'] = 2 := by
    decide
  rw [toList_attributeMarkup, inkOf_cons, inkOf_append, inkOf_cons, inkOf_cons, inkOf_append,
    inkOf_escaped, signs.1, signs.2.1, signs.2.2.1, signs.2.2.2]
  simp only
  omega

theorem cleanAttributes_cons (key value : String) (others : List (String × String)) :
    cleanAttributes ((key, value) :: others) =
      if isEditorAttribute key || (collapseBlanks value).isEmpty then cleanAttributes others
      else (key, collapseBlanks value) :: cleanAttributes others := by
  unfold cleanAttributes
  rw [List.filterMap_cons]
  by_cases gone : (isEditorAttribute key || (collapseBlanks value).isEmpty) = true
  · simp only [gone, if_true]
  · simp only [gone, Bool.false_eq_true, if_false]

theorem collapseBlanks_weight (value : String) :
    weigh escapedInk (collapseBlanks value).toList ≤ weigh escapedInk value.toList ∧
      (weigh escapedInk (collapseBlanks value).toList = weigh escapedInk value.toList →
        collapseBlanks value = value) := by
  obtain ⟨lighter, unchanged⟩ :=
    collapse_weight escapedInk_space escapedInk_of_ne_space value.toList
  rw [toList_collapseBlanks]
  refine ⟨lighter, ?_⟩
  intro same
  apply String.toList_inj.mp
  rw [toList_collapseBlanks, unchanged same]

theorem cleanAttributes_weight (entries : List (String × String)) :
    inkOf (attributesText (cleanAttributes entries)) ≤ inkOf (attributesText entries) ∧
      (inkOf (attributesText (cleanAttributes entries)) = inkOf (attributesText entries) →
        cleanAttributes entries = entries) := by
  induction entries with
  | nil => exact ⟨Nat.le_refl _, fun _ => rfl⟩
  | cons entry others inductionHypothesis =>
    obtain ⟨key, value⟩ := entry
    obtain ⟨lighter, unchanged⟩ := inductionHypothesis
    obtain ⟨valueLighter, valueUnchanged⟩ := collapseBlanks_weight value
    have split : ∀ (pair : String × String) (rest : List (String × String)),
        inkOf (attributesText (pair :: rest)) =
          inkOf (attributeMarkup pair).toList + inkOf (attributesText rest) := by
      intro pair rest
      unfold attributesText
      rw [List.flatMap_cons, inkOf_append]
    rw [cleanAttributes_cons, split, inkOf_attributeMarkup]
    by_cases gone : (isEditorAttribute key || (collapseBlanks value).isEmpty) = true
    · rw [if_pos gone]
      exact ⟨by omega, fun same => by omega⟩
    · rw [if_neg gone, split, inkOf_attributeMarkup]
      refine ⟨by omega, ?_⟩
      intro same
      rw [unchanged (by omega), valueUnchanged (by omega)]

theorem clean_tag_weight (name : String) (attributes : Attributes) :
    inkOf (tagText name attributes.clean) ≤ inkOf (tagText name attributes) ∧
      (inkOf (tagText name attributes.clean) = inkOf (tagText name attributes) →
        attributes.clean = attributes) := by
  obtain ⟨lighter, unchanged⟩ := cleanAttributes_weight attributes.entries
  unfold tagText
  rw [inkOf_append, inkOf_append]
  change inkOf (attributesText attributes.clean.entries) ≤ _ at lighter
  change inkOf (attributesText attributes.clean.entries) = _ → _ at unchanged
  refine ⟨by omega, ?_⟩
  intro same
  apply Attributes.ext
  exact unchanged (by omega)

theorem inkOf_element_pos {node : Node} (isElement : node.name?.isSome = true) :
    0 < inkOf node.markup.toList := by
  obtain ⟨behind, starts⟩ := markup_starts isElement
  have positive := ink_pos '<'
  rw [starts, inkOf_cons]
  omega

theorem isElement_of_gone {node : Node}
    (gone : (node.isDropped || isEmptyContainer node.clean) = true) :
    node.name?.isSome = true := by
  cases node with
  | text value => cases gone
  | element name attributes children => rfl

mutual

/-- The clean form of a node weighs less, or is the node. -/
theorem clean_weight (node : Node) :
    inkOf node.clean.markup.toList ≤ inkOf node.markup.toList ∧
      (inkOf node.clean.markup.toList = inkOf node.markup.toList → node.clean = node) := by
  cases node with
  | text value => exact ⟨Nat.le_refl _, fun _ => rfl⟩
  | element name attributes children =>
    obtain ⟨tagLighter, tagUnchanged⟩ := clean_tag_weight name attributes
    obtain ⟨lighter, unchanged⟩ := cleanAll_weight children
    rw [Node.clean]
    by_cases isLeaf : children = []
    · subst isLeaf
      rw [Node.cleanAll, inkOf_single, inkOf_single]
      refine ⟨by omega, ?_⟩
      intro same
      rw [tagUnchanged (by omega)]
    · rw [inkOf_parent name attributes isLeaf]
      by_cases isEmptied : Node.cleanAll children = []
      · rw [isEmptied, inkOf_single]
        exact ⟨by omega, fun same => by omega⟩
      · rw [inkOf_parent name attributes.clean isEmptied]
        refine ⟨by omega, ?_⟩
        intro same
        rw [tagUnchanged (by omega), unchanged (by omega)]

theorem cleanAll_weight (nodes : List Node) :
    inkOf (Node.markupAll (Node.cleanAll nodes)).toList ≤ inkOf (Node.markupAll nodes).toList ∧
      (inkOf (Node.markupAll (Node.cleanAll nodes)).toList =
          inkOf (Node.markupAll nodes).toList →
        Node.cleanAll nodes = nodes) := by
  cases nodes with
  | nil => exact ⟨Nat.le_refl _, fun _ => rfl⟩
  | cons node rest =>
    obtain ⟨nodeLighter, nodeUnchanged⟩ := clean_weight node
    obtain ⟨lighter, unchanged⟩ := cleanAll_weight rest
    rw [Node.cleanAll, inkOf_markupAll_cons]
    by_cases gone : (node.isDropped || isEmptyContainer node.clean) = true
    · have positive := inkOf_element_pos (isElement_of_gone gone)
      rw [if_pos gone]
      exact ⟨by omega, fun same => by omega⟩
    · rw [if_neg gone, inkOf_markupAll_cons]
      refine ⟨by omega, ?_⟩
      intro same
      rw [nodeUnchanged (by omega), unchanged (by omega)]

end

/-- A node that has the markup of its clean form is clean. -/
theorem clean_eq_of_markup_eq {node : Node} (same : node.clean.markup = node.markup) :
    node.clean = node :=
  (clean_weight node).2 (by rw [same])

/-! ### Normal forms -/

theorem toList_markupAll_append (front back : List Node) :
    (Node.markupAll (front ++ back)).toList =
      (Node.markupAll front).toList ++ (Node.markupAll back).toList := by
  induction front with
  | nil => rfl
  | cons node rest inductionHypothesis =>
    rw [List.cons_append, toList_markupAll_cons, toList_markupAll_cons, inductionHypothesis,
      List.append_assoc]

theorem toList_markupAll_textNodes (text : List Char) :
    (Node.markupAll (textNodes text)).toList = text.flatMap escapeChar := by
  cases text with
  | nil => rfl
  | cons c rest =>
    rw [textNodes_of_ne_nil (List.cons_ne_nil c rest), toList_markupAll_cons,
      toList_markup_text, String.toList_ofList]
    exact List.append_nil _

mutual

/-- The normal form of a node weighs less, or the node is trimmed. -/
theorem normal_weight (node : Node) :
    inkOf node.normal.markup.toList ≤ inkOf node.markup.toList ∧
      (inkOf node.normal.markup.toList = inkOf node.markup.toList → node.Trimmed) := by
  cases node with
  | text value => exact ⟨Nat.le_refl _, fun _ => trivial⟩
  | element name attributes children =>
    obtain ⟨lighter, trimmed⟩ := normalAll_weight [] children
    have nothing : inkOf (([] : List Char).flatMap escapeChar) = 0 := rfl
    rw [nothing, Nat.zero_add] at lighter trimmed
    rw [Node.normal]
    by_cases isLeaf : children = []
    · subst isLeaf
      exact ⟨Nat.le_refl _, fun _ => rfl⟩
    · rw [inkOf_parent name attributes isLeaf]
      by_cases isEmptied : Node.normalAll [] children = []
      · rw [isEmptied, inkOf_single]
        exact ⟨by omega, fun same => by omega⟩
      · rw [inkOf_parent name attributes isEmptied]
        exact ⟨by omega, fun same => trimmed (by omega)⟩

theorem normalAll_weight (pending : List Char) (nodes : List Node) :
    inkOf (Node.markupAll (Node.normalAll pending nodes)).toList ≤
        inkOf (pending.flatMap escapeChar) + inkOf (Node.markupAll nodes).toList ∧
      (inkOf (Node.markupAll (Node.normalAll pending nodes)).toList =
          inkOf (pending.flatMap escapeChar) + inkOf (Node.markupAll nodes).toList →
        Node.TrimmedAll pending nodes) := by
  obtain ⟨stripLighter, stripUnchanged⟩ := strip_weight pending
  cases nodes with
  | nil =>
    have nothing : inkOf (Node.markupAll []).toList = 0 := rfl
    rw [nothing, Nat.add_zero, Node.normalAll, toList_markupAll_textNodes]
    exact ⟨stripLighter, stripUnchanged⟩
  | cons node rest =>
    cases node with
    | text value =>
      have further := normalAll_weight (pending ++ value.toList) rest
      rw [List.flatMap_append, inkOf_append] at further
      rw [Node.normalAll_text, inkOf_markupAll_cons, toList_markup_text, ← Nat.add_assoc]
      exact further
    | element name attributes children =>
      obtain ⟨nodeLighter, nodeTrimmed⟩ := normal_weight (.element name attributes children)
      obtain ⟨lighter, trimmed⟩ := normalAll_weight [] rest
      have nothing : inkOf (([] : List Char).flatMap escapeChar) = 0 := rfl
      rw [nothing, Nat.zero_add] at lighter trimmed
      rw [Node.normal] at nodeLighter nodeTrimmed
      rw [Node.normalAll_element, toList_markupAll_append, toList_markupAll_textNodes,
        inkOf_append, inkOf_markupAll_cons, inkOf_markupAll_cons]
      refine ⟨by omega, ?_⟩
      intro same
      exact ⟨stripUnchanged (by omega), nodeTrimmed (by omega), trimmed (by omega)⟩

end

/-- A node that has the markup of its normal form is trimmed. -/
theorem trimmed_of_markup_eq {node : Node} (same : node.normal.markup = node.markup) :
    node.Trimmed :=
  (normal_weight node).2 (by rw [same])

end IconForge.Svg
