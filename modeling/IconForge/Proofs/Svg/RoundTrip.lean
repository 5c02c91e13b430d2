import IconForge.Proofs.Svg.Legible

/-!
Contract: markup is read back as the tree it was written from.

Owns:
- the names and keys that are free of everything that means something in a tag;
- that trees with such names are legible.

Main statement: `parse_markup`.

Does not own: trees with other names.
-/

namespace IconForge.Svg

open IconForge.Text

/-- Whether a character means nothing in a tag. -/
def isNameChar (c : Char) : Bool :=
  !(isSpace c || isMarkupSign c || c == '/' || c == '=')

/-- Whether a text is a name that means the same wherever it stands in a tag:
not empty, without blanks and without any of `< > / = " '`, and not started by
`!` or `?`. -/
def isProperName (name : String) : Bool :=
  match name.toList with
  | [] => false
  | first :: rest => first != '!' && first != '?' && (first :: rest).all isNameChar

/-- Whether a text is a key that means the same wherever it stands behind the name of a tag:
not empty, without blanks and without any of `< > / = " '`. -/
def isFreeKey (key : String) : Bool :=
  !key.toList.isEmpty && key.toList.all isNameChar

mutual

/-- Whether all elements and attributes of a node have proper names. -/
def Node.isProper : Node → Bool
  | .text _ => true
  | .element name attributes children =>
    isProperName name && attributes.entries.all (fun pair => isProperName pair.1) &&
      Node.isProperAll children

/-- Whether all elements and attributes of neighbouring nodes have proper
names. -/
def Node.isProperAll : List Node → Bool
  | [] => true
  | node :: rest => node.isProper && Node.isProperAll rest

end

/-! ### Proper names -/

/-- A character of a name is none of those with a meaning. -/
theorem isNameChar_cases {c : Char} (plain : isNameChar c = true) :
    isSpace c = false ∧ isMarkupSign c = false ∧ c ≠ '/' ∧ c ≠ '=' := by
  simp only [isNameChar, Bool.not_eq_true', Bool.or_eq_false_iff, beq_eq_false_iff_ne] at plain
  exact ⟨plain.1.1.1, plain.1.1.2, plain.1.2, plain.2⟩

/-- A proper name has a first character, and no character with a meaning. -/
theorem isProperName_cases {name : String} (proper : isProperName name = true) :
    ∃ first rest, name.toList = first :: rest ∧ first ≠ '!' ∧ first ≠ '?' ∧
      ∀ c ∈ name.toList, isSpace c = false ∧ isMarkupSign c = false ∧ c ≠ '/' ∧ c ≠ '=' := by
  unfold isProperName at proper
  split at proper
  · cases proper
  · next first rest nameIs =>
    rw [Bool.and_eq_true, Bool.and_eq_true, List.all_eq_true] at proper
    obtain ⟨⟨noDeclaration, noInstruction⟩, plain⟩ := proper
    refine ⟨first, rest, nameIs, bne_iff_ne.mp noDeclaration, bne_iff_ne.mp noInstruction, ?_⟩
    rw [nameIs]
    exact fun c member => isNameChar_cases (plain c member)

theorem isFreeKey_of_isProperName {key : String} (proper : isProperName key = true) :
    isFreeKey key = true := by
  unfold isProperName at proper
  split at proper
  · cases proper
  · next first rest keyIs =>
    rw [isFreeKey, keyIs]
    exact (Bool.and_eq_true_iff.mp proper).2

theorem forall_of_isFreeKey {key : String} (free : isFreeKey key = true) :
    ∀ c ∈ key.toList, isSpace c = false ∧ isMarkupSign c = false ∧ c ≠ '/' ∧ c ≠ '=' := by
  have plain := List.all_eq_true.mp (Bool.and_eq_true_iff.mp free).2
  exact fun c member => isNameChar_cases (plain c member)

theorem isKey_of_isFreeKey {key : String} (free : isFreeKey key = true) :
    isKey key.toList = true := by
  have plain := forall_of_isFreeKey free
  have notEmpty := (Bool.and_eq_true_iff.mp free).1
  cases keyIs : key.toList with
  | nil =>
    rw [keyIs] at notEmpty
    cases notEmpty
  | cons first rest =>
    rw [keyIs] at plain
    rw [isKey, Bool.and_eq_true, List.all_eq_true]
    constructor
    · rw [(plain first List.mem_cons_self).1]
      rfl
    · intro c member
      obtain ⟨notSpace, -, -, notEquals⟩ := plain c (List.mem_cons_of_mem _ member)
      rw [endsKey, notSpace, beq_false_of_ne notEquals]
      rfl

theorem startsTag_of_isProperName {name : String} (proper : isProperName name = true) :
    startsTag name.toList = true := by
  obtain ⟨first, rest, nameIs, notDeclaration, notInstruction, plain⟩ :=
    isProperName_cases proper
  unfold startsTag
  rw [nameIs] at plain ⊢
  split
  · next same =>
    cases same
    exact absurd rfl notDeclaration
  · next same =>
    cases same
    exact absurd rfl notInstruction
  · next same =>
    cases same
    exact absurd rfl (plain '/' List.mem_cons_self).2.2.1
  · rfl

theorem getLast?_attributeMarkup (pair : String × String) :
    (attributeMarkup pair).toList.getLast? = some '"' := by
  rw [toList_attributeMarkup]
  simp [List.getLast?_cons]

theorem getLast?_attributesText {entries : List (String × String)} (notEmpty : entries ≠ []) :
    (attributesText entries).getLast? = some '"' := by
  induction entries with
  | nil => exact absurd rfl notEmpty
  | cons entry others inductionHypothesis =>
    unfold attributesText at inductionHypothesis ⊢
    rw [List.flatMap_cons, List.getLast?_append]
    cases others with
    | nil => exact getLast?_attributeMarkup entry
    | cons next further =>
      rw [inductionHypothesis (List.cons_ne_nil next further)]
      rfl

section ProperTags

variable {name : String} {attributes : Attributes}
  (properName : isProperName name = true)
  (freeKeys : ∀ key ∈ attributes.entries.map Prod.fst, isFreeKey key = true)

include properName freeKeys

theorem legibleTag_of_isProperName : LegibleTag name attributes where
  starts := startsTag_of_isProperName properName
  unspaced := by
    obtain ⟨_, _, _, _, _, plain⟩ := isProperName_cases properName
    exact fun c member => (plain c member).1
  keys := fun key member => isKey_of_isFreeKey (freeKeys key member)
  closed := by
    obtain ⟨_, _, _, _, _, plain⟩ := isProperName_cases properName
    apply scan?_outside_append
    · exact scan?_unsigned fun c member => (plain c member).2.1
    · apply scan?_attributesText
      exact fun key isKey c member => (forall_of_isFreeKey (freeKeys key isKey) c member).2.1

theorem legibleSingle_of_isProperName : LegibleSingle name attributes where
  toLegibleTag := legibleTag_of_isProperName properName freeKeys
  notBlank := by
    obtain ⟨first, rest, nameIs, _⟩ := isProperName_cases properName
    unfold tagText
    rw [nameIs]
    exact List.cons_ne_nil first _

theorem legiblePair_of_isProperName : LegiblePair name attributes where
  toLegibleTag := legibleTag_of_isProperName properName freeKeys
  closedName := by
    obtain ⟨_, _, _, _, _, plain⟩ := isProperName_cases properName
    exact scan?_unsigned fun c member => (plain c member).2.1
  noSlash := by
    obtain ⟨_, _, _, _, _, plain⟩ := isProperName_cases properName
    unfold tagText
    rw [List.getLast?_append]
    intro isSlash
    by_cases noAttributes : attributes.entries = []
    · rw [noAttributes] at isSlash
      have member := List.mem_of_getLast? isSlash
      exact (plain '/' member).2.2.1 rfl
    · rw [getLast?_attributesText noAttributes] at isSlash
      cases isSlash

end ProperTags

mutual

theorem legible_of_isProper {node : Node} (proper : node.isProper = true) : node.Legible := by
  cases node with
  | text value => trivial
  | element name attributes children =>
    simp only [Node.isProper, Bool.and_eq_true, List.all_eq_true] at proper
    obtain ⟨⟨properName, properPairs⟩, properChildren⟩ := proper
    have freeKeys : ∀ key ∈ attributes.entries.map Prod.fst, isFreeKey key = true := by
      intro key member
      obtain ⟨pair, isPair, isFirst⟩ := List.mem_map.mp member
      rw [← isFirst]
      exact isFreeKey_of_isProperName (properPairs pair isPair)
    have legibleChildren := legibleAll_of_isProperAll properChildren
    cases children with
    | nil => exact legibleSingle_of_isProperName properName freeKeys
    | cons child others =>
      exact ⟨legiblePair_of_isProperName properName freeKeys, legibleChildren⟩

theorem legibleAll_of_isProperAll {nodes : List Node} (proper : Node.isProperAll nodes = true) :
    Node.LegibleAll nodes := by
  cases nodes with
  | nil => trivial
  | cons node rest =>
    rw [Node.isProperAll, Bool.and_eq_true] at proper
    exact ⟨legible_of_isProper proper.1, legibleAll_of_isProperAll proper.2⟩

end

/-- The markup of a drawing with proper names is read as its normal form, which
is the drawing itself if it is tidy. -/
theorem parse_markup {tree : Node} (root : tree.name? = some "svg")
    (proper : tree.isProper = true) :
    parse tree.markup = .ok tree.normal ∧ (tree.Tidy → parse tree.markup = .ok tree) := by
  have read : parse tree.markup = .ok tree.normal :=
    readTree_markup_of_legible (legible_of_isProper proper) root
  refine ⟨read, ?_⟩
  intro tidy
  rw [read, Node.normal_of_tidy tidy]

/-- A drawing with a value that has to be escaped, and with neighbouring, blank
and edged texts. -/
def sample : Node :=
  .element "svg" ⟨[("data-x", "a\"<b>"), ("id", "")], by decide⟩
    [.text " 1 <", .text " 2\n", .element "g" .empty [.text "\t"]]

/-- What is read from the markup of the sample. -/
def tidySample : Node :=
  .element "svg" ⟨[("data-x", "a\"<b>"), ("id", "")], by decide⟩
    [.text "1 < 2", .element "g" .empty []]

theorem parse_markup_sample :
    sample.name? = some "svg" ∧ sample.isProper = true ∧ parse sample.markup = .ok tidySample ∧
      tidySample.Tidy ∧ parse tidySample.markup = .ok tidySample := by
  have root : sample.name? = some "svg" := rfl
  have proper : sample.isProper = true := by decide
  have normal : sample.normal = tidySample := rfl
  have tidyRoot : tidySample.name? = some "svg" := rfl
  have tidyProper : tidySample.isProper = true := by decide
  have tidy : tidySample.Tidy :=
    ⟨⟨by decide, by decide⟩, Or.inr (by simp [Node.name?]), trivial, Or.inl rfl, trivial⟩
  exact ⟨root, proper, normal ▸ (parse_markup root proper).1, tidy,
    (parse_markup tidyRoot tidyProper).2 tidy⟩

end IconForge.Svg
