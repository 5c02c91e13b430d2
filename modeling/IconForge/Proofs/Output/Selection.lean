import IconForge.Proofs.Naming
import IconForge.Proofs.Output.Texts
import IconForge.Proofs.Script.RoundTrip

/-!
Contract: the drawing that a generated component shows.

Owns:
- the module of an icon's variants, read back as pairs of names and of what the
  drawings mean;
- that no such meaning counts as false in a script;
- that the shared component chooses among them as the icon itself does.

Main statement: `variants_select`.

Does not own: what a drawing means.
-/

namespace IconForge.Output

open IconForge.Script.Reader
open IconForge.Template (Library)

/-- The names of an icon's variants with what their drawings mean. -/
def renderings (icon : Icon) : List (String × Expression) :=
  icon.entries.map fun entry => (entry.variant.name, rootMeaning entry.drawing)

variable {alphabet : Alphabet} {icon : Icon} {entry : Entry} {entries : List Entry}

/-! ### The list read back -/

theorem literal_name (variant : Variant) :
    Script.literal variant.name = "\"" ++ variant.name ++ "\"" := by
  cases variant <;> rfl

theorem reads_entryText (identifiers : HasIdentifiers alphabet (elementNames entry.drawing)) :
    Reads alphabet (entryText entry)
      (.list [.text entry.variant.name, rootMeaning entry.drawing]) := by
  have spaces : ∀ c ∈ entryIndent.toList, c = ' ' := by simp [entryIndent]
  have each : List.Forall₂ (Reads alphabet) _ _ :=
    .cons (reads_literal entry.variant.name) (.cons (reads_root spaces identifiers) .nil)
  have reads := reads_list "[" ", " "]" rfl rfl rfl rfl each
  rw [String.intercalate_cons_cons, String.intercalate_singleton, literal_name] at reads
  have opening : "[\"" = "[" ++ "\"" := rfl
  have between : "\", " = "\"" ++ ", " := rfl
  rw [entryText, opening, between]
  simp only [String.append_assoc] at reads ⊢
  exact reads

theorem entryLines_of_ne_nil (notEmpty : entries ≠ []) :
    entryLines entries = String.intercalate ",\n" (entries.map entryText) ++ "\n" := by
  induction entries with
  | nil => exact absurd rfl notEmpty
  | cons entry rest inductionHypothesis =>
    cases rest with
    | nil => rfl
    | cons next others =>
      have lines := inductionHypothesis (List.cons_ne_nil _ _)
      rw [List.map_cons] at lines
      rw [entryLines, lines, List.map_cons, List.map_cons, String.intercalate_cons_cons]
      · simp only [String.append_assoc]
      · exact List.cons_ne_nil _ _

theorem reads_entryLines
    (identifiers : ∀ entry ∈ entries, HasIdentifiers alphabet (elementNames entry.drawing)) :
    Reads alphabet ("[\n" ++ entryLines entries ++ "]")
      (.list (entries.map fun entry =>
        .list [.text entry.variant.name, rootMeaning entry.drawing])) := by
  have each : List.Forall₂ (Reads alphabet) (entries.map entryText)
      (entries.map fun entry => .list [.text entry.variant.name, rootMeaning entry.drawing]) := by
    rw [List.forall₂_map_left_iff, List.forall₂_map_right_iff, List.forall₂_same]
    exact fun entry member => reads_entryText (identifiers entry member)
  by_cases isEmpty : entries = []
  · subst isEmpty
    have reads := reads_list "[\n" ",\n" "]" rfl rfl rfl rfl each
    rw [List.map_nil, String.intercalate_nil] at reads
    exact reads
  · have reads := reads_list "[\n" ",\n" "\n]" rfl rfl rfl rfl each
    have closing : "\n]" = "\n" ++ "]" := rfl
    rw [entryLines_of_ne_nil isEmpty]
    rw [closing] at reads
    simp only [String.append_assoc] at reads ⊢
    exact reads

/-! ### Meanings that count as true -/

theorem isFalse_nodeMeaning (place : Option Nat) (node : Svg.Node) :
    ∀ expression ∈ nodeMeaning place node, expression.isFalse = false := by
  cases node with
  | text value =>
    unfold nodeMeaning
    split
    · exact nofun
    · next notEmpty =>
      intro expression isText
      cases isText
      exact Bool.eq_false_iff.mpr notEmpty
  | element name attributes children =>
    unfold nodeMeaning
    intro expression isElement
    cases isElement
    rfl

theorem isFalse_siblingsMeaning (place : Nat) (nodes : List Svg.Node) :
    ∀ expression ∈ siblingsMeaning place nodes, expression.isFalse = false := by
  induction nodes generalizing place with
  | nil => exact List.forall_mem_nil _
  | cons node rest inductionHypothesis =>
    rw [siblingsMeaning, List.forall_mem_append]
    refine ⟨fun expression member => ?_, inductionHypothesis (place + 1)⟩
    exact isFalse_nodeMeaning (some place) node expression (Option.mem_toList.mp member)

/-- What a drawing means, whose root is an `svg`, never counts as false. -/
theorem isFalse_rootMeaning {drawing : Svg.Node} (rooted : drawing.name? = some "svg") :
    (rootMeaning drawing).isFalse = false := by
  cases drawing with
  | text value => cases rooted
  | element name attributes children =>
    cases rooted
    have each := isFalse_siblingsMeaning 0 children
    change (groupMeaning (siblingsMeaning 0 children)).isFalse = false
    generalize siblingsMeaning 0 children = items at each
    unfold groupMeaning
    split
    · exact each _ (List.mem_singleton_self _)
    · rfl

/-! ### The same choice -/

theorem nodup_names
    (ordered : icon.entries.Pairwise fun one other => one.variant.rank < other.variant.rank) :
    ((renderings icon).map Prod.fst).Nodup := by
  unfold renderings
  rw [List.map_map, List.nodup_iff_pairwise_ne, List.pairwise_map]
  refine ordered.imp fun {one other} before same => ?_
  have isVariant := Variant.eq_of_name_eq same
  rw [isVariant] at before
  exact absurd before (Nat.lt_irrefl _)

/-- What stands under the name of a variant is what the icon has of it. -/
theorem get?_renderings (variant : Variant) :
    Keyed.get? variant.name (renderings icon) = (icon.get? variant).map rootMeaning := by
  unfold renderings Icon.get?
  induction icon.entries with
  | nil => rfl
  | cons entry rest inductionHypothesis =>
    rw [List.map_cons, Keyed.get?]
    by_cases isVariant : entry.variant = variant
    · rw [if_pos (congrArg Variant.name isVariant), List.find?_cons_of_pos (by simp [isVariant])]
      rfl
    · rw [if_neg fun same => isVariant (Variant.eq_of_name_eq same),
        List.find?_cons_of_neg (by simp [isVariant])]
      exact inductionHypothesis

theorem get?_renderings_of_unknown {text : String} (unknown : Variant.ofName? text = none) :
    Keyed.get? text (renderings icon) = none := by
  have noName (variant : Variant) : variant.name ≠ text := by
    have differs := List.find?_eq_none.mp unknown variant variant.mem_all
    rwa [beq_iff_eq] at differs
  unfold renderings
  induction icon.entries with
  | nil => rfl
  | cons entry rest inductionHypothesis =>
    rw [List.map_cons, Keyed.get?, if_neg (noName entry.variant)]
    exact inductionHypothesis

/-- What is requested, or else the fallback, is found by name as the icon itself
finds it by variant. -/
theorem choice_eq_resolve? (icon : Icon) (requested : Option String) :
    (Keyed.get? (requested.getD Variant.fallback.name) (renderings icon)).or
        (Keyed.get? Variant.fallback.name (renderings icon)) =
      (icon.resolve? requested).map rootMeaning := by
  rw [Icon.resolve?, Option.map_or, ← get?_renderings, ← get?_renderings]
  cases requested with
  | none => rfl
  | some text =>
    cases known : Variant.ofName? text with
    | none =>
      have isFallback : Variant.requested (some text) = Variant.fallback := by
        rw [Variant.requested, Option.bind_some, known, Option.getD_none]
      rw [isFallback, Option.getD_some, get?_renderings_of_unknown known, Option.none_or,
        Option.or_self]
    | some variant =>
      have isRequested : Variant.requested (some text) = variant := by
        rw [Variant.requested, Option.bind_some, known, Option.getD_some]
      have found := List.find?_some known
      have isName : variant.name = text := beq_iff_eq.mp found
      rw [isRequested, Option.getD_some, isName]

/-- The module of an icon's variants holds exactly the names of the variants with
what their drawings mean, and the shared component, whatever is requested of
it, shows what the icon itself selects. -/
theorem variants_select (alphabet : Alphabet) {icon : Icon}
    (named : Naming.isIconName icon.name = true)
    (ordered : icon.entries.Pairwise fun one other => one.variant.rank < other.variant.rank)
    (rooted : ∀ entry ∈ icon.entries, entry.drawing.name? = some "svg")
    (identifiers : ∀ entry ∈ icon.entries,
      HasIdentifiers alphabet (elementNames entry.drawing)) :
    ∃ source base,
      variants Library.embedded icon = .ok source ∧ iconBase Library.embedded = .ok base ∧
      MapModule.read? alphabet source =
        some ⟨Naming.camel icon.name ++ "Variants", renderings icon⟩ ∧
      mapOfPairs (renderings icon) = renderings icon ∧
      Rule.read? base.toList = some ⟨"regular", variantChoice⟩ ∧
      ∀ requested, Rule.select? ⟨"regular", variantChoice⟩ (renderings icon) requested =
        some (.ofOption ((icon.resolve? requested).map rootMeaning)) := by
  have distinct := nodup_names ordered
  have isBinding := Naming.isIdentifier_camel_append "Variants" named rfl
  have identifier := alphabet.isIdentifier_of_ascii isBinding
  have reads := reads_entryLines identifiers
  have pairs := pairs?_list (renderings icon)
  have noneFalse : ∀ pair ∈ renderings icon, pair.2.isFalse = false :=
    List.forall_mem_map.mpr fun entry member => isFalse_rootMeaning (rooted entry member)
  refine ⟨_, _, variants_embedded icon, iconBase_embedded, ?_, mapOfPairs_of_nodup distinct,
    read?_iconBaseText, fun requested => ?_⟩
  · rw [renderings, List.map_map] at pairs
    exact read?_mapModule identifier reads pairs
  · rw [select?_variantChoice distinct noneFalse]
    exact congrArg (some ∘ Found.ofOption) (choice_eq_resolve? icon requested)

/-- An icon with the drawings of two variants, one of them a mere text. -/
def lampIcon : Icon where
  name := "lamp-2"
  entries :=
    [⟨.regular, .element "svg" Svg.Attributes.empty [.text "\"]),"]⟩,
     ⟨.duotone, .element "svg" Svg.Attributes.empty
       [.element "path" (Svg.Attributes.ofList [("d", "M0 0"), ("fill", "red")]) []]⟩]

theorem variants_select_lamp :
    ∃ source base,
      variants Library.embedded lampIcon = .ok source ∧ iconBase Library.embedded = .ok base ∧
      MapModule.read? .unicode source =
        some ⟨"lamp2Variants",
          [("regular", .text "\"]),"),
           ("duotone",
            .create ["SVG", "Path"] (some [("key", .number 0), ("d", .text "M0 0")]) [])]⟩ ∧
      Rule.read? base.toList = some ⟨"regular", variantChoice⟩ ∧
      Rule.select? ⟨"regular", variantChoice⟩ (renderings lampIcon) (some "filled") =
        some (.expression (.text "\"]),")) := by
  have identifiers : ∀ entry ∈ lampIcon.entries,
      HasIdentifiers .unicode (elementNames entry.drawing) := by
    unfold HasIdentifiers
    decide +kernel
  have named : Naming.isIconName lampIcon.name = true := by decide
  obtain ⟨source, base, isSource, isBase, isRead, -, isRule, selects⟩ :=
    variants_select .unicode named (by decide) (by decide) identifiers
  exact ⟨source, base, isSource, isBase, isRead, isRule, selects (some "filled")⟩

end IconForge.Output
