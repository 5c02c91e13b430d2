import IconForge.Proofs.Output.Rendering
import IconForge.Proofs.Script.Choice

/-!
Contract: the texts of the files that the embedded templates of the variants and
of the shared component yield.

Owns:
- what these two templates say;
- the module of an icon's variants as that of a map, with a list of pairs that
  is laid out in lines;
- the text of the shared component, and the rule that is read from it.

Main statements: `variants_embedded`, `iconBase_embedded`, `read?_iconBaseText`.

Does not own: how expressions are laid out.
-/

namespace IconForge.Template

/-! ### Templates by their segments -/

def outputTag (inside : String) : Segment :=
  .tag ⟨.output, inside.toList, false, false⟩

def blockTag (inside : String) : Segment :=
  .tag ⟨.block, inside.toList, false, false⟩

variable {machine : Machine} {inside text : String} {segments : List Segment} {parts : List Part}

theorem step?_text (machine : Machine) (value : String) :
    machine.step? (.text value.toList) = some (machine.add (.text value)) := by
  rw [Machine.step?, String.ofList_toList]

theorem step?_outputTag {reference : Reference}
    (isInside : (tokens? inside.toList).bind wholeReference? = some reference) :
    machine.step? (outputTag inside) = some (machine.add (.output reference)) := by
  obtain ⟨tokens, isTokens, isReference⟩ := Option.bind_eq_some_iff.mp isInside
  simp only [Machine.step?, outputTag, isTokens, isReference, Option.bind_eq_bind,
    Option.bind_some]

theorem step?_blockTag {statement : Statement}
    (isInside : (tokens? inside.toList).bind readStatement? = some statement) :
    machine.step? (blockTag inside) = machine.state? statement := by
  obtain ⟨tokens, isTokens, isStatement⟩ := Option.bind_eq_some_iff.mp isInside
  simp only [Machine.step?, blockTag, isTokens, isStatement, Option.bind_eq_bind,
    Option.bind_some]

theorem parse?_of_segments (isCut : segments? text.toList = some segments)
    (run : segments.foldlM Machine.step? Machine.start = some ⟨parts, []⟩) :
    parse? text = some parts := by
  simp only [parse?, isCut, run, Option.bind_eq_bind, Option.bind_some, List.isEmpty_nil, if_true]

/-! ### Loops -/

/-- A loop whose passes say nothing about their place in it yields what the passes yield,
one after another. -/
theorem render_loop {α : Type} {scope : Scope} {name : String} {items : Reference}
    {body : List Part} {values : List α} {record : α → Value} {passText : α → String}
    (found : items.read scope = .ok (.list (values.map record)))
    (each : ∀ value index count,
      renderParts ((name, record value) :: ("loop", passRecord index count) :: scope) body =
        .ok (passText value)) :
    Part.render scope (.loop name items body []) = .ok (String.join (values.map passText)) := by
  have passes (count index : Nat) (values : List α) :
      (passScopes name scope count index (values.map record)).mapM (renderParts · body) =
        .ok (values.map passText) := by
    induction values generalizing index with
    | nil => rfl
    | cons value rest inductionHypothesis =>
      rw [List.map_cons, passScopes, List.mapM_cons, each, inductionHypothesis]
      rfl
  rw [Part.render, found]
  cases values with
  | nil => rfl
  | cons value rest =>
    have rendered := passes (value :: rest).length 0 (value :: rest)
    simp only [List.map_cons, List.length_cons] at rendered
    simp only [bind, Except.bind, Value.items?, List.map_cons, List.length_cons, List.length_map,
      rendered]

end IconForge.Template

namespace IconForge.Output

open IconForge.Template
open IconForge.Script.Reader (Rule mapPreamble mapOpening mapClosing mapModule variantChoice)

/-! ### What the templates say -/

def variantsSegments : List Segment :=
  [.text mapPreamble.toList, outputTag " camel ",
   .text ("Variants" ++ mapOpening ++ "[\n").toList, blockTag " for entry in entries ",
   .text "[\"".toList, outputTag " entry.variant ", .text "\", ".toList,
   outputTag " entry.code | safe ", .text "]".toList, blockTag " if not loop.last ",
   .text ",".toList, blockTag " endif ", .text "\n".toList, blockTag " endfor ",
   .text "])\n\nexport default ".toList, outputTag " camel ", .text "Variants\n".toList]

/-- What stands in a pass over an icon's entries. -/
def entryParts : List Part :=
  [.text "[\"", .output ⟨["entry", "variant"], []⟩, .text "\", ",
   .output ⟨["entry", "code"], ["safe"]⟩, .text "]",
   .branch (.not (.value ⟨["loop", "last"], []⟩)) [.text ","] [], .text "\n"]

def variantsParts : List Part :=
  [.text mapPreamble, .output ⟨["camel"], []⟩, .text ("Variants" ++ mapOpening ++ "[\n"),
   .loop "entry" ⟨["entries"], []⟩ entryParts [], .text "])\n\nexport default ",
   .output ⟨["camel"], []⟩, .text "Variants\n"]

theorem segments?_variants : segments? Embedded.variants.toList = some variantsSegments := by
  unfold Embedded.variants variantsSegments mapPreamble mapOpening outputTag blockTag
  simp only [toList_text, List.flatMap_cons, List.flatMap_nil, String.toList_append]
  repeat rw [String.toList_ofList]
  decide

theorem parse?_variants : parse? Embedded.variants = some variantsParts := by
  have camel : (tokens? " camel ".toList).bind wholeReference? = some ⟨["camel"], []⟩ := rfl
  have loop : (tokens? " for entry in entries ".toList).bind readStatement? =
      some (.loop "entry" ⟨["entries"], []⟩) := rfl
  have variant : (tokens? " entry.variant ".toList).bind wholeReference? =
      some ⟨["entry", "variant"], []⟩ := rfl
  have code : (tokens? " entry.code | safe ".toList).bind wholeReference? =
      some ⟨["entry", "code"], ["safe"]⟩ := rfl
  have branch : (tokens? " if not loop.last ".toList).bind readStatement? =
      some (.branch (.not (.value ⟨["loop", "last"], []⟩))) := rfl
  have endBranch : (tokens? " endif ".toList).bind readStatement? = some .endBranch := rfl
  have endLoop : (tokens? " endfor ".toList).bind readStatement? = some .endLoop := rfl
  refine parse?_of_segments segments?_variants ?_
  unfold variantsSegments
  simp only [List.foldlM_cons, step?_text, step?_outputTag camel, step?_blockTag loop,
    step?_outputTag variant, step?_outputTag code, step?_blockTag branch, step?_blockTag endBranch,
    step?_blockTag endLoop, Machine.state?, Option.bind_eq_bind, Option.bind_some]
  rfl

/-- The shared component up to the name of the fallback. -/
def iconBaseHead : String :=
  Embedded.text
    ["import \x7b createElement, forwardRef \x7d from \"react\"",
     "import type \x7b IconVariant, ZappiconProps \x7d from \"./types\"",
     "import Svg from \"react-native-svg\"",
     "",
     "interface IconBaseProps extends ZappiconProps \x7b",
     "  variants: Map<IconVariant, React.ReactNode>",
     "\x7d",
     ""] ++
    "const DEFAULT_VARIANT: IconVariant = \""

/-- The shared component from the name of the fallback to its width. -/
def iconBaseBody : String :=
  Embedded.text
    ["\"",
     "",
     "const IconBase = forwardRef<React.ComponentRef<typeof Svg>, IconBaseProps>(",
     "  (props, ref) => \x7b",
     "    const \x7b color, size, variant, variants, children, ...rest \x7d = props",
     "",
     "    const selectedVariant =",
     "      children ||",
     "      variants.get(variant ?? DEFAULT_VARIANT) ||",
     "      variants.get(DEFAULT_VARIANT)",
     "",
     "    return createElement(",
     "      Svg,",
     "      \x7b",
     "        ref,"] ++
    "        width: size ?? "

/-- The shared component behind its view box. -/
def iconBaseTail : String :=
  Embedded.text
    ["\",", "        ...rest,", "      \x7d,", "      selectedVariant", "    )", "  \x7d", ")", "",
     "IconBase.displayName = \"IconBase\"", "", "export default IconBase"]

def iconBaseSegments : List Segment :=
  [.text iconBaseHead.toList, outputTag " default_variant ", .text iconBaseBody.toList,
   outputTag " default_size ", .text ",\n        height: size ?? ".toList,
   outputTag " default_size ", .text ",\n        fill: color ?? \"".toList,
   outputTag " default_color ", .text "\",\n        viewBox: \"".toList, outputTag " view_box ",
   .text iconBaseTail.toList]

def iconBaseParts : List Part :=
  [.text iconBaseHead, .output ⟨["default_variant"], []⟩, .text iconBaseBody,
   .output ⟨["default_size"], []⟩, .text ",\n        height: size ?? ",
   .output ⟨["default_size"], []⟩, .text ",\n        fill: color ?? \"",
   .output ⟨["default_color"], []⟩, .text "\",\n        viewBox: \"", .output ⟨["view_box"], []⟩,
   .text iconBaseTail]

theorem segments?_iconBase : segments? Embedded.iconBase.toList = some iconBaseSegments := by
  unfold Embedded.iconBase iconBaseSegments iconBaseHead iconBaseBody iconBaseTail outputTag
  simp only [toList_text, List.flatMap_cons, List.flatMap_nil, String.toList_append]
  repeat rw [String.toList_ofList]
  decide +kernel

theorem parse?_iconBase : parse? Embedded.iconBase = some iconBaseParts := by
  have variant : (tokens? " default_variant ".toList).bind wholeReference? =
      some ⟨["default_variant"], []⟩ := rfl
  have size : (tokens? " default_size ".toList).bind wholeReference? =
      some ⟨["default_size"], []⟩ := rfl
  have color : (tokens? " default_color ".toList).bind wholeReference? =
      some ⟨["default_color"], []⟩ := rfl
  have viewBox : (tokens? " view_box ".toList).bind wholeReference? = some ⟨["view_box"], []⟩ := rfl
  refine parse?_of_segments segments?_iconBase ?_
  unfold iconBaseSegments
  simp only [List.foldlM_cons, step?_text, step?_outputTag variant, step?_outputTag size,
    step?_outputTag color, step?_outputTag viewBox, Option.bind_eq_bind, Option.bind_some]
  rfl

/-! ### What the templates yield -/

def iconBaseText : String :=
  iconBaseHead ++ ("regular" ++ (iconBaseBody ++ ("24" ++ (",\n        height: size ?? " ++ ("24" ++
    (",\n        fill: color ?? \"" ++ ("currentColor" ++ ("\",\n        viewBox: \"" ++
      ("0 0 24 24" ++ iconBaseTail)))))))))

theorem iconBase_embedded : iconBase Library.embedded = .ok iconBaseText := by
  have variant : Reference.read ⟨["default_variant"], []⟩ sharedScope = .ok (.text "regular") := rfl
  have size : Reference.read ⟨["default_size"], []⟩ sharedScope = .ok (.number 24) := rfl
  have color : Reference.read ⟨["default_color"], []⟩ sharedScope = .ok (.text "currentColor") :=
    rfl
  have viewBox : Reference.read ⟨["view_box"], []⟩ sharedScope = .ok (.text "0 0 24 24") := rfl
  refine renderTemplate_embedded (by simp [Embedded.all]) parse?_iconBase ?_
  unfold iconBaseParts
  simp only [renderParts, Part.render, variant, size, color, viewBox, bind, Except.bind,
    Value.written, String.append_empty]
  rfl

theorem read?_iconBaseText :
    Rule.read? iconBaseText.toList = some ⟨Variant.fallback.name, variantChoice⟩ := by
  unfold iconBaseText iconBaseHead iconBaseBody iconBaseTail
  simp only [toList_text, List.flatMap_cons, List.flatMap_nil, String.toList_append]
  repeat rw [String.toList_ofList]
  decide +kernel

/-- The pair of a variant's name and its expression, as a list. -/
def entryText (entry : Entry) : String :=
  "[\"" ++ entry.variant.name ++ "\", " ++ Script.rootExpression entryIndent entry.drawing ++ "]"

/-- The pairs in lines, with commas between them. -/
def entryLines : List Entry → String
  | [] => ""
  | [entry] => entryText entry ++ "\n"
  | entry :: rest => entryText entry ++ ",\n" ++ entryLines rest

/-- What a template is told about an entry. -/
def entryRecord (entry : Entry) : Value :=
  textRecord
    [("variant", entry.variant.name), ("code", Script.rootExpression entryIndent entry.drawing)]

variable {scope : Scope}

theorem renderParts_entry (entry : Entry) (index count : Nat) :
    renderParts (("entry", entryRecord entry) :: ("loop", passRecord index count) :: scope)
        entryParts =
      .ok (entryText entry ++ if index + 1 = count then "\n" else ",\n") := by
  generalize isInner :
    ("entry", entryRecord entry) :: ("loop", passRecord index count) :: scope = inner
  have variant :
      Reference.read ⟨["entry", "variant"], []⟩ inner = .ok (.text entry.variant.name) := by
    subst isInner
    rfl
  have code : Reference.read ⟨["entry", "code"], ["safe"]⟩ inner =
      .ok (.text (Script.rootExpression entryIndent entry.drawing)) := by
    subst isInner
    rfl
  have last : Reference.read ⟨["loop", "last"], []⟩ inner = .ok (.flag (index + 1 == count)) := by
    subst isInner
    rfl
  unfold entryParts
  simp only [renderParts, Part.render, variant, code, Condition.holds, last, bind, Except.bind,
    Value.written, Value.isTrue, String.append_empty]
  by_cases isLast : index + 1 = count
  · simp [isLast, entryText, String.append_assoc]
  · simp [isLast, entryText, String.append_assoc]

/-- The passes over entries, up to the last one of all, yield their lines. -/
theorem join_passes (scope : Scope) (entries : List Entry) (index : Nat) :
    ∃ passes,
      (passScopes "entry" scope (index + entries.length) index (entries.map entryRecord)).mapM
          (renderParts · entryParts) =
        .ok passes ∧
      String.join passes = entryLines entries := by
  induction entries generalizing index with
  | nil => exact ⟨[], rfl, rfl⟩
  | cons entry rest inductionHypothesis =>
    obtain ⟨passes, areRendered, areLines⟩ := inductionHypothesis (index + 1)
    have count : index + 1 + rest.length = index + (entry :: rest).length := by
      rw [List.length_cons]
      omega
    rw [count] at areRendered
    rw [List.map_cons, passScopes, List.mapM_cons, renderParts_entry, areRendered]
    refine ⟨_, rfl, ?_⟩
    rw [String.join_cons, areLines]
    cases rest with
    | nil => simp [entryLines]
    | cons next others =>
      have notLast : index + 1 ≠ index + (entry :: next :: others).length := by
        simp only [List.length_cons]
        omega
      rw [if_neg notLast]
      rfl

theorem render_entries (icon : Icon) :
    Part.render (variantsScope icon) (.loop "entry" ⟨["entries"], []⟩ entryParts []) =
      .ok (entryLines icon.entries) := by
  have entries : Reference.read ⟨["entries"], []⟩ (variantsScope icon) =
      .ok (.list (icon.entries.map entryRecord)) := rfl
  obtain ⟨passes, areRendered, areLines⟩ := join_passes (variantsScope icon) icon.entries 0
  rw [Nat.zero_add] at areRendered
  rw [Part.render, entries]
  cases isEntries : icon.entries with
  | nil => rfl
  | cons entry rest =>
    rw [isEntries] at areRendered areLines
    simp only [List.map_cons, List.length_cons] at areRendered
    simp only [bind, Except.bind, Value.items?, List.map_cons, List.length_cons, List.length_map,
      areRendered, areLines]

theorem renderParts_variants (icon : Icon) :
    renderParts (variantsScope icon) variantsParts =
      .ok (mapModule (Naming.camel icon.name ++ "Variants")
        ("[\n" ++ entryLines icon.entries ++ "]")) := by
  have camel : Reference.read ⟨["camel"], []⟩ (variantsScope icon) =
      .ok (.text (Naming.camel icon.name)) := rfl
  have listEnd : "])\n\nexport default " = "]" ++ ")\n\nexport default " := rfl
  have bindingEnd : "Variants\n" = "Variants" ++ "\n" := rfl
  unfold variantsParts mapModule mapClosing
  simp only [renderParts, render_entries]
  simp only [Part.render, camel, bind, Except.bind, Value.written, String.append_empty]
  rw [listEnd, bindingEnd]
  -- The two texts differ in brackets alone; what they are made of is not to be computed.
  generalize entryLines icon.entries = lines
  generalize Naming.camel icon.name = binding
  simp only [String.append_assoc]

/-- The module of an icon's variants is that of a map, given by its pairs in
lines. -/
theorem variants_embedded (icon : Icon) :
    variants Library.embedded icon =
      .ok (mapModule (Naming.camel icon.name ++ "Variants")
        ("[\n" ++ entryLines icon.entries ++ "]")) :=
  renderTemplate_embedded (by simp [Embedded.all]) parse?_variants (renderParts_variants icon)

end IconForge.Output
