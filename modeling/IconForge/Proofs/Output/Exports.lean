import IconForge.Proofs.Naming.Pascal
import IconForge.Proofs.Output.Texts
import IconForge.Proofs.Script.Statements

/-!
Contract: what the module exports that the embedded template of the index yields.

Owns:
- what this template says, and what it yields;
- the exports read back from it, one for each icon;
- when two icons are exported under one name.

Main statement: `index_exports`.

Does not own: the component identifiers of names.
-/

namespace IconForge.Output

open IconForge.Template
open IconForge.Script.Reader (Alphabet Export exports? exportLine exportOpening exportSource
  exports?_of_lines)

/-! ### What the template says -/

def indexSegments : List Segment :=
  [.text [], blockTag " for icon in icons ", .text exportOpening.toList,
   outputTag " icon.component ", .text (exportSource ++ "./icons/").toList,
   outputTag " icon.name ", .text "\";\n".toList,
   .tag ⟨.block, " endfor ".toList, false, true⟩, .text []]

/-- What stands in a pass over icons. -/
def exportParts : List Part :=
  [.text exportOpening, .output ⟨["icon", "component"], []⟩, .text (exportSource ++ "./icons/"),
   .output ⟨["icon", "name"], []⟩, .text "\";\n"]

def indexParts : List Part :=
  [.text "", .loop "icon" ⟨["icons"], []⟩ exportParts [], .text ""]

theorem segments?_index : segments? Embedded.index.toList = some indexSegments := by
  unfold Embedded.index indexSegments outputTag blockTag exportOpening exportSource
  simp only [toList_text, List.flatMap_cons, List.flatMap_nil, String.toList_append]
  repeat rw [String.toList_ofList]
  decide

theorem parse?_index : parse? Embedded.index = some indexParts := by
  have loop : (tokens? " for icon in icons ".toList).bind readStatement? =
      some (.loop "icon" ⟨["icons"], []⟩) := rfl
  have component : (tokens? " icon.component ".toList).bind wholeReference? =
      some ⟨["icon", "component"], []⟩ := rfl
  have name : (tokens? " icon.name ".toList).bind wholeReference? =
      some ⟨["icon", "name"], []⟩ := rfl
  have isEndLoop : (tokens? " endfor ".toList).bind readStatement? = some .endLoop := rfl
  -- Whether a tag trims the text beside it has been seen to when the text was cut.
  have endLoop (machine : Machine) :
      machine.step? (.tag ⟨.block, " endfor ".toList, false, true⟩) = machine.leaveLoop? :=
    step?_blockTag isEndLoop
  have noText (machine : Machine) : machine.step? (.text []) = some (machine.add (.text "")) := rfl
  refine parse?_of_segments segments?_index ?_
  unfold indexSegments
  simp only [List.foldlM_cons, step?_text, step?_outputTag component, step?_outputTag name,
    step?_blockTag loop, endLoop, noText, Machine.state?, Option.bind_eq_bind, Option.bind_some]
  rfl

/-! ### What the template yields -/

/-- What is exported of an icon: its component, under its component identifier. -/
def exported (icon : Icon) : Export where
  name := Naming.pascal icon.name
  source := "./icons/" ++ icon.name

theorem renderParts_export (scope : Scope) (icon : Icon) (index count : Nat) :
    renderParts
        (("icon", textRecord [("name", icon.name), ("component", Naming.pascal icon.name)]) ::
          ("loop", passRecord index count) :: scope) exportParts =
      .ok (exportLine (exported icon) ++ "\n") := by
  generalize isInner :
    ("icon", textRecord [("name", icon.name), ("component", Naming.pascal icon.name)]) ::
      ("loop", passRecord index count) :: scope = inner
  have component : Reference.read ⟨["icon", "component"], []⟩ inner =
      .ok (.text (Naming.pascal icon.name)) := by
    subst isInner
    rfl
  have name : Reference.read ⟨["icon", "name"], []⟩ inner = .ok (.text icon.name) := by
    subst isInner
    rfl
  have lineEnd : "\";\n" = "\";" ++ "\n" := rfl
  unfold exportParts exportLine exported
  simp only [renderParts, Part.render, component, name, bind, Except.bind, Value.written,
    String.append_empty, lineEnd, String.append_assoc]

theorem index_embedded (collection : Collection) :
    index Library.embedded collection =
      .ok (Embedded.text (collection.map fun icon => exportLine (exported icon))) := by
  refine renderTemplate_embedded (by simp [Embedded.all]) parse?_index ?_
  have icons : Reference.read ⟨["icons"], []⟩ (indexScope collection) =
      .ok (.list (collection.map fun icon =>
        textRecord [("name", icon.name), ("component", Naming.pascal icon.name)])) := rfl
  have loop := render_loop icons (renderParts_export (indexScope collection))
  unfold indexParts
  simp only [renderParts, loop]
  simp only [Part.render, bind, Except.bind, String.append_empty, String.empty_append,
    Embedded.text, List.map_map, Function.comp_def]

/-! ### Exports read back -/

variable {icon : Icon} {collection : Collection}

theorem literalBody_source (named : Naming.isIconName icon.name = true) :
    Script.literalBody (exported icon).source.toList = (exported icon).source.toList :=
  Naming.literalBody_append_name named rfl

theorem not_mem_exportLine (named : Naming.isIconName icon.name = true) :
    '\n' ∉ (exportLine (exported icon)).toList := by
  unfold exportLine exportOpening exportSource exported
  simp only [String.toList_append, List.mem_append, Naming.lineEnd_notMem_name named,
    Naming.lineEnd_notMem_pascal named]
  decide

theorem exports?_index (alphabet : Alphabet)
    (named : ∀ icon ∈ collection, Naming.isIconName icon.name = true) :
    exports? alphabet (Embedded.text (collection.map fun icon => exportLine (exported icon))) =
      some (collection.map exported) := by
  apply exports?_of_lines
  · rw [toList_text, List.map_map, List.flatMap_map, List.flatMap_map]
    rfl
  · exact List.forall_mem_map.mpr fun icon member => not_mem_exportLine (named icon member)
  · exact List.forall_mem_map.mpr fun icon member =>
      alphabet.isIdentifier_of_ascii (Naming.isIdentifier_pascal (named icon member))
  · exact List.forall_mem_map.mpr fun icon member => literalBody_source (named icon member)

/-- The module that the embedded template of the index yields exports the component of
each icon under its component identifier. No two of these are the same exactly if the
icons' names stay different without the hyphens in front of digits. -/
theorem index_exports (alphabet : Alphabet)
    (named : ∀ icon ∈ collection, Naming.isIconName icon.name = true) :
    ∃ source, index Library.embedded collection = .ok source ∧
      exports? alphabet source = some (collection.map exported) ∧
      (((collection.map exported).map Export.name).Nodup ↔
        (collection.map fun icon => Naming.dropDigitHyphens icon.name.toList).Nodup) := by
  refine ⟨_, index_embedded collection, exports?_index alphabet named, ?_⟩
  rw [List.map_map, List.Nodup, List.Nodup, List.pairwise_map, List.pairwise_map]
  apply List.Pairwise.iff_of_mem
  intro icon other member alsoMember
  exact not_congr (Naming.pascal_eq_iff (named icon member) (named other alsoMember))

/-- Icons whose names are the same but for a hyphen in front of a digit. -/
def clashingIcons : Collection := [⟨"a-1", []⟩, ⟨"a1", []⟩]

theorem index_exports_clash :
    (clashingIcons.map Icon.name).Nodup ∧
      (∀ icon ∈ clashingIcons, Naming.isIconName icon.name = true) ∧
      ∃ source exports, index Library.embedded clashingIcons = .ok source ∧
        exports? .unicode source = some exports ∧
        exports = [⟨"A1", "./icons/a-1"⟩, ⟨"A1", "./icons/a1"⟩] ∧
        ¬(exports.map Export.name).Nodup := by
  have named : ∀ icon ∈ clashingIcons, Naming.isIconName icon.name = true := by decide
  refine ⟨by decide, named, _, _, index_embedded clashingIcons, exports?_index .unicode named,
    rfl, ?_⟩
  decide

/-- Icons whose names differ in more than hyphens in front of digits. -/
def distinctIcons : Collection := [⟨"a-b", []⟩, ⟨"ab", []⟩, ⟨"a-1", []⟩]

theorem index_exports_distinct :
    (∀ icon ∈ distinctIcons, Naming.isIconName icon.name = true) ∧
      ∃ source, index Library.embedded distinctIcons = .ok source ∧
        exports? .unicode source =
          some [⟨"AB", "./icons/a-b"⟩, ⟨"Ab", "./icons/ab"⟩, ⟨"A1", "./icons/a-1"⟩] ∧
        ((distinctIcons.map exported).map Export.name).Nodup := by
  have named : ∀ icon ∈ distinctIcons, Naming.isIconName icon.name = true := by decide
  obtain ⟨source, isSource, isRead, distinct⟩ := index_exports .unicode named
  have stayDifferent : (distinctIcons.map fun icon =>
      Naming.dropDigitHyphens icon.name.toList).Nodup := by
    decide
  exact ⟨named, source, isSource, isRead, distinct.mpr stayDifferent⟩

end IconForge.Output
