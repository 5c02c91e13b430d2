import IconForge.Proofs.Naming.Camel
import IconForge.Proofs.Output.Component
import IconForge.Proofs.Output.Exports
import IconForge.Proofs.Script.Imports

/-!
Contract: what the files of the embedded templates refer to an icon by.

Owns:
- the imports of a component's file, with the module of the icon's variants among them;
- the line of an icon in the index, among the lines of any other icons;
- that the identifiers of an icon and the modules referred to keep its name.

Main statement: `references_embedded`.

Does not own: the names that these files bind.
-/

namespace IconForge.Output

open IconForge.Template
open IconForge.Script.Reader (Alphabet BindingForm Export Import codeLines exportLine imports lines
  read?_eq_none read?_statement)

variable {icon : Icon}

/-! ### Imports of a component -/

/-- What the file of a component imports. -/
def componentImported (icon : Icon) : List Import :=
  [⟨"React", "react"⟩, ⟨"variants", "../variants/" ++ icon.name⟩, ⟨"Icon", "../lib/types"⟩,
   ⟨"IconBase", "../lib/icon-base"⟩]

theorem imports_importLines (alphabet : Alphabet) (named : Naming.isIconName icon.name = true) :
    ((importLines icon).map String.toList).filterMap (Import.read? alphabet) =
      componentImported icon := by
  have identifier {name : String} (isName : Script.isIdentifier name = true) :
      alphabet.isIdentifier name = true := alphabet.isIdentifier_of_ascii isName
  have all : BindingForm.imports = [] ++ .importAll :: _ := rfl
  have type : BindingForm.imports = [.importAll] ++ .importType :: _ := rfl
  have default : BindingForm.imports = [.importAll, .importType] ++ .importDefault :: _ := rfl
  have react : Import.read? alphabet
      (BindingForm.importAll.statement "React" "react\"").toList = some ⟨"React", "react"⟩ := by
    change Import.read? alphabet (BindingForm.importAll.statement _ ("react" ++ "\"")).toList = _
    exact read?_statement all nofun (identifier rfl) ⟨_, _, rfl, rfl⟩ rfl
  have variants : Import.read? alphabet (BindingForm.importDefault.statement "variants"
      ("../variants/" ++ icon.name ++ "\"")).toList =
        some ⟨"variants", "../variants/" ++ icon.name⟩ :=
    read?_statement default
      (Script.Reader.dropPrefix?_importDefault rfl (by decide) (by decide)) (identifier rfl)
      ⟨_, _, rfl, rfl⟩ (Naming.literalBody_append_name named rfl)
  have types : Import.read? alphabet
      (BindingForm.importType.statement "Icon" "../lib/types\"").toList =
        some ⟨"Icon", "../lib/types"⟩ := by
    change Import.read? alphabet
      (BindingForm.importType.statement _ ("../lib/types" ++ "\"")).toList = _
    exact read?_statement type Script.Reader.dropPrefix?_importType (identifier rfl)
      ⟨_, _, rfl, rfl⟩ rfl
  have base : Import.read? alphabet
      (BindingForm.importDefault.statement "IconBase" "../lib/icon-base\"").toList =
        some ⟨"IconBase", "../lib/icon-base"⟩ := by
    change Import.read? alphabet
      (BindingForm.importDefault.statement _ ("../lib/icon-base" ++ "\"")).toList = _
    exact read?_statement default
      (Script.Reader.dropPrefix?_importDefault rfl (by decide) (by decide)) (identifier rfl)
      ⟨_, _, rfl, rfl⟩ rfl
  have blank : Import.read? alphabet "".toList = none := read?_eq_none nofun
  unfold importLines componentImported
  simp only [List.map_cons, List.map_nil, List.filterMap_cons, List.filterMap_nil, react,
    variants, types, base, blank]

theorem head?_declarationLines (named : Naming.isIconName icon.name = true) :
    ∀ line ∈ (declarationLines (Naming.pascal icon.name)).map String.toList,
      line.head? ≠ some 'i' := by
  have displayName := head?_pascal_ne named (show ('i').isUpper = false from rfl)
    (".displayName = \"".toList ++ ((Naming.pascal icon.name).toList ++ "\"".toList))
  unfold declarationLines BindingForm.statement BindingForm.constant
  simp only [List.forall_mem_map, List.forall_mem_cons, String.toList_append, List.append_assoc]
  refine ⟨nofun, ?_, ?_, nofun, nofun, displayName, nofun, ?_, nofun⟩
  · rw [String.toList_ofList]
    nofun
  · rw [String.toList_ofList]
    nofun
  · rw [String.toList_ofList]
    nofun

theorem imports_component (alphabet : Alphabet) (named : Naming.isIconName icon.name = true) :
    imports alphabet (Embedded.text (componentLines icon)) = componentImported icon := by
  have declarations : ((declarationLines (Naming.pascal icon.name)).map String.toList).filterMap
      (Import.read? alphabet) = [] :=
    List.filterMap_eq_nil_iff.mpr fun line member =>
      read?_eq_none (head?_declarationLines named line member)
  have nothing : Import.read? alphabet [] = none := read?_eq_none nofun
  unfold imports
  rw [codeLines_component named, List.filterMap_append, List.filterMap_append,
    imports_importLines alphabet named, declarations, List.filterMap_cons, nothing]
  exact List.append_nil _

/-! ### The line of an icon in the index -/

theorem text_append (front back : List String) :
    Embedded.text (front ++ back) = Embedded.text front ++ Embedded.text back := by
  apply String.toList_inj.mp
  rw [String.toList_append, toList_text, toList_text, toList_text, List.flatMap_append]

theorem text_cons (line : String) (rest : List String) :
    Embedded.text (line :: rest) = line ++ "\n" ++ Embedded.text rest := by
  unfold Embedded.text
  rw [List.map_cons, String.join_cons]

theorem index_append (icon : Icon) (front back : Collection) :
    ∃ before behind, index Library.embedded front = .ok before ∧
      index Library.embedded back = .ok behind ∧
      index Library.embedded (front ++ icon :: back) =
        .ok (before ++ (exportLine (exported icon) ++ "\n" ++ behind)) := by
  refine ⟨_, _, index_embedded front, index_embedded back, ?_⟩
  rw [index_embedded, List.map_append, List.map_cons, text_append, text_cons]

theorem read?_exported (alphabet : Alphabet) (named : Naming.isIconName icon.name = true) :
    Export.read? alphabet (exportLine (exported icon)).toList = some (exported icon) :=
  Script.Reader.read?_exportLine
    (alphabet.isIdentifier_of_ascii (Naming.isIdentifier_pascal named))
    (literalBody_source named)

/-- The identifiers of an icon are its name without the hyphens, in other forms of the
letters. In the files of the embedded templates, the component's file imports the variants
of that name, and the index has a line of its own that exports that name, whatever other
icons there are. -/
theorem references_embedded (alphabet : Alphabet) (named : Naming.isIconName icon.name = true) :
    Naming.IsForm Char.isUpper icon.name (Naming.pascal icon.name) ∧
      Naming.IsForm Char.isLower icon.name (Naming.camel icon.name) ∧
      (∃ source, component Library.embedded icon = .ok source ∧
        imports alphabet source =
          [⟨"React", "react"⟩, ⟨"variants", "../variants/" ++ icon.name⟩,
           ⟨"Icon", "../lib/types"⟩, ⟨"IconBase", "../lib/icon-base"⟩]) ∧
      ∀ front back : Collection, ∃ before line behind,
        index Library.embedded front = .ok before ∧
        index Library.embedded back = .ok behind ∧
        index Library.embedded (front ++ icon :: back) =
          .ok (before ++ (line ++ "\n" ++ behind)) ∧
        '\n' ∉ line.toList ∧
        Export.read? alphabet line.toList =
          some ⟨Naming.pascal icon.name, "./icons/" ++ icon.name⟩ := by
  refine ⟨Naming.isForm_pascal named, Naming.isForm_camel named,
    ⟨_, component_embedded icon, imports_component alphabet named⟩, fun front back => ?_⟩
  obtain ⟨before, behind, isBefore, isBehind, isIndex⟩ := index_append icon front back
  exact ⟨before, exportLine (exported icon), behind, isBefore, isBehind, isIndex,
    not_mem_exportLine named, read?_exported alphabet named⟩

theorem references_embedded_lamp :
    Naming.isIconName "lamp-2-off" = true ∧
      Naming.IsForm Char.isUpper "lamp-2-off" "Lamp2Off" ∧
      Naming.IsForm Char.isLower "lamp-2-off" "lamp2Off" ∧
      ∃ source, component Library.embedded ⟨"lamp-2-off", []⟩ = .ok source ∧
        imports .unicode source =
          [⟨"React", "react"⟩, ⟨"variants", "../variants/lamp-2-off"⟩,
           ⟨"Icon", "../lib/types"⟩, ⟨"IconBase", "../lib/icon-base"⟩] := by
  have named : Naming.isIconName "lamp-2-off" = true := by decide
  have pascal : Naming.pascal "lamp-2-off" = "Lamp2Off" := by decide
  have camel : Naming.camel "lamp-2-off" = "lamp2Off" := by decide
  obtain ⟨isPascal, isCamel, ⟨source, isSource, isRead⟩, -⟩ := references_embedded .unicode
    (show Naming.isIconName (Icon.mk "lamp-2-off" []).name = true from named)
  rw [pascal] at isPascal
  rw [camel] at isCamel
  exact ⟨named, isPascal, isCamel, source, isSource, isRead⟩

end IconForge.Output
