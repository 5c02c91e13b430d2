import IconForge.Proofs.Output.Emission
import IconForge.Proofs.Template.Library
import IconForge.Proofs.Template.Shape

/-!
Contract: the templates that come with the program, filled with any icons.

Owns:
- the shapes of what templates are told;
- that the templates are well formed and refer to nothing else;
- that the texts of all files of a collection come about.

Main statement: `exists_text_of_embedded`.

Does not own: what the texts say.
-/

namespace IconForge.Output

open IconForge.Template

/-! ### Templates in characters -/

theorem toList_text (lines : List String) :
    (Embedded.text lines).toList = lines.flatMap fun line => line.toList ++ ['\n'] := by
  simp [Embedded.text, String.toList_join, List.flatMap_map]

/-! ### Shapes -/

def componentShape : ScopeShape :=
  [("name", .any), ("component", .any),
   ("previews", .list (.record [("variant", .any), ("preview", .any)]))]

def variantsShape : ScopeShape :=
  [("name", .any), ("camel", .any),
   ("entries", .list (.record [("variant", .any), ("code", .any)]))]

def indexShape : ScopeShape :=
  [("icons", .list (.record [("name", .any), ("component", .any)]))]

def sharedShape : ScopeShape :=
  [("variants", .list .any), ("default_variant", .any), ("default_size", .any),
   ("default_color", .any), ("view_box", .any)]

/-- What each template refers to is what it is told, and each is well formed. -/
theorem embedded_fit :
    ((parse? Embedded.component).any (partsFit componentShape) &&
      (parse? Embedded.variants).any (partsFit variantsShape) &&
      (parse? Embedded.index).any (partsFit indexShape) &&
      (parse? Embedded.types).any (partsFit sharedShape) &&
      (parse? Embedded.iconBase).any (partsFit sharedShape)) = true := by
  unfold parse? Embedded.component Embedded.variants Embedded.index Embedded.types
    Embedded.iconBase
  simp only [toList_text, List.flatMap_cons, List.flatMap_nil, String.toList_append]
  -- Literals become lists of characters here, which are much cheaper to compute with.
  repeat rw [String.toList_ofList]
  decide +kernel

/-- Each of the templates is a plain one. -/
theorem exists_parse?_embedded {template : String × String} (isTemplate : template ∈ Embedded.all) :
    ∃ parts, parse? template.2 = some parts := by
  have fit := embedded_fit
  simp only [Bool.and_eq_true] at fit
  obtain ⟨⟨⟨⟨componentFits, variantsFits⟩, indexFits⟩, typesFits⟩, iconBaseFits⟩ := fit
  have isParsed {text : String} {shapes : ScopeShape}
      (fits : (parse? text).any (partsFit shapes) = true) : ∃ parts, parse? text = some parts := by
    cases parsed : parse? text with
    | none =>
      rw [parsed] at fits
      cases fits
    | some parts => exact ⟨parts, rfl⟩
  simp only [Embedded.all, List.mem_cons, List.not_mem_nil, or_false] at isTemplate
  rcases isTemplate with rfl | rfl | rfl | rfl | rfl
  · exact isParsed componentFits
  · exact isParsed indexFits
  · exact isParsed variantsFits
  · exact isParsed iconBaseFits
  · exact isParsed typesFits

theorem accept_missing (own : Texts) : Plain.accept (missing own) = .ok () :=
  Plain.accept_eq_ok_iff.mpr fun _ isMissing =>
    Option.isSome_iff_exists.mpr (exists_parse?_embedded (List.mem_filter.mp isMissing).1)

/-! ### Texts -/

variable {name text : String} {scope : Scope} {shapes : ScopeShape}

theorem renderTemplate_embedded {parts : List Part} {written : String}
    (isTemplate : (name, text) ∈ Embedded.all) (isParsed : parse? text = some parts)
    (isWritten : renderParts scope parts = .ok written) :
    renderTemplate Library.embedded name scope = .ok written := by
  have isRendered : Library.embedded.render name scope = .ok written := by
    refine (Plain.render_of_get? (get?_embedded isTemplate)).trans ?_
    rw [Plain.fill, isParsed]
    exact isWritten
  rw [renderTemplate, isRendered]
  rfl

/-- A template that fits yields a text in every scope of its shape. -/
theorem exists_text_of_fits (isTemplate : (name, text) ∈ Embedded.all)
    (fits : (parse? text).any (partsFit shapes) = true) (has : ScopeHasShape scope shapes) :
    ∃ written, renderTemplate Library.embedded name scope = .ok written := by
  cases isParsed : parse? text with
  | none => simp [isParsed] at fits
  | some parts =>
    rw [isParsed, Option.any_some] at fits
    obtain ⟨written, isWritten⟩ := renderParts_of_fits has parts fits
    exact ⟨written, renderTemplate_embedded isTemplate isParsed isWritten⟩

theorem sharedScope_hasShape : ScopeHasShape sharedScope sharedShape :=
  hasShape_cons (hasShape_cons (hasShape_cons (hasShape_cons (hasShape_cons hasShape_nil
    (.any _)) (.any _)) (.any _)) (.any _)) (.list fun value _ => .any value)

theorem indexScope_hasShape (collection : Collection) :
    ScopeHasShape (indexScope collection) indexShape := by
  refine hasShape_cons hasShape_nil (.list (List.forall_mem_map.mpr fun icon _ => ?_))
  exact hasShape_cons (hasShape_cons hasShape_nil (.any _)) (.any _)

theorem variantsScope_hasShape (icon : Icon) :
    ScopeHasShape (variantsScope icon) variantsShape := by
  refine hasShape_cons (hasShape_cons (hasShape_cons hasShape_nil
    (.list (List.forall_mem_map.mpr fun entry _ => ?_))) (.any _)) (.any _)
  exact hasShape_cons (hasShape_cons hasShape_nil (.any _)) (.any _)

theorem componentScope_hasShape (icon : Icon) :
    ScopeHasShape (componentScope icon) componentShape := by
  refine hasShape_cons (hasShape_cons (hasShape_cons hasShape_nil
    (.list (List.forall_mem_map.mpr fun variant _ => ?_))) (.any _)) (.any _)
  exact hasShape_cons (hasShape_cons hasShape_nil (.any _)) (.any _)

/-- All texts of a collection's files come about. -/
theorem exists_text_of_embedded (collection : Collection) :
    ∀ file ∈ plan Library.embedded collection, ∃ written, file.text = .ok written := by
  have fit := embedded_fit
  simp only [Bool.and_eq_true] at fit
  obtain ⟨⟨⟨⟨componentFits, variantsFits⟩, indexFits⟩, typesFits⟩, iconBaseFits⟩ := fit
  unfold plan
  simp only [List.forall_mem_append, List.forall_mem_cons, List.forall_mem_map]
  refine ⟨⟨⟨⟨?_, ?_, List.forall_mem_nil _⟩, fun icon _ => ?_⟩, fun icon _ => ?_⟩, ?_,
    List.forall_mem_nil _⟩
  · exact exists_text_of_fits (by simp [Embedded.all]) typesFits sharedScope_hasShape
  · exact exists_text_of_fits (by simp [Embedded.all]) iconBaseFits sharedScope_hasShape
  · exact exists_text_of_fits (by simp [Embedded.all]) variantsFits (variantsScope_hasShape icon)
  · exact exists_text_of_fits (by simp [Embedded.all]) componentFits (componentScope_hasShape icon)
  · exact exists_text_of_fits (by simp [Embedded.all]) indexFits (indexScope_hasShape collection)

end IconForge.Output
