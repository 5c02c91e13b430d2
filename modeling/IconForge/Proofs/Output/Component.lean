import IconForge.Proofs.Naming.Pascal
import IconForge.Proofs.Output.Texts
import IconForge.Proofs.Script.Statements
import IconForge.Proofs.Text.Base64

/-!
Contract: the names that the file of a component binds, which the embedded template
yields.

Owns:
- what this template says, and the lines that it yields;
- that the pictures in the comment of a component end neither the line nor the comment;
- the names that the statements of the file bind, and when one of them is bound twice.

Main statements: `component_embedded`, `component_bindings`.

Does not own: the component identifiers of names, nor what pictures show.
-/

namespace IconForge.Output

open IconForge.Template
open IconForge.Script.Reader (Alphabet BindingForm bindings bound? bound?_eq_none codeLines
  commentEnd commentStart lines)

/-! ### What the template says -/

def componentHead : String :=
  "import * as React from \"react\"\nimport variants from \"../variants/"

def componentImports : String :=
  "\"\nimport type \x7b Icon \x7d from \"../lib/types\"\nimport IconBase from " ++
    "\"../lib/icon-base\"\n\n/**\n"

def componentBody : String :=
  ": Icon = React.forwardRef((props, ref) => (\n" ++
    "  <IconBase ref=\x7bref\x7d \x7b...props\x7d variants=\x7bvariants\x7d />\n))\n\n"

def componentSegments : List Segment :=
  [.text componentHead.toList, outputTag " name ", .text componentImports.toList,
   blockTag " for p in previews ", .text " * @".toList, outputTag " p.variant ",
   .text " ".toList, outputTag " p.preview | safe ", .text "\n".toList, blockTag " endfor ",
   .text " */\n\nconst ".toList, outputTag " component ", .text componentBody.toList,
   outputTag " component ", .text ".displayName = \"".toList, outputTag " component ",
   .text "\"\n\nexport default ".toList, outputTag " component ", .text "\n".toList]

/-- What stands in a pass over previews. -/
def previewParts : List Part :=
  [.text " * @", .output ⟨["p", "variant"], []⟩, .text " ",
   .output ⟨["p", "preview"], ["safe"]⟩, .text "\n"]

def componentParts : List Part :=
  [.text componentHead, .output ⟨["name"], []⟩, .text componentImports,
   .loop "p" ⟨["previews"], []⟩ previewParts [], .text " */\n\nconst ",
   .output ⟨["component"], []⟩, .text componentBody, .output ⟨["component"], []⟩,
   .text ".displayName = \"", .output ⟨["component"], []⟩, .text "\"\n\nexport default ",
   .output ⟨["component"], []⟩, .text "\n"]

theorem segments?_component :
    segments? Embedded.component.toList = some componentSegments := by
  unfold Embedded.component componentSegments outputTag blockTag componentHead componentImports
    componentBody
  simp only [toList_text, List.flatMap_cons, List.flatMap_nil, String.toList_append]
  repeat rw [String.toList_ofList]
  decide +kernel

theorem parse?_component : parse? Embedded.component = some componentParts := by
  have name : (tokens? " name ".toList).bind wholeReference? = some ⟨["name"], []⟩ := rfl
  have loop : (tokens? " for p in previews ".toList).bind readStatement? =
      some (.loop "p" ⟨["previews"], []⟩) := rfl
  have variant : (tokens? " p.variant ".toList).bind wholeReference? =
      some ⟨["p", "variant"], []⟩ := rfl
  have preview : (tokens? " p.preview | safe ".toList).bind wholeReference? =
      some ⟨["p", "preview"], ["safe"]⟩ := rfl
  have endLoop : (tokens? " endfor ".toList).bind readStatement? = some .endLoop := rfl
  have component : (tokens? " component ".toList).bind wholeReference? =
      some ⟨["component"], []⟩ := rfl
  refine parse?_of_segments segments?_component ?_
  unfold componentSegments
  simp only [List.foldlM_cons, step?_text, step?_outputTag name, step?_blockTag loop,
    step?_outputTag variant, step?_outputTag preview, step?_blockTag endLoop,
    step?_outputTag component, Machine.state?, Option.bind_eq_bind, Option.bind_some]
  rfl

/-! ### What the template yields -/

/-- The lines in front of the comment. -/
def importLines (icon : Icon) : List String :=
  [BindingForm.importAll.statement "React" "react\"",
   BindingForm.importDefault.statement "variants" ("../variants/" ++ icon.name ++ "\""),
   BindingForm.importType.statement "Icon" "../lib/types\"",
   BindingForm.importDefault.statement "IconBase" "../lib/icon-base\"",
   ""]

def previewLine (icon : Icon) (variant : Variant) : String :=
  " * @" ++ variant.name ++ " " ++ preview icon variant

/-- The lines behind the comment. -/
def declarationLines (component : String) : List String :=
  ["",
   BindingForm.constant.statement component "Icon = React.forwardRef((props, ref) => (",
   "  <IconBase ref=\x7bref\x7d \x7b...props\x7d variants=\x7bvariants\x7d />",
   "))",
   "",
   component ++ ".displayName = \"" ++ component ++ "\"",
   "",
   "export default " ++ component]

def componentLines (icon : Icon) : List String :=
  importLines icon ++ "/**" :: (Variant.all.map (previewLine icon) ++
    " */" :: declarationLines (Naming.pascal icon.name))

theorem renderParts_preview (scope : Scope) (icon : Icon) (variant : Variant)
    (index count : Nat) :
    renderParts
        (("p", textRecord [("variant", variant.name), ("preview", preview icon variant)]) ::
          ("loop", passRecord index count) :: scope) previewParts =
      .ok (previewLine icon variant ++ "\n") := by
  generalize isInner :
    ("p", textRecord [("variant", variant.name), ("preview", preview icon variant)]) ::
      ("loop", passRecord index count) :: scope = inner
  have name : Reference.read ⟨["p", "variant"], []⟩ inner = .ok (.text variant.name) := by
    subst isInner
    rfl
  have picture : Reference.read ⟨["p", "preview"], ["safe"]⟩ inner =
      .ok (.text (preview icon variant)) := by
    subst isInner
    rfl
  unfold previewParts previewLine
  simp only [renderParts, Part.render, name, picture, bind, Except.bind, Value.written,
    String.append_empty, String.append_assoc]

theorem toList_passes (icon : Icon) :
    (String.join (Variant.all.map fun variant => previewLine icon variant ++ "\n")).toList =
      (Variant.all.map (previewLine icon)).flatMap fun line => line.toList ++ ['\n'] := by
  rw [String.toList_join, List.flatMap_map, List.flatMap_map]
  simp only [String.toList_append]
  rfl

theorem component_embedded (icon : Icon) :
    component Library.embedded icon = .ok (Embedded.text (componentLines icon)) := by
  refine renderTemplate_embedded (by simp [Embedded.all]) parse?_component ?_
  have previews : Reference.read ⟨["previews"], []⟩ (componentScope icon) =
      .ok (.list (Variant.all.map fun variant =>
        textRecord [("variant", variant.name), ("preview", preview icon variant)])) := rfl
  have name : Reference.read ⟨["name"], []⟩ (componentScope icon) = .ok (.text icon.name) := rfl
  have identifier : Reference.read ⟨["component"], []⟩ (componentScope icon) =
      .ok (.text (Naming.pascal icon.name)) := rfl
  have loop := render_loop previews (renderParts_preview (componentScope icon) icon)
  unfold componentParts
  simp only [renderParts, loop]
  simp only [Part.render, name, identifier, bind, Except.bind, Value.written,
    String.append_empty]
  refine congrArg Except.ok (String.toList_inj.mp ?_)
  rw [toList_text]
  unfold componentLines importLines declarationLines componentHead componentImports componentBody
    BindingForm.statement BindingForm.importAll BindingForm.importDefault BindingForm.importType
    BindingForm.constant
  simp only [String.toList_append, toList_passes, List.flatMap_append, List.flatMap_cons,
    List.flatMap_nil]
  -- The two texts differ in brackets alone; what they are made of is not to be computed.
  generalize Naming.pascal icon.name = identifier
  generalize (Variant.all.map (previewLine icon)).flatMap _ = pictures
  generalize icon.name.toList = name
  generalize identifier.toList = component
  repeat rw [String.toList_ofList]
  simp only [List.append_assoc, List.cons_append, List.nil_append]

/-! ### Lines read back -/

variable {icon : Icon} {c : Char}

/-- Whether a character ends no line, and starts no end of a comment. -/
def isInComment (c : Char) : Bool :=
  c != '\n' && c != '*'

/-- The signs that previews are written with. -/
def isShownSign (c : Char) : Bool :=
  Text.Base64.isSign c || "![](:;,)@- ".toList.contains c

theorem isInComment_of_isShownSign (shown : isShownSign c = true) : isInComment c = true := by
  unfold isInComment
  rw [Bool.and_eq_true, bne_iff_ne, bne_iff_ne]
  constructor
  · rintro rfl
    exact absurd shown (by decide)
  · rintro rfl
    exact absurd shown (by decide)

theorem all_picture (drawing : Svg.Node) :
    (Preview.picture drawing).toList.all isShownSign = true := by
  have front : "![img](data:image/svg+xml;base64,".toList.all isShownSign = true := by decide
  have signs : (Text.Base64.encode (Preview.markup drawing)).toList.all isShownSign = true := by
    refine List.all_eq_true.mpr fun c member => ?_
    rw [isShownSign, Text.Base64.isSign_of_mem_encode member, Bool.true_or]
  have back : ")".toList.all isShownSign = true := by decide
  unfold Preview.picture
  generalize Text.Base64.encode (Preview.markup drawing) = shown at signs ⊢
  simp only [String.toList_append, List.all_append, front, signs, back, Bool.and_self]

theorem all_preview (icon : Icon) (variant : Variant) :
    (preview icon variant).toList.all isShownSign = true := by
  unfold preview
  cases icon.get? variant with
  | none => decide
  | some drawing => exact all_picture drawing

/-- What a preview shows ends neither the line that it stands in nor the comment. -/
theorem previewLine_characters (icon : Icon) (variant : Variant) :
    ∃ following, (previewLine icon variant).toList = ' ' :: '*' :: ' ' :: following ∧
      following.all isShownSign = true := by
  have name : variant.name.toList.all isShownSign = true := by
    cases variant <;> decide
  refine ⟨'@' :: (variant.name.toList ++ ' ' :: (preview icon variant).toList), ?_, ?_⟩
  · unfold previewLine
    simp only [String.toList_append, List.append_assoc]
    rfl
  · have mark : isShownSign '@' = true := by decide
    have gap : isShownSign ' ' = true := by decide
    rw [List.all_cons, List.all_append, List.all_cons, name, all_preview, mark, gap]
    rfl

def isInLine (c : Char) : Bool :=
  c != '\n'

theorem isInLine_of_isInComment (inComment : isInComment c = true) : isInLine c = true :=
  (Bool.and_eq_true_iff.mp inComment).1

theorem all_isInLine_iff {text : List Char} : text.all isInLine = true ↔ '\n' ∉ text := by
  unfold isInLine
  simp only [List.all_eq_true, bne_iff_ne]
  exact List.forall_mem_ne'

theorem all_previewLine (icon : Icon) (variant : Variant) :
    (previewLine icon variant).toList.all isInLine = true := by
  obtain ⟨following, isLine, shown⟩ := previewLine_characters icon variant
  have inLine : following.all isInLine = true :=
    List.all_eq_true.mpr fun c member =>
      isInLine_of_isInComment (isInComment_of_isShownSign (List.all_eq_true.mp shown c member))
  rw [isLine, List.all_cons, List.all_cons, List.all_cons, inLine]
  rfl

theorem all_componentLines (named : Naming.isIconName icon.name = true) :
    ∀ line ∈ componentLines icon, line.toList.all isInLine = true := by
  have inName := all_isInLine_iff.mpr (Naming.lineEnd_notMem_name named)
  have inComponent := all_isInLine_iff.mpr (Naming.lineEnd_notMem_pascal named)
  unfold componentLines importLines declarationLines BindingForm.statement
    BindingForm.importAll BindingForm.importDefault BindingForm.importType BindingForm.constant
  generalize Naming.pascal icon.name = component at inComponent ⊢
  generalize icon.name = name at inName
  simp only [List.forall_mem_append, List.forall_mem_cons, List.forall_mem_map,
    String.toList_append, List.all_append, inName, inComponent, all_previewLine, implies_true,
    List.not_mem_nil, false_implies, Bool.and_true, Bool.true_and, and_true, true_and]
  -- Literals become lists of characters here, which are much cheaper to compute with.
  repeat rw [String.toList_ofList]
  decide

theorem lines_component (named : Naming.isIconName icon.name = true) :
    lines (Embedded.text (componentLines icon)) =
      (componentLines icon).map String.toList ++ [[]] := by
  apply Script.Reader.lines_eq
  · rw [toList_text, List.flatMap_map]
  · exact List.forall_mem_map.mpr fun line member =>
      all_isInLine_iff.mp (all_componentLines named line member)

theorem cutAt?_previewLine (icon : Icon) (variant : Variant) :
    Text.cutAt? commentEnd (previewLine icon variant).toList = none := by
  obtain ⟨following, isLine, shown⟩ := previewLine_characters icon variant
  have noStar : '*' ∉ ' ' :: following := by
    rw [List.mem_cons, not_or]
    refine ⟨by decide, fun member => ?_⟩
    cases isInComment_of_isShownSign (List.all_eq_true.mp shown '*' member)
  have first : Text.dropStart? commentEnd (' ' :: '*' :: ' ' :: following) = none := rfl
  have second : Text.dropStart? commentEnd ('*' :: ' ' :: following) = none := rfl
  rw [isLine, Text.cutAt?, first, Text.cutAt?, second,
    Script.Reader.cutAt?_commentEnd_eq_none noStar]
  rfl

/-- What starts with a component identifier starts with no character but one in upper
form. -/
theorem head?_pascal_ne {name : String} (named : Naming.isIconName name = true)
    (noUpper : c.isUpper = false) (following : List Char) :
    ((Naming.pascal name).toList ++ following).head? ≠ some c := by
  obtain ⟨letter, rest, isPascal, lower, -⟩ := Naming.head_pascal named
  rw [isPascal]
  intro isHead
  cases isHead
  rw [(Naming.upper_of_isLower lower).2.1] at noUpper
  cases noUpper

theorem dropStart?_importLines (icon : Icon) :
    ∀ line ∈ (importLines icon).map String.toList,
      Text.dropStart? commentStart line = none := by
  unfold importLines BindingForm.statement BindingForm.importAll BindingForm.importDefault
    BindingForm.importType
  simp only [List.forall_mem_map, List.forall_mem_cons, String.toList_append]
  repeat rw [String.toList_ofList]
  exact ⟨rfl, rfl, rfl, rfl, rfl, nofun⟩

theorem dropStart?_declarationLines (named : Naming.isIconName icon.name = true) :
    ∀ line ∈ (declarationLines (Naming.pascal icon.name)).map String.toList,
      Text.dropStart? commentStart line = none := by
  have displayName := Script.Reader.dropStart?_commentStart_eq_none
    (head?_pascal_ne named (show ('/').isUpper = false from rfl)
      (".displayName = \"".toList ++ ((Naming.pascal icon.name).toList ++ "\"".toList)))
  unfold declarationLines BindingForm.statement BindingForm.constant
  simp only [List.forall_mem_map, List.forall_mem_cons, String.toList_append, List.append_assoc,
    displayName]
  generalize Naming.pascal icon.name = component
  repeat rw [String.toList_ofList]
  exact ⟨rfl, rfl, rfl, rfl, rfl, trivial, rfl, rfl, nofun⟩

/-- The comment of a component's file is left out. -/
theorem codeLines_component (named : Naming.isIconName icon.name = true) :
    codeLines false (lines (Embedded.text (componentLines icon))) =
      (importLines icon).map String.toList ++
        ((declarationLines (Naming.pascal icon.name)).map String.toList ++ [[]]) := by
  have pictures : ∀ line ∈ (Variant.all.map (previewLine icon)).map String.toList,
      Text.cutAt? commentEnd line = none :=
    List.forall_mem_map.mpr (List.forall_mem_map.mpr fun variant _ =>
      cutAt?_previewLine icon variant)
  have opens : (Text.dropStart? commentStart "/**".toList).map (Text.cutAt? commentEnd) =
      some none := rfl
  have closes : (Text.cutAt? commentEnd " */".toList).isNone = false := rfl
  rw [lines_component named, componentLines, List.map_append, List.map_cons, List.map_append,
    List.map_cons, List.append_assoc, List.cons_append, List.append_assoc, List.cons_append,
    Script.Reader.codeLines_code (dropStart?_importLines icon),
    Script.Reader.codeLines_comment opens pictures closes,
    Script.Reader.codeLines_code (dropStart?_declarationLines named)]
  rfl

/-- The names that the file of a component imports. -/
def importedNames : List String := ["React", "variants", "Icon", "IconBase"]

theorem filterMap_importLines (alphabet : Alphabet) (icon : Icon) :
    ((importLines icon).map String.toList).filterMap (bound? alphabet) = importedNames := by
  have identifier {name : String} (isName : Script.isIdentifier name = true) :
      alphabet.isIdentifier name = true := alphabet.isIdentifier_of_ascii isName
  have react : bound? alphabet (BindingForm.importAll.statement "React" "react\"").toList =
      some "React" :=
    Script.Reader.bound?_importAll (identifier rfl)
  have variants : bound? alphabet (BindingForm.importDefault.statement "variants"
      ("../variants/" ++ icon.name ++ "\"")).toList = some "variants" :=
    Script.Reader.bound?_importDefault (identifier rfl) rfl (by decide) (by decide)
  have types : bound? alphabet (BindingForm.importType.statement "Icon" "../lib/types\"").toList =
      some "Icon" :=
    Script.Reader.bound?_importType (identifier rfl)
  have base : bound? alphabet
      (BindingForm.importDefault.statement "IconBase" "../lib/icon-base\"").toList =
        some "IconBase" :=
    Script.Reader.bound?_importDefault (identifier rfl) rfl (by decide) (by decide)
  have blank : bound? alphabet "".toList = none := bound?_eq_none nofun nofun
  unfold importLines importedNames
  simp only [List.map_cons, List.map_nil, List.filterMap_cons, List.filterMap_nil, react, variants,
    types, base, blank]

theorem filterMap_declarationLines (alphabet : Alphabet)
    (named : Naming.isIconName icon.name = true) :
    ((declarationLines (Naming.pascal icon.name)).map String.toList).filterMap
        (bound? alphabet) = [Naming.pascal icon.name] := by
  have identifier := alphabet.isIdentifier_of_ascii (Naming.isIdentifier_pascal named)
  have constant : bound? alphabet (BindingForm.constant.statement (Naming.pascal icon.name)
      "Icon = React.forwardRef((props, ref) => (").toList = some (Naming.pascal icon.name) :=
    Script.Reader.bound?_constant identifier
  have displayName : bound? alphabet (Naming.pascal icon.name ++ ".displayName = \"" ++
      Naming.pascal icon.name ++ "\"").toList = none := by
    simp only [String.toList_append, List.append_assoc]
    exact bound?_eq_none (head?_pascal_ne named rfl _) (head?_pascal_ne named rfl _)
  have exported : bound? alphabet ("export default " ++ Naming.pascal icon.name).toList =
      none := by
    rw [String.toList_append, String.toList_ofList]
    exact bound?_eq_none nofun nofun
  have element : bound? alphabet
      "  <IconBase ref=\x7bref\x7d \x7b...props\x7d variants=\x7bvariants\x7d />".toList =
        none := by
    rw [String.toList_ofList]
    exact bound?_eq_none nofun nofun
  have closing : bound? alphabet "))".toList = none := bound?_eq_none nofun nofun
  have blank : bound? alphabet "".toList = none := bound?_eq_none nofun nofun
  unfold declarationLines
  simp only [List.map_cons, List.map_nil, List.filterMap_cons, List.filterMap_nil, constant,
    displayName, exported, element, closing, blank]

/-- A component's file binds the names that it imports, and then its component. -/
theorem bindings_component (alphabet : Alphabet) (named : Naming.isIconName icon.name = true) :
    bindings alphabet (Embedded.text (componentLines icon)) =
      importedNames ++ [Naming.pascal icon.name] := by
  have nothing : bound? alphabet [] = none := bound?_eq_none nofun nofun
  unfold bindings
  rw [codeLines_component named, List.filterMap_append, List.filterMap_append,
    filterMap_importLines, filterMap_declarationLines alphabet named, List.filterMap_cons, nothing]
  rfl

/-! ### Names bound twice -/

/-- The icon names whose component identifiers are names that the file imports. -/
def reservedNames : List String := ["react", "icon", "icon-base"]

/-- A component identifier is one of the imported names for three icon names only. It is
never the imported name that starts in lower form. -/
theorem pascal_mem_importedNames_iff {name : String} (named : Naming.isIconName name = true) :
    Naming.pascal name ∈ importedNames ↔ name ∈ reservedNames := by
  have same (other : String) (alsoNamed : Naming.isIconName other = true)
      (letters : (other.toList.any Char.isDigit) = false) :
      Naming.pascal name = Naming.pascal other ↔ name = other := by
    refine Naming.pascal_eq_iff_of_letters named alsoNamed fun c member => ?_
    exact Bool.eq_false_iff.mpr (List.any_eq_false.mp letters c member)
  have react := same "react" (by decide) (by decide)
  have icon := same "icon" (by decide) (by decide)
  have iconBase := same "icon-base" (by decide) (by decide)
  rw [show Naming.pascal "react" = "React" by decide] at react
  rw [show Naming.pascal "icon" = "Icon" by decide] at icon
  rw [show Naming.pascal "icon-base" = "IconBase" by decide] at iconBase
  have notVariants : Naming.pascal name ≠ "variants" := by
    intro isVariants
    apply head?_pascal_ne named (show ('v').isUpper = false from rfl) []
    rw [isVariants]
    rfl
  simp only [importedNames, reservedNames, List.mem_cons, List.not_mem_nil, or_false, react, icon,
    iconBase, notVariants, false_or]

/-- The file of a component that the embedded template yields binds the names that it
imports and the component identifier, which is none of these unless the icon has one of
three names. -/
theorem component_bindings (alphabet : Alphabet)
    (named : Naming.isIconName icon.name = true) :
    ∃ source, component Library.embedded icon = .ok source ∧
      bindings alphabet source = importedNames ++ [Naming.pascal icon.name] ∧
      ((bindings alphabet source).Nodup ↔ icon.name ∉ reservedNames) := by
  have bound := bindings_component alphabet named
  refine ⟨_, component_embedded icon, bound, ?_⟩
  rw [bound, ← pascal_mem_importedNames_iff named]
  have distinct : importedNames.Nodup := by decide
  rw [← List.concat_eq_append, List.nodup_concat]
  exact and_iff_left distinct

theorem component_bindings_lamp :
    Naming.isIconName "lamp-2" = true ∧
      ∃ source, component Library.embedded ⟨"lamp-2", []⟩ = .ok source ∧
        bindings .unicode source = ["React", "variants", "Icon", "IconBase", "Lamp2"] ∧
        (bindings .unicode source).Nodup := by
  have named : Naming.isIconName "lamp-2" = true := by decide
  have free : "lamp-2" ∉ reservedNames := by decide
  obtain ⟨source, isSource, bound, distinct⟩ :=
    component_bindings .unicode (show Naming.isIconName (Icon.mk "lamp-2" []).name = true from named)
  exact ⟨named, source, isSource, bound, distinct.mpr free⟩

theorem component_bindings_react :
    Naming.isIconName "react" = true ∧
      ∃ source, component Library.embedded ⟨"react", []⟩ = .ok source ∧
        bindings .unicode source = ["React", "variants", "Icon", "IconBase", "React"] ∧
        ¬(bindings .unicode source).Nodup := by
  have named : Naming.isIconName "react" = true := by decide
  have bound : bindings .unicode (Embedded.text (componentLines ⟨"react", []⟩)) =
      ["React", "variants", "Icon", "IconBase", "React"] :=
    bindings_component .unicode named
  refine ⟨named, _, component_embedded ⟨"react", []⟩, bound, ?_⟩
  rw [bound]
  decide

end IconForge.Output
