import IconForge.Proofs.Output.Component
import IconForge.Proofs.Script.Comments
import IconForge.Proofs.Svg.RoundTrip

/-!
Contract: the comment of a component's file, and the pictures in it.

Owns:
- what a picture embeds: markup that is read as the resized drawing on a white ground;
- that the file has one comment, which ends where the template ends it;
- the lines of this comment, one for each variant.

Main statements: `shows_picture`, `comments?_component`, `component_previews`.

Does not own: the code of the file.
-/

namespace IconForge.Preview

open IconForge.Svg
open IconForge.Text

/-- The ground of a preview, with its attributes in order. -/
def whiteGround : Node :=
  .element "rect"
    ⟨[("width", "100%"), ("height", "100%"), ("fill", "white"), ("rx", "2"), ("ry", "2")],
      by decide⟩
    []

/-- Whether a text embeds a picture of a drawing: markup in sixty-four signs, which is read as
the drawing with the size of a preview and on a white ground, its texts put together and
stripped. -/
def Shows (drawing : Node) (text : String) : Prop :=
  ∃ payload markup attributes resized children,
    text = "![img](data:image/svg+xml;base64," ++ payload ++ ")" ∧
    (Base64.decode? payload.toList).bind ofOctets? = some markup ∧
    drawing = .element "svg" attributes children ∧
    parse markup = .ok (.element "svg" resized (whiteGround :: Node.normalAll [] children)) ∧
    resized.entries =
      attributes.entries.filter (fun pair => pair.1 != "width" && pair.1 != "height") ++
        [("width", "20"), ("height", "20")]

variable {attributes : Attributes} {children : List Node}

theorem background_eq : background = whiteGround :=
  congrArg (Node.element "rect" · []) (Attributes.ext (by decide))

theorem entries_resize (attributes : Attributes) :
    (resize attributes).entries =
      attributes.entries.filter (fun pair => pair.1 != "width" && pair.1 != "height") ++
        [("width", "20"), ("height", "20")] := by
  have noWidth : "width" ∉ (attributes.entries.filter fun pair =>
      pair.1 != "width" && pair.1 != "height").map Prod.fst := by
    simp [List.mem_map, List.mem_filter]
  have noHeight : "height" ∉ (attributes.entries.filter (fun pair =>
      pair.1 != "width" && pair.1 != "height") ++ [("width", side)]).map Prod.fst := by
    simp [List.mem_map, List.mem_filter]
  unfold resize Attributes.insert Attributes.filter
  simp only [Keyed.upsert_of_notMem noWidth, Keyed.upsert_of_notMem noHeight, List.append_assoc]
  rfl

theorem isProper_drawing (proper : (Node.element "svg" attributes children).isProper = true) :
    (drawing (.element "svg" attributes children)).isProper = true := by
  rw [Node.isProper, Bool.and_eq_true, Bool.and_eq_true, List.all_eq_true] at proper
  obtain ⟨⟨properName, properKeys⟩, properChildren⟩ := proper
  have properResized : (resize attributes).entries.all (fun pair => isProperName pair.1) = true := by
    rw [entries_resize, List.all_append, Bool.and_eq_true, List.all_eq_true]
    exact ⟨fun pair member => properKeys pair (List.mem_filter.mp member).1, by decide⟩
  have properGround : whiteGround.isProper = true := by decide
  change (Node.element "svg" (resize attributes) (background :: children)).isProper = true
  rw [Node.isProper, Node.isProperAll, background_eq, properName, properResized, properGround,
    properChildren]
  rfl

/-- The picture of a drawing shows the drawing. -/
theorem shows_picture {node : Node} (root : node.name? = some "svg")
    (proper : node.isProper = true) : Shows node (picture node) := by
  cases node with
  | text value => cases root
  | element name attributes children =>
    cases root
    have read : parse (markup (.element "svg" attributes children)) =
        .ok (drawing (.element "svg" attributes children)).normal :=
      readTree_markup_of_legible (legible_of_isProper (isProper_drawing proper)) rfl
    refine ⟨_, _, attributes, resize attributes, children, rfl, Base64.decode?_encode _, rfl, ?_,
      entries_resize attributes⟩
    rw [read, ← background_eq]
    rfl

end IconForge.Preview

namespace IconForge.Output

open IconForge.Template
open IconForge.Json5 (isLineEnd)
open IconForge.Script.Comments
open IconForge.Script.Reader (BindingForm)

variable {icon : Icon} {c : Char}

/-! ### Names in code and in quoted texts -/

theorem passes_name (named : Naming.isIconName icon.name = true) (found : List Comment) :
    Passes icon.name.toList ⟨.quoted '"', found⟩ ⟨.quoted '"', found⟩ := by
  refine passes_quoted fun c member => ?_
  rcases Naming.characters_of_isIconName named c member with isNamed | rfl
  · refine ⟨?_, ?_, ?_, ?_⟩ <;>
    · rintro rfl
      cases isNamed
  · decide

/-- A part of an identifier stands in code as well as in a quoted text. -/
theorem plain_of_isIdentifierPart (part : Script.isIdentifierPart c = true) :
    behindCode c = .code ∧ c ≠ '"' ∧ c ≠ '\\' ∧ c ≠ '\n' ∧ c ≠ '\r' := by
  have differs {other : Char} (noPart : Script.isIdentifierPart other = false) : c ≠ other := by
    rintro rfl
    rw [part] at noPart
    cases noPart
  have noQuote : isQuote c = false := by
    rw [isQuote, beq_false_of_ne (differs (by decide)), beq_false_of_ne (differs (by decide)),
      beq_false_of_ne (differs (by decide))]
    rfl
  refine ⟨?_, differs (by decide), differs (by decide), differs (by decide), differs (by decide)⟩
  rw [behindCode, if_neg (differs (by decide)), noQuote]
  rfl

section Identifiers

variable (named : Naming.isIconName icon.name = true) (found : List Comment)
include named

theorem passes_pascal :
    Passes (Naming.pascal icon.name).toList ⟨.code, found⟩ ⟨.code, found⟩ :=
  passes_code fun c member =>
    (plain_of_isIdentifierPart (Naming.isIdentifierPart_pascal named c member)).1

theorem passes_quotedPascal :
    Passes (Naming.pascal icon.name).toList ⟨.quoted '"', found⟩ ⟨.quoted '"', found⟩ :=
  passes_quoted fun c member =>
    (plain_of_isIdentifierPart (Naming.isIdentifierPart_pascal named c member)).2

end Identifiers

/-! ### The comment -/

/-- A line and its end. -/
def ended (line : String) : List Char :=
  line.toList ++ ['\n']

theorem ended_append (front back : String) : ended (front ++ back) = front.toList ++ ended back := by
  rw [ended, ended, String.toList_append, List.append_assoc]

theorem passes_importLines (named : Naming.isIconName icon.name = true) :
    Passes ((importLines icon).flatMap ended) ⟨.code, []⟩ ⟨.code, []⟩ := by
  have variants : Passes (ended (BindingForm.importDefault.statement "variants"
      ("../variants/" ++ icon.name ++ "\""))) ⟨.code, []⟩ ⟨.code, []⟩ := by
    have opens : Passes "import variants from \"../variants/".toList
        ⟨.code, []⟩ ⟨.quoted '"', []⟩ := by decide
    have closes : Passes (ended "\"") ⟨.quoted '"', []⟩ ⟨.code, []⟩ := by decide
    have passes := opens.append ((passes_name named []).append closes)
    rw [← ended_append, ← ended_append] at passes
    exact passes
  refine passes_flatMap ?_
  unfold importLines
  simp only [List.forall_mem_cons]
  exact ⟨by decide, variants, by decide, by decide, by decide, List.forall_mem_nil _⟩

theorem passes_declarationLines (named : Naming.isIconName icon.name = true)
    (found : List Comment) :
    Passes ((declarationLines (Naming.pascal icon.name)).flatMap ended)
      ⟨.code, found⟩ ⟨.code, found⟩ := by
  have component := passes_pascal named []
  have constant : Passes (ended (BindingForm.constant.statement (Naming.pascal icon.name)
      "Icon = React.forwardRef((props, ref) => (")) ⟨.code, []⟩ ⟨.code, []⟩ := by
    have opens : Passes "const ".toList ⟨.code, []⟩ ⟨.code, []⟩ := by decide
    have closes : Passes (": ".toList ++ ended "Icon = React.forwardRef((props, ref) => (")
        ⟨.code, []⟩ ⟨.code, []⟩ := by decide
    unfold BindingForm.statement BindingForm.constant
    simp only [String.append_assoc, ended_append]
    exact opens.append (component.append closes)
  have displayName : Passes (ended (Naming.pascal icon.name ++ ".displayName = \"" ++
      Naming.pascal icon.name ++ "\"")) ⟨.code, []⟩ ⟨.code, []⟩ := by
    have opens : Passes ".displayName = \"".toList ⟨.code, []⟩ ⟨.quoted '"', []⟩ := by decide
    have closes : Passes (ended "\"") ⟨.quoted '"', []⟩ ⟨.code, []⟩ := by decide
    simp only [String.append_assoc, ended_append]
    exact component.append (opens.append ((passes_quotedPascal named []).append closes))
  have exported : Passes (ended ("export default " ++ Naming.pascal icon.name))
      ⟨.code, []⟩ ⟨.code, []⟩ := by
    have opens : Passes "export default ".toList ⟨.code, []⟩ ⟨.code, []⟩ := by decide
    have closes : Passes ['\n'] ⟨.code, []⟩ ⟨.code, []⟩ := by decide
    rw [ended_append]
    exact opens.append (component.append closes)
  have passes : Passes ((declarationLines (Naming.pascal icon.name)).flatMap ended)
      ⟨.code, []⟩ ⟨.code, []⟩ := by
    refine passes_flatMap ?_
    unfold declarationLines
    simp only [List.forall_mem_cons]
    exact ⟨by decide, constant, by decide, by decide, by decide, displayName, by decide, exported,
      List.forall_mem_nil _⟩
  have behind := passes.behind found
  rw [List.append_nil] at behind
  exact behind

/-- What stands in the comment of a component's file. -/
def commentText (icon : Icon) : List Char :=
  ['*', '\n'] ++ (Variant.all.map (previewLine icon)).flatMap ended ++ [' ']

theorem stays_previewLine (icon : Icon) (variant : Variant) :
    Stays (ended (previewLine icon variant)) := by
  obtain ⟨following, isLine, shown⟩ := previewLine_characters icon variant
  have noStar : '*' ∉ following ++ ['\n'] := by
    rw [List.mem_append, not_or]
    refine ⟨fun member => ?_, by decide⟩
    cases isInComment_of_isShownSign (List.all_eq_true.mp shown '*' member)
  have indented : Stays [' '] := stays_of_no_star (by decide)
  have star : Stays ['*', ' '] := stays_star (by decide) (by decide)
  have line := indented.append (star.append (stays_of_no_star noStar))
  rw [ended, isLine]
  exact line

/-- The file of a component has one comment, which ends where the template ends it. -/
theorem comments?_component (named : Naming.isIconName icon.name = true) :
    comments? (Embedded.text (componentLines icon)) = some [.block (commentText icon)] := by
  apply comments?_of_passes
  rw [toList_text]
  change Passes ((componentLines icon).flatMap ended) _ _
  have opens : Passes (ended "/**") ⟨.code, []⟩ ⟨.block ['*', '\n'], []⟩ := by decide
  have lines : Stays ((Variant.all.map (previewLine icon)).flatMap ended) := by
    exact stays_flatMap (List.forall_mem_map.mpr fun variant _ => stays_previewLine icon variant)
  have indented : Stays [' '] := stays_of_no_star (by decide)
  have inside := (lines.append indented) ['*', '\n'] []
  rw [← List.append_assoc] at inside
  have lineEnd : Passes ['\n'] ⟨.code, [.block (commentText icon)]⟩
      ⟨.code, [.block (commentText icon)]⟩ := passes_code (List.forall_mem_singleton.mpr rfl)
  have code := lineEnd.append (passes_declarationLines named [.block (commentText icon)])
  have passes := (passes_importLines named).append
    (opens.append (inside.append (passes_blockEnd.append code)))
  rw [List.append_assoc] at passes
  unfold componentLines
  rw [List.flatMap_append, List.flatMap_cons, List.flatMap_append, List.flatMap_cons]
  exact passes

/-! ### The lines of the comment -/

theorem isLineEnd_of_isShownSign (shown : isShownSign c = true) : isLineEnd c = false := by
  have differs {other : Char} (notShown : isShownSign other = false) : c ≠ other := by
    rintro rfl
    rw [shown] at notShown
    cases notShown
  rw [isLineEnd, beq_false_of_ne (differs (by decide)), beq_false_of_ne (differs (by decide)),
    beq_false_of_ne (differs (by decide)), beq_false_of_ne (differs (by decide))]
  rfl

theorem splitAt_commentText (icon : Icon) :
    Text.splitAt isLineEnd (commentText icon) =
      ['*'] :: ((Variant.all.map (previewLine icon)).map String.toList ++ [[' ']]) := by
  have free : ∀ line ∈ (Variant.all.map (previewLine icon)).map String.toList,
      ∀ c ∈ line, isLineEnd c = false := by
    refine List.forall_mem_map.mpr (List.forall_mem_map.mpr fun variant _ => ?_)
    obtain ⟨following, isLine, shown⟩ := previewLine_characters icon variant
    rw [isLine]
    simp only [List.forall_mem_cons]
    exact ⟨rfl, rfl, rfl, fun c member =>
      isLineEnd_of_isShownSign (List.all_eq_true.mp shown c member)⟩
  have ends : isLineEnd '\n' = true := rfl
  have pieces := Text.splitAt_flatMap ends free [' ']
  rw [List.flatMap_map] at pieces
  change Text.splitAt isLineEnd
    (['*'] ++ '\n' :: ((Variant.all.map (previewLine icon)).flatMap ended ++ [' '])) = _
  rw [Text.splitAt_append ends]
  exact congrArg (['*'] :: ·) pieces

/-! ### What the previews show -/

theorem get?_eq_none_iff {variant : Variant} :
    icon.get? variant = none ↔ ∀ entry ∈ icon.entries, entry.variant ≠ variant := by
  simp only [Icon.get?, Option.map_eq_none_iff, List.find?_eq_none, beq_iff_eq, ne_eq]

theorem picture_ne_missing (drawing : Svg.Node) : Preview.picture drawing ≠ "(missing)" := by
  intro same
  have starts : "![img](data:image/svg+xml;base64,".toList.head? = some '!' := by decide
  have otherwise : "(missing)".toList.head? = some '(' := by decide
  unfold Preview.picture at same
  generalize Text.Base64.encode (Preview.markup drawing) = payload at same
  rw [← same, String.toList_append, String.toList_append, List.append_assoc, List.head?_append,
    starts] at otherwise
  cases otherwise

theorem preview_eq_missing_iff {variant : Variant} :
    preview icon variant = "(missing)" ↔ ∀ entry ∈ icon.entries, entry.variant ≠ variant := by
  rw [← get?_eq_none_iff, preview]
  cases icon.get? variant with
  | none => exact iff_of_true rfl rfl
  | some drawing => exact iff_of_false (picture_ne_missing drawing) nofun

/-- A variant that an icon has is shown by its preview. -/
theorem shows_preview {variant : Variant} {entry : Entry}
    (drawn : ∀ entry ∈ icon.entries,
      entry.drawing.name? = some "svg" ∧ entry.drawing.isProper = true)
    (member : entry ∈ icon.entries) (isVariant : entry.variant = variant) :
    ∃ drawing, icon.get? variant = some drawing ∧
      Preview.Shows drawing (preview icon variant) := by
  have hasVariant : icon.get? variant ≠ none :=
    fun isNone => get?_eq_none_iff.mp isNone entry member isVariant
  obtain ⟨drawing, isDrawing⟩ := Option.ne_none_iff_exists'.mp hasVariant
  obtain ⟨shown, isFound, isShown⟩ := Option.map_eq_some_iff.mp isDrawing
  obtain ⟨root, proper⟩ := drawn shown (List.mem_of_find?_eq_some isFound)
  rw [isShown] at root proper
  refine ⟨drawing, isDrawing, ?_⟩
  rw [preview, isDrawing]
  exact Preview.shows_picture root proper

/-- The file of a component, which the embedded template yields, has one comment: between its
first and its last line, one line for each variant in canonical order. A line says that the
variant is missing exactly if the icon has no entry for it, and else embeds a picture that
shows the drawing of the variant. -/
theorem component_previews (named : Naming.isIconName icon.name = true)
    (drawn : ∀ entry ∈ icon.entries,
      entry.drawing.name? = some "svg" ∧ entry.drawing.isProper = true) :
    ∃ source comment, ∃ shown : Variant → String,
      component Library.embedded icon = .ok source ∧
      comments? source = some [.block comment] ∧
      Text.splitAt isLineEnd comment =
        "*".toList :: (Variant.all.map (fun variant =>
          (" * @" ++ variant.name ++ " " ++ shown variant).toList) ++ [" ".toList]) ∧
      ∀ variant,
        (shown variant = "(missing)" ↔ ∀ entry ∈ icon.entries, entry.variant ≠ variant) ∧
        ∀ entry ∈ icon.entries, entry.variant = variant →
          ∃ drawing, icon.get? variant = some drawing ∧
            Preview.Shows drawing (shown variant) := by
  refine ⟨_, commentText icon, preview icon, component_embedded icon, comments?_component named,
    ?_, fun variant => ⟨preview_eq_missing_iff, fun entry member isVariant =>
      shows_preview drawn member isVariant⟩⟩
  rw [splitAt_commentText, List.map_map]
  rfl

/-- A drawing that holds the end of a comment and a line end, and a width of its own. -/
def lampDrawing : Svg.Node :=
  .element "svg" ⟨[("width", "24"), ("data-end", "*/"), ("viewBox", "0 0 24 24")], by decide⟩
    [.text "*/\n", .element "path" .empty []]

def lamp : Icon := ⟨"lamp-2", [⟨.regular, lampDrawing⟩]⟩

theorem component_previews_lamp :
    Naming.isIconName lamp.name = true ∧
      (∀ entry ∈ lamp.entries,
        entry.drawing.name? = some "svg" ∧ entry.drawing.isProper = true) ∧
      ∃ source comment, ∃ shown : Variant → String,
        component Library.embedded lamp = .ok source ∧
        comments? source = some [.block comment] ∧
        (Text.splitAt isLineEnd comment).length = 7 ∧
        shown .light = "(missing)" ∧ Preview.Shows lampDrawing (shown .regular) := by
  have named : Naming.isIconName lamp.name = true := by decide
  have drawn : ∀ entry ∈ lamp.entries,
      entry.drawing.name? = some "svg" ∧ entry.drawing.isProper = true :=
    List.forall_mem_singleton.mpr ⟨rfl, by decide⟩
  obtain ⟨source, comment, shown, isSource, isComment, lines, each⟩ :=
    component_previews named drawn
  refine ⟨named, drawn, source, comment, shown, isSource, isComment, ?_, ?_, ?_⟩
  · rw [lines]
    rfl
  · exact (each .light).1.mpr (List.forall_mem_singleton.mpr (by decide))
  · obtain ⟨drawing, isDrawing, shows⟩ := (each .regular).2 _ List.mem_cons_self rfl
    cases isDrawing
    exact shows

end IconForge.Output
