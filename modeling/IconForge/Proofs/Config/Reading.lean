import IconForge.Proofs.Config.Layout
import IconForge.Proofs.Yaml.Nodes

/-!
Contract: configurations read from texts that are laid out key by key.

Owns:
- what values and fields are read as, however they are written;
- that the fields of a layout can be read together, and that each of them is found under
  its key;
- that a layout is read as what it gives.

Main statement: `parse_layout`.

Does not own: which nodes the text of a layout holds.
-/

namespace IconForge.Config

open IconForge.Yaml

/-! ### Reading values -/

section Values

variable {path : List Step} {node : Node} {texts : List String} {text : String}

theorem readPath_of_isText (isText : node.IsText false text) : readPath path node = .ok text := by
  obtain ⟨mark, rfl⟩ := isText
  rfl

theorem readOptionalPath_of_isText (record : Mark) (isText : node.IsText false text) :
    readOptionalPath record path node = .ok (some text) := by
  obtain ⟨mark, rfl⟩ := isText
  rfl

theorem readBoolean_of_isText {value : Bool} (isText : node.IsText true text)
    (stands : booleanWord? text = some value) : readBoolean path node = .ok value := by
  obtain ⟨mark, rfl⟩ := isText
  unfold readBoolean
  simp only [stands]

theorem readItems_of_forall₂ {items : List Node} (index : Nat)
    (areTexts : List.Forall₂ (Node.IsText false) texts items) :
    readItems path index items = .ok texts := by
  induction areTexts generalizing index with
  | nil => rfl
  | cons isText others inductionHypothesis =>
    obtain ⟨mark, rfl⟩ := isText
    rw [readItems, inductionHypothesis]
    rfl

theorem readTexts_of_isTexts (areTexts : node.IsTexts texts) : readTexts path node = .ok texts := by
  obtain ⟨mark, items, rfl, shown⟩ := areTexts
  exact readItems_of_forall₂ 0 shown

theorem isTexts_of_shows {writing : Writing} (lists : texts? writing = some texts)
    (shows : writing.Shows node) : node.IsTexts texts := by
  cases writing with
  | brackets gap list =>
    cases lists
    exact shows
  | lines further first more =>
    cases lists
    exact shows
  | quoted gap text => cases lists
  | word gap text => cases lists

end Values

/-! ### Reading fields -/

section Fields

variable {α κ σ : Type} {shape : Shape κ σ} {names : κ → String} {key : α → κ}
  {shows : α → Node × Node → Prop} {parts : List α} {fields : List (Node × Node)} {settings : σ}

/-- Fields under keys of their own, each of which can be read, can be read together. -/
theorem Shape.exists_readFields {record : Mark} {path : List Step} {given : List String}
    (known : ∀ key, Keyed.get? (names key) shape.keys = some key)
    (readable : ∀ part pair, shows part pair → nameOf? pair.1 = some (names (key part)) ∧
      ∀ record path settings, ∃ filled,
        shape.fill record path (key part) pair.2 settings = .ok filled)
    (areShown : List.Forall₂ shows parts fields) (distinct : (parts.map key).Nodup)
    (fresh : ∀ part ∈ parts, names (key part) ∉ given) :
    ∃ filled, shape.readFields record path given settings fields = .ok filled := by
  induction areShown generalizing given settings with
  | nil => exact ⟨settings, rfl⟩
  | @cons part pair others behind isShown areShown inductionHypothesis =>
    obtain ⟨keyNode, value⟩ := pair
    rw [List.map_cons, List.nodup_cons] at distinct
    rw [List.forall_mem_cons] at fresh
    obtain ⟨isName, fills⟩ := readable part _ isShown
    obtain ⟨between, isFilled⟩ := fills record (path ++ [.field (names (key part))]) settings
    have notAgain : ∀ other ∈ others, names (key other) ∉ names (key part) :: given := by
      intro other member isGiven
      rcases List.mem_cons.mp isGiven with same | isGiven
      · have sameKey : key other = key part :=
          Option.some_inj.mp ((known (key other)).symm.trans (same ▸ known (key part)))
        exact distinct.1 (sameKey ▸ List.mem_map_of_mem member)
      · exact fresh.2 other member isGiven
    obtain ⟨filled, isRead⟩ : ∃ filled, shape.readFields record path
        (names (key part) :: given) between behind = .ok filled :=
      inductionHypothesis distinct.2 notAgain
    refine ⟨filled, ?_⟩
    have isKey : shape.readKey path keyNode = .ok (names (key part), key part) := by
      cases keyNode with
      | text mark isPlain tag text =>
        cases isName
        unfold Shape.readKey
        simp only [known]
      | _ => cases isName
    rw [Shape.readFields]
    refine bind_eq_ok_iff.mpr ⟨_, isKey, ?_⟩
    simp only
    rw [if_neg (by simpa using fresh.1)]
    exact bind_eq_ok_iff.mpr ⟨between, isFilled, isRead⟩

/-- Under the name of a key stands what the first part under that key shows. -/
theorem valueOf?_of_forall₂ [DecidableEq κ] (injective : Function.Injective names)
    (named : ∀ part pair, shows part pair → nameOf? pair.1 = some (names (key part)))
    (areShown : List.Forall₂ shows parts fields) (wanted : κ) :
    (parts.find? fun part => key part == wanted).elim (valueOf? (names wanted) fields = none)
      fun part => ∃ pair, shows part pair ∧ valueOf? (names wanted) fields = some pair.2 := by
  induction areShown with
  | nil => rfl
  | @cons part pair others behind isShown areShown inductionHypothesis =>
    have isName := named part pair isShown
    by_cases same : key part = wanted
    · rw [List.find?_cons_of_pos (by simpa using same)]
      exact ⟨pair, isShown, by simp [valueOf?, isName, same]⟩
    · have later : valueOf? (names wanted) (pair :: behind) = valueOf? (names wanted) behind := by
        simp [valueOf?, isName, injective.eq_iff, same]
      rw [List.find?_cons_of_neg (by simpa using same), later]
      exact inductionHypothesis

/-- What is found under a key is read as what it gives. -/
theorem map_read_of_elim {τ : Type} {found : Option α} {node : Option Node} {get : α → Option τ}
    {read : Node → Decoded τ}
    (stands : found.elim (node = none) fun part => ∃ pair, shows part pair ∧ node = some pair.2)
    (reads : ∀ part pair, found = some part → shows part pair →
      ∃ value, get part = some value ∧ read pair.2 = .ok value) :
    node.map read = (found.bind get).map .ok := by
  cases found with
  | none =>
    cases show node = none from stands
    rfl
  | some part =>
    obtain ⟨pair, isShown, rfl⟩ := stands
    obtain ⟨value, isGiven, isRead⟩ := reads part pair rfl isShown
    rw [Option.bind_some, isGiven]
    exact congrArg some isRead

end Fields

/-! ### Reading settings -/

namespace RefreshSetting

variable {setting : RefreshSetting} {settings : List RefreshSetting} {pair : Node × Node}
  {fields : List (Node × Node)}

theorem nameOf?_of_shows (shows : setting.field.Shows pair) :
    nameOf? pair.1 = some setting.key.name := by
  cases setting <;>
  · obtain ⟨⟨mark, isName⟩, -⟩ := shows
    rw [isName]
    exact congrArg some String.ofList_toList

theorem exists_fill (shows : setting.field.Shows pair) (record : Mark) (path : List Step)
    (settings : RefreshConfig) : ∃ filled,
      refreshShape.fill record path setting.key pair.2 settings = .ok filled := by
  cases setting with
  | enabled fillers gap word value stands =>
    exact ⟨_, map_eq_ok_iff.mpr ⟨value, readBoolean_of_isText shows.2 stands, rfl⟩⟩
  | command fillers writing texts lists =>
    exact ⟨_, map_eq_ok_iff.mpr ⟨texts, readTexts_of_isTexts (isTexts_of_shows lists shows.2), rfl⟩⟩

theorem get?_name (key : RefreshKey) : Keyed.get? key.name refreshShape.keys = some key := by
  cases key <;> rfl

/-- Settings under different keys can be read together. -/
theorem exists_read (areShown : List.Forall₂ (fun setting => setting.field.Shows) settings fields)
    (distinct : (settings.map key).Nodup) (mark : Mark) (path : List Step)
    (defaults : RefreshConfig) :
    ∃ filled, refreshShape.read path defaults (.record mark fields) = .ok filled :=
  Shape.exists_readFields get?_name
    (fun _ _ shows => ⟨nameOf?_of_shows shows, exists_fill shows⟩) areShown distinct
    fun _ _ => List.not_mem_nil

theorem valueOf?_of_shows
    (areShown : List.Forall₂ (fun setting => setting.field.Shows) settings fields)
    (key : RefreshKey) :
    (settings.find? fun setting => setting.key == key).elim (valueOf? key.name fields = none)
      fun setting => ∃ pair, setting.field.Shows pair ∧ valueOf? key.name fields = some pair.2 :=
  valueOf?_of_forall₂ RefreshKey.name_injective (fun _ _ shows => nameOf?_of_shows shows)
    areShown key

end RefreshSetting

namespace Setting

variable {setting : Setting} {settings : List Setting} {pair : Node × Node}
  {fields : List (Node × Node)}

theorem nameOf?_of_shows (shows : setting.entry.Shows pair) :
    nameOf? pair.1 = some setting.key.name := by
  cases setting <;>
  · obtain ⟨⟨mark, isName⟩, -⟩ := shows
    rw [isName]
    exact congrArg some String.ofList_toList

theorem get?_name (key : Key) : Keyed.get? key.name shape.keys = some key := by
  cases key <;> rfl

/-- What is written under the key of drawings that are brought up to date. -/
theorem exists_record_of_shows {fillers : List Filler} {further : Nat} {first : RefreshSetting}
    {more : List RefreshSetting} {distinct : ((first :: more).map RefreshSetting.key).Nodup}
    (shows : (Setting.refresh fillers further first more distinct).entry.Shows pair) :
    ∃ mark fields, pair.2 = .record mark fields ∧
      List.Forall₂ (fun setting => setting.field.Shows) (first :: more) fields := by
  obtain ⟨-, mark, fields, isRecord, areShown⟩ := shows
  rw [← List.map_cons] at areShown
  exact ⟨mark, fields, isRecord, List.forall₂_map_left_iff.mp areShown⟩

theorem exists_fill (shows : setting.entry.Shows pair) (record : Mark) (path : List Step)
    (settings : Config) : ∃ filled,
      shape.fill record path setting.key pair.2 settings = .ok filled := by
  cases setting with
  | path fillers key isPath gap text =>
    have isRead : readPath path pair.2 = .ok text.text := readPath_of_isText shows.2
    cases key with
    | templatesDir =>
      exact ⟨_, map_eq_ok_iff.mpr ⟨_, readOptionalPath_of_isText record shows.2, rfl⟩⟩
    | refresh => exact absurd rfl isPath
    | _ => exact ⟨_, map_eq_ok_iff.mpr ⟨_, isRead, rfl⟩⟩
  | refresh fillers further first more distinct =>
    obtain ⟨mark, fields, isRecord, areShown⟩ := exists_record_of_shows shows
    obtain ⟨filled, isRead⟩ :=
      RefreshSetting.exists_read areShown distinct mark path RefreshConfig.default
    exact ⟨_, map_eq_ok_iff.mpr ⟨filled, isRecord ▸ isRead, rfl⟩⟩

theorem exists_read (areShown : List.Forall₂ (fun setting => setting.entry.Shows) settings fields)
    (distinct : (settings.map key).Nodup) (mark : Mark) :
    ∃ filled, shape.read [] default (.record mark fields) = .ok filled :=
  Shape.exists_readFields get?_name
    (fun _ _ shows => ⟨nameOf?_of_shows shows, exists_fill shows⟩) areShown distinct
    fun _ _ => List.not_mem_nil

theorem valueOf?_of_shows
    (areShown : List.Forall₂ (fun setting => setting.entry.Shows) settings fields) (key : Key) :
    (settings.find? fun setting => setting.key == key).elim (valueOf? key.name fields = none)
      fun setting => ∃ pair, setting.entry.Shows pair ∧ valueOf? key.name fields = some pair.2 :=
  valueOf?_of_forall₂ Key.name_injective (fun _ _ shows => nameOf?_of_shows shows) areShown key

end Setting

/-! ### Reading layouts -/

namespace Layout

variable {layout : Layout} {root : Option Node}

/-- The root of a layout is the record of its settings, if there are any. -/
theorem page_shows (shows : layout.page.Shows root) :
    (layout.settings = [] ∧ root = none) ∨
      ∃ mark fields, layout.settings ≠ [] ∧ root = some (.record mark fields) ∧
        List.Forall₂ (fun setting => setting.entry.Shows) layout.settings fields := by
  unfold Page.Shows page at shows
  cases isSettings : layout.settings with
  | nil =>
    rw [isSettings] at shows
    exact Or.inl ⟨rfl, shows⟩
  | cons first more =>
    rw [isSettings] at shows
    obtain ⟨mark, fields, isRoot, areShown⟩ := shows
    rw [← List.map_cons] at areShown
    exact Or.inr ⟨mark, fields, List.cons_ne_nil _ _, isRoot, List.forall₂_map_left_iff.mp areShown⟩

/-- What a layout says under a key stands there in its root, and nothing else does. -/
theorem field?_of_shows (shows : layout.page.Shows root) (key : Key) :
    (layout.find? key).elim (root.bind (field? key.name) = none) fun setting =>
      ∃ pair, setting.entry.Shows pair ∧ root.bind (field? key.name) = some pair.2 := by
  rcases page_shows shows with ⟨isEmpty, rfl⟩ | ⟨mark, fields, -, rfl, areShown⟩
  · rw [find?, isEmpty]
    rfl
  · exact Setting.valueOf?_of_shows areShown key

/-- What stands under a key in the record of what is said about bringing the drawings up to
date. -/
theorem refreshField?_of_shows (shows : layout.page.Shows root) (key : RefreshKey) :
    (layout.refresh? key).elim ((root.bind (field? "refresh")).bind (field? key.name) = none)
      fun setting => ∃ pair, setting.field.Shows pair ∧
        (root.bind (field? "refresh")).bind (field? key.name) = some pair.2 := by
  have stands := field?_of_shows shows .refresh
  unfold refresh?
  cases found : layout.find? .refresh with
  | none =>
    rw [found] at stands
    have isField : root.bind (field? "refresh") = none := stands
    rw [isField]
    rfl
  | some setting =>
    rw [found] at stands
    obtain ⟨pair, isShown, isField⟩ := stands
    have isRefresh : root.bind (field? "refresh") = some pair.2 := isField
    rw [isRefresh]
    cases setting with
    | path fillers other isPath gap text => exact absurd (key_of_find? found) isPath
    | refresh fillers further first more distinct =>
      obtain ⟨mark, fields, isRecord, areShown⟩ := Setting.exists_record_of_shows isShown
      rw [isRecord]
      exact RefreshSetting.valueOf?_of_shows areShown key

theorem key_of_refresh? {key : RefreshKey} {setting : RefreshSetting}
    (found : layout.refresh? key = some setting) : setting.key = key := by
  obtain ⟨around, -, isInside⟩ := Option.bind_eq_some_iff.mp found
  cases around with
  | path => cases isInside
  | refresh fillers further first more distinct =>
    have passes := List.find?_some (show
      (first :: more).find? (fun setting => setting.key == key) = some setting from isInside)
    exact eq_of_beq passes

theorem map_ok_injective {α : Type} :
    Function.Injective (Option.map (Except.ok : α → Decoded α)) :=
  Option.map_injective fun _ _ same => Except.ok.inj same

/-- Under the key of a path stands a text in quotes. -/
theorem exists_text_of_find? {key : Key} (isPath : key ≠ .refresh) (setting : Setting)
    (pair : Node × Node) (found : layout.find? key = some setting)
    (shows : setting.entry.Shows pair) :
    ∃ text, setting.path? = some text ∧ pair.2.IsText false text := by
  cases setting with
  | path fillers other isOther gap text => exact ⟨text.text, rfl, shows.2⟩
  | refresh => exact absurd (key_of_find? found).symm isPath

theorem map_readPath (shows : layout.page.Shows root) (key : Key) (isPath : key ≠ .refresh)
    (path : List Step) :
    (root.bind (field? key.name)).map (readPath path) =
      ((layout.find? key).bind Setting.path?).map .ok := by
  refine map_read_of_elim (field?_of_shows shows key) fun setting pair found isShown => ?_
  obtain ⟨text, isGiven, isText⟩ := exists_text_of_find? isPath setting pair found isShown
  exact ⟨text, isGiven, readPath_of_isText isText⟩

theorem map_readOptionalPath (shows : layout.page.Shows root) (key : Key) (isPath : key ≠ .refresh)
    (record : Mark) (path : List Step) :
    ((root.bind (field? key.name)).map (readOptionalPath record path)).getD (.ok none) =
      .ok ((layout.find? key).bind Setting.path?) := by
  have reads : (root.bind (field? key.name)).map (readOptionalPath record path) =
      ((layout.find? key).bind fun setting => setting.path?.map some).map .ok := by
    refine map_read_of_elim (field?_of_shows shows key) fun setting pair found isShown => ?_
    obtain ⟨text, isGiven, isText⟩ := exists_text_of_find? isPath setting pair found isShown
    exact ⟨some text, by rw [isGiven]; rfl, readOptionalPath_of_isText record isText⟩
  rw [reads]
  cases layout.find? key with
  | none => rfl
  | some setting => cases setting <;> rfl

/-- The keys that a root gives are those of the layout it shows. -/
theorem eq_keys (shows : layout.page.Shows root) {keys : Keys} (areKeys : AreKeys root keys) :
    keys = layout.keys := by
  have iconsDir : keys.iconsDir = layout.keys.iconsDir :=
    map_ok_injective (areKeys.iconsDir.symm.trans (map_readPath shows .iconsDir nofun _))
  have module : keys.module = layout.keys.module :=
    map_ok_injective (areKeys.module.symm.trans (map_readPath shows .module nofun _))
  have outDir : keys.outDir = layout.keys.outDir :=
    map_ok_injective (areKeys.outDir.symm.trans (map_readPath shows .outDir nofun _))
  have templatesDir : keys.templatesDir = layout.keys.templatesDir := by
    obtain ⟨record, isRead⟩ := areKeys.templatesDir
    exact Except.ok.inj
      (isRead.symm.trans (map_readOptionalPath shows .templatesDir nofun record _))
  have enabled : keys.enabled = layout.keys.enabled := by
    refine map_ok_injective (areKeys.enabled.symm.trans (map_read_of_elim
      (refreshField?_of_shows shows .enabled) fun setting pair found isShown => ?_))
    cases setting with
    | enabled fillers gap word value stands =>
      exact ⟨value, rfl, readBoolean_of_isText isShown.2 stands⟩
    | command => exact nomatch key_of_refresh? found
  have command : keys.command = layout.keys.command := by
    refine map_ok_injective (areKeys.command.symm.trans (map_read_of_elim
      (refreshField?_of_shows shows .command) fun setting pair found isShown => ?_))
    cases setting with
    | enabled => exact nomatch key_of_refresh? found
    | command fillers writing texts lists =>
      exact ⟨texts, rfl, readTexts_of_isTexts (isTexts_of_shows lists isShown.2)⟩
  cases keys
  unfold Layout.keys at *
  simp only [Keys.mk.injEq]
  exact ⟨iconsDir, module, outDir, templatesDir, enabled, command⟩

/-! ### The configuration of a layout -/

theorem colon_mem_entry (entry : PageEntry) (column : Nat) :
    ∃ line ∈ entry.lines column, ':' ∈ line := by
  cases entry with
  | field simple =>
    exact ⟨_, List.mem_append_right _ List.mem_cons_self,
      List.mem_append_right _ (List.mem_append_right _ List.mem_cons_self)⟩
  | record fillers name further first more =>
    exact ⟨_, List.mem_append_right _ List.mem_cons_self,
      List.mem_append_right _ (List.mem_append_right _ List.mem_cons_self)⟩

theorem mem_intercalate_lines {c : Char} {line : List Char} {lines : List (List Char)}
    (isLine : line ∈ lines) (inLine : c ∈ line) : c ∈ List.intercalate ['\n'] lines := by
  cases lines with
  | nil => cases isLine
  | cons first more =>
    rw [intercalate_lines]
    rcases List.mem_cons.mp isLine with rfl | isLater
    · exact List.mem_append_left _ inLine
    · exact List.mem_append_right _
        (List.mem_flatMap.mpr ⟨line, isLater, List.mem_cons_of_mem _ inLine⟩)

/-- A layout that holds nothing but blanks has no settings. -/
theorem settings_of_blank (blank : (Text.trim layout.text.toList).isEmpty = true) :
    layout.settings = [] := by
  obtain ⟨front, back, parts, areBlank⟩ := Text.exists_trim layout.text.toList
  rw [List.isEmpty_iff.mp blank, List.append_nil, text, String.toList_ofList] at parts
  cases isSettings : layout.settings with
  | nil => rfl
  | cons first more =>
    obtain ⟨line, isLine, isColon⟩ := colon_mem_entry first.entry layout.column
    have inLines : line ∈ layout.page.lines := by
      refine List.mem_append_left _ (List.mem_flatMap.mpr ⟨first.entry, ?_, isLine⟩)
      rw [page, isSettings]
      exact List.mem_cons_self
    have inText : ':' ∈ layout.page.chars := mem_intercalate_lines inLines isColon
    rw [parts] at inText
    exact absurd (areBlank ':' inText) (by decide)

theorem root_of_blank (shows : layout.page.Shows root)
    (blank : (Text.trim layout.text.toList).isEmpty = true) : root = none := by
  rcases page_shows shows with ⟨-, isNone⟩ | ⟨mark, fields, notEmpty, -⟩
  · exact isNone
  · exact absurd (settings_of_blank blank) notEmpty

/-- The text of a layout is a configuration. -/
theorem exists_parse (isDocument : Document.ofText layout.text = ⟨root, true⟩)
    (shows : layout.page.Shows root) : ∃ config, parse layout.text = .ok config := by
  unfold parse
  split
  · exact ⟨default, rfl⟩
  · rw [isDocument]
    rcases page_shows shows with ⟨-, rfl⟩ | ⟨mark, fields, -, rfl, areShown⟩
    · exact ⟨default, rfl⟩
    · obtain ⟨filled, isRead⟩ := Setting.exists_read areShown layout.distinct mark
      exact ⟨filled, bind_eq_ok_iff.mpr ⟨filled, isRead, rfl⟩⟩

theorem root?_text (isDocument : Document.ofText layout.text = ⟨root, true⟩)
    (shows : layout.page.Shows root) : root? layout.text = root := by
  unfold root?
  split
  · next blank => exact (root_of_blank shows blank).symm
  · rw [isDocument]

end Layout

/-- The text of a layout is read as what the layout gives, with the defaults for what it
leaves out. Any keys can be laid out, with any texts and in any order (`exists_layout`); a
layout of none is a text of comments and blank lines, which gives the defaults. -/
theorem parse_layout (layout : Layout) : parse layout.text = .ok layout.keys.config := by
  obtain ⟨root, isDocument, shows⟩ := exists_root_of_page layout.page
  obtain ⟨config, parsed⟩ := Layout.exists_parse isDocument shows
  obtain ⟨keys, areKeys, isConfig⟩ := exists_keys_of_parse parsed
  rw [Layout.root?_text isDocument shows] at areKeys
  rw [parsed, ← isConfig, Layout.eq_keys shows areKeys]

end IconForge.Config
