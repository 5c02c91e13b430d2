import IconForge.Proofs.Config.Keys
import IconForge.Proofs.Yaml.Page
import Mathlib.Data.List.Nodup

/-!
Contract: the texts that hold a configuration, key by key.

Owns:
- layouts: keys in any order, each with its value as it is written, among blank lines and
  comments;
- what a layout gives under the keys;
- that any keys can be laid out, in any order.

Main statement: `exists_layout`.

Does not own: what the text of a layout is read as.
-/

namespace IconForge.Config

open IconForge.Yaml

/-! ### Layouts -/

def Key.word (key : Key) : Word where
  chars := key.name.toList
  isWord := List.all_eq_true.mp (by cases key <;> decide)
  notEmpty := by cases key <;> decide
  short := by cases key <;> decide

def RefreshKey.word (key : RefreshKey) : Word where
  chars := key.name.toList
  isWord := List.all_eq_true.mp (by cases key <;> decide)
  notEmpty := by cases key <;> decide
  short := by cases key <;> decide

/-- The texts of a list that is written in brackets or line by line. -/
def texts? : Writing → Option (List String)
  | .brackets _ list => some list.texts
  | .lines _ first more => some ((first :: more).map fun item => item.quoted.text)
  | .quoted .. => none
  | .word .. => none

/-- What is said about bringing the drawings up to date under one key, with the lines in
front of it. -/
inductive RefreshSetting where
  | enabled (fillers : List Filler) (gap : Nat) (word : Word) (value : Bool)
      (stands : booleanWord? word.text = some value)
  | command (fillers : List Filler) (writing : Writing) (texts : List String)
      (lists : texts? writing = some texts)

namespace RefreshSetting

def key : RefreshSetting → RefreshKey
  | enabled .. => .enabled
  | command .. => .command

def field : RefreshSetting → Field
  | enabled fillers gap word _ _ => ⟨fillers, RefreshKey.enabled.word, .word gap word⟩
  | command fillers writing _ _ => ⟨fillers, RefreshKey.command.word, writing⟩

def enabled? : RefreshSetting → Option Bool
  | enabled _ _ _ value _ => some value
  | command .. => none

def command? : RefreshSetting → Option (List String)
  | enabled .. => none
  | command _ _ texts _ => some texts

end RefreshSetting

/-- What a configuration says under one key, with the lines in front of it. -/
inductive Setting where
  | path (fillers : List Filler) (key : Key) (isPath : key ≠ .refresh) (gap : Nat) (text : Quoted)
  | refresh (fillers : List Filler) (further : Nat) (first : RefreshSetting)
      (more : List RefreshSetting) (distinct : ((first :: more).map RefreshSetting.key).Nodup)

namespace Setting

def key : Setting → Key
  | path _ key _ _ _ => key
  | refresh .. => .refresh

def entry : Setting → PageEntry
  | path fillers key _ gap text => .field ⟨fillers, key.word, .quoted gap text⟩
  | refresh fillers further first more _ =>
    .record fillers Key.refresh.word further first.field (more.map RefreshSetting.field)

def path? : Setting → Option String
  | path _ _ _ _ text => some text.text
  | refresh .. => none

def refresh? (key : RefreshKey) : Setting → Option RefreshSetting
  | path .. => none
  | refresh _ _ first more _ => (first :: more).find? fun setting => setting.key == key

end Setting

/-- A text that says something under some keys, in any order. Its lines are indented alike;
blank lines and comments may stand between them and around them. -/
structure Layout where
  column : Nat
  settings : List Setting
  after : List Filler
  distinct : (settings.map Setting.key).Nodup

namespace Layout

def page (layout : Layout) : Page :=
  ⟨layout.column, layout.settings.map Setting.entry, layout.after⟩

def text (layout : Layout) : String :=
  String.ofList layout.page.chars

def find? (key : Key) (layout : Layout) : Option Setting :=
  layout.settings.find? fun setting => setting.key == key

def refresh? (key : RefreshKey) (layout : Layout) : Option RefreshSetting :=
  (layout.find? .refresh).bind (Setting.refresh? key)

/-- What a layout gives, key by key. -/
def keys (layout : Layout) : Keys where
  iconsDir := (layout.find? .iconsDir).bind Setting.path?
  module := (layout.find? .module).bind Setting.path?
  outDir := (layout.find? .outDir).bind Setting.path?
  templatesDir := (layout.find? .templatesDir).bind Setting.path?
  enabled := (layout.refresh? .enabled).bind RefreshSetting.enabled?
  command := (layout.refresh? .command).bind RefreshSetting.command?

theorem key_of_find? {layout : Layout} {key : Key} {setting : Setting}
    (found : layout.find? key = some setting) :
    setting.key = key := by
  have passes := List.find?_some (show layout.settings.find? _ = some setting from found)
  exact eq_of_beq passes

end Layout

/-! ### Laying out keys -/

def Keys.path? (keys : Keys) : Key → Option String
  | .iconsDir => keys.iconsDir
  | .module => keys.module
  | .outDir => keys.outDir
  | .templatesDir => keys.templatesDir
  | .refresh => none

/-- Whether something is given under a key. -/
def Keys.Gives (keys : Keys) : Key → Prop
  | .refresh => keys.enabled.isSome ∨ keys.command.isSome
  | key => (keys.path? key).isSome

/-- Whether a setting says what keys give. -/
structure Setting.Tells (setting : Setting) (keys : Keys) : Prop where
  path : setting.path? = keys.path? setting.key
  enabled : setting.key = .refresh →
    (setting.refresh? .enabled).bind RefreshSetting.enabled? = keys.enabled
  command : setting.key = .refresh →
    (setting.refresh? .command).bind RefreshSetting.command? = keys.command

section Laying

variable {keys : Keys} {key : Key} {order : List Key}

theorem exists_quoted (text : String) : ∃ quoted : Quoted, quoted.text = text := by
  obtain ⟨body, quotes⟩ := exists_quotes text.toList
  exact ⟨⟨body, text.toList, quotes⟩, String.ofList_toList⟩

theorem exists_items (texts : List String) :
    ∃ items : List BracketItem, (items.map fun item => item.quoted.text) = texts := by
  induction texts with
  | nil => exact ⟨[], rfl⟩
  | cons text others inductionHypothesis =>
    obtain ⟨quoted, isText⟩ := exists_quoted text
    obtain ⟨items, areTexts⟩ := inductionHypothesis
    have noSpace : IsSpace [] := fun _ member => absurd member List.not_mem_nil
    exact ⟨⟨[], quoted, [], noSpace, noSpace⟩ :: items, congrArg₂ List.cons isText areTexts⟩

theorem exists_command (texts : List String) :
    ∃ setting : RefreshSetting, setting.key = .command ∧ setting.command? = some texts := by
  obtain ⟨items, rfl⟩ := exists_items texts
  cases items with
  | nil =>
    exact ⟨.command [] (.brackets 0 (.empty [] fun _ member => absurd member List.not_mem_nil)) _
      rfl, rfl, rfl⟩
  | cons first more => exact ⟨.command [] (.brackets 0 (.items first more)) _ rfl, rfl, rfl⟩

theorem exists_enabled (value : Bool) :
    ∃ setting : RefreshSetting, setting.key = .enabled ∧ setting.enabled? = some value := by
  cases value with
  | true =>
    exact ⟨.enabled [] 0 ⟨"true".toList, List.all_eq_true.mp (by decide), by decide, by decide⟩
      true (by decide), rfl, rfl⟩
  | false =>
    exact ⟨.enabled [] 0 ⟨"false".toList, List.all_eq_true.mp (by decide), by decide, by decide⟩
      false (by decide), rfl, rfl⟩

theorem exists_path (isPath : key ≠ .refresh) (gives : (keys.path? key).isSome) :
    ∃ setting : Setting, setting.key = key ∧ setting.Tells keys := by
  obtain ⟨text, isText⟩ := Option.isSome_iff_exists.mp gives
  obtain ⟨quoted, isQuoted⟩ := exists_quoted text
  refine ⟨.path [] key isPath 0 quoted, rfl, ?_, fun isRefresh => absurd isRefresh isPath,
    fun isRefresh => absurd isRefresh isPath⟩
  exact (congrArg some isQuoted).trans isText.symm

theorem exists_refresh (gives : keys.enabled.isSome ∨ keys.command.isSome) :
    ∃ setting : Setting, setting.key = .refresh ∧ setting.Tells keys := by
  cases isEnabled : keys.enabled with
  | none =>
    rw [isEnabled] at gives
    obtain ⟨texts, isCommand⟩ := Option.isSome_iff_exists.mp (gives.resolve_left nofun)
    obtain ⟨command, isKey, areTexts⟩ := exists_command texts
    refine ⟨.refresh [] 0 command [] (List.nodup_singleton _), rfl, rfl, fun _ => ?_, fun _ => ?_⟩
    · simp [Setting.refresh?, isKey, isEnabled]
    · simp [Setting.refresh?, isKey, areTexts, isCommand]
  | some value =>
    obtain ⟨enabled, isFirst, isValue⟩ := exists_enabled value
    cases isCommand : keys.command with
    | none =>
      refine ⟨.refresh [] 0 enabled [] (List.nodup_singleton _), rfl, rfl, fun _ => ?_,
        fun _ => ?_⟩
      · simp [Setting.refresh?, isFirst, isValue, isEnabled]
      · simp [Setting.refresh?, isFirst, isCommand]
    | some texts =>
      obtain ⟨command, isKey, areTexts⟩ := exists_command texts
      have distinct : ([enabled, command].map RefreshSetting.key).Nodup := by
        rw [List.map_cons, List.map_singleton, isFirst, isKey]
        decide
      refine ⟨.refresh [] 0 enabled [command] distinct, rfl, rfl, fun _ => ?_, fun _ => ?_⟩
      · simp [Setting.refresh?, isFirst, isValue, isEnabled]
      · simp [Setting.refresh?, isFirst, isKey, areTexts, isCommand]

/-- What is given under a key can be written there. -/
theorem exists_setting (gives : keys.Gives key) :
    ∃ setting : Setting, setting.key = key ∧ setting.Tells keys := by
  cases key with
  | refresh => exact exists_refresh gives
  | _ => exact exists_path nofun gives

theorem exists_settings (gives : ∀ key ∈ order, keys.Gives key) :
    ∃ settings : List Setting, settings.map Setting.key = order ∧
      ∀ setting ∈ settings, setting.Tells keys := by
  induction order with
  | nil => exact ⟨[], rfl, fun _ member => absurd member List.not_mem_nil⟩
  | cons key others inductionHypothesis =>
    rw [List.forall_mem_cons] at gives
    obtain ⟨setting, isKey, tells⟩ := exists_setting gives.1
    obtain ⟨settings, areKeys, othersTell⟩ := inductionHypothesis gives.2
    exact ⟨setting :: settings, congrArg₂ List.cons isKey areKeys,
      List.forall_mem_cons.mpr ⟨tells, othersTell⟩⟩

/-- Where settings that tell what keys give are laid out, those of a key are found. -/
theorem Layout.find?_of_tells {layout : Layout}
    (given : ∀ key, key ∈ layout.settings.map Setting.key ↔ keys.Gives key)
    (tell : ∀ setting ∈ layout.settings, setting.Tells keys) (key : Key) :
    (layout.find? key).elim (¬keys.Gives key) fun setting =>
      setting.key = key ∧ setting.Tells keys := by
  cases found : layout.find? key with
  | none =>
    intro gives
    obtain ⟨setting, member, isKey⟩ := List.mem_map.mp ((given key).mpr gives)
    exact List.find?_eq_none.mp found setting member (beq_iff_eq.mpr isKey)
  | some setting => exact ⟨key_of_find? found, tell setting (List.mem_of_find?_eq_some found)⟩

/-- Keys can be laid out in any order. -/
theorem exists_layout (keys : Keys) (order : List Key) (distinct : order.Nodup)
    (given : ∀ key, key ∈ order ↔ keys.Gives key) :
    ∃ layout : Layout, layout.settings.map Setting.key = order ∧ layout.keys = keys := by
  obtain ⟨settings, rfl, tell⟩ := exists_settings fun key member => (given key).mp member
  obtain ⟨layout, rfl⟩ : ∃ layout : Layout, layout.settings = settings :=
    ⟨⟨0, settings, [], distinct⟩, rfl⟩
  have isPath (key : Key) (isPath : keys.Gives key ↔ (keys.path? key).isSome) :
      (layout.find? key).bind Setting.path? = keys.path? key := by
    have tells := Layout.find?_of_tells given tell key
    cases found : layout.find? key with
    | none =>
      rw [found] at tells
      exact (Option.not_isSome_iff_eq_none.mp fun isSome => tells (isPath.mpr isSome)).symm
    | some setting =>
      rw [found] at tells
      obtain ⟨rfl, isTold⟩ := tells
      exact isTold.path
  have tells := Layout.find?_of_tells given tell .refresh
  have isEnabled : (layout.refresh? .enabled).bind RefreshSetting.enabled? = keys.enabled := by
    unfold Layout.refresh?
    cases found : layout.find? .refresh with
    | none =>
      rw [found] at tells
      exact (Option.not_isSome_iff_eq_none.mp fun isSome => tells (Or.inl isSome)).symm
    | some setting =>
      rw [found] at tells
      exact tells.2.enabled tells.1
  have isCommand : (layout.refresh? .command).bind RefreshSetting.command? = keys.command := by
    unfold Layout.refresh?
    cases found : layout.find? .refresh with
    | none =>
      rw [found] at tells
      exact (Option.not_isSome_iff_eq_none.mp fun isSome => tells (Or.inr isSome)).symm
    | some setting =>
      rw [found] at tells
      exact tells.2.command tells.1
  refine ⟨layout, rfl, ?_⟩
  unfold Layout.keys
  rw [isPath .iconsDir Iff.rfl, isPath .module Iff.rfl, isPath .outDir Iff.rfl,
    isPath .templatesDir Iff.rfl, isEnabled, isCommand]
  rfl

end Laying

end IconForge.Config
