import IconForge.Config.Decode
import IconForge.Proofs.Outcome

/-!
Contract: the keys of a configuration, each by itself.

Owns:
- what a configuration gives under its keys, and the defaults for those that are
  left out;
- the field of a record under a name, and that reading a record sets what this field
  holds, whatever the other ones hold;
- the keys of a configuration that has been read.

Main statements: `readFields_sets`, `exists_keys_of_parse`.

Does not own: how documents are written.
-/

namespace IconForge.Config

open IconForge.Yaml

/-! ### Keys -/

/-- What a configuration gives, key by key; what is left out is nothing. -/
structure Keys where
  iconsDir : Option String
  module : Option String
  outDir : Option String
  templatesDir : Option String
  enabled : Option Bool
  command : Option (List String)
deriving DecidableEq, Repr

/-- The configuration that gives some keys: those that are left out have their
defaults. -/
def Keys.config (keys : Keys) : Config where
  iconsDir := keys.iconsDir.getD default.iconsDir
  module := keys.module.getD default.module
  outDir := keys.outDir.getD default.outDir
  templatesDir := keys.templatesDir.or default.templatesDir
  refresh := {
    enabled := keys.enabled.getD RefreshConfig.default.enabled
    command := keys.command.getD RefreshConfig.default.command }

/-! ### Fields of documents -/

def nameOf? : Node → Option String
  | .text _ _ _ name => some name
  | _ => none

def valueOf? (name : String) (fields : List (Node × Node)) : Option Node :=
  (fields.find? fun field => nameOf? field.1 == some name).map Prod.snd

/-- What a record holds under a name. -/
def field? (name : String) : Node → Option Node
  | .record _ fields => valueOf? name fields
  | _ => none

/-- The root of the document that a text holds; a blank text holds none. -/
def root? (text : String) : Option Node :=
  if (Text.trim text.toList).isEmpty then none else (Document.ofText text).root

/-- Keys that a root gives: each of them is read from the field under its name alone,
and is left out with it. A templates directory that is nothing is left out, too. -/
structure AreKeys (root : Option Node) (keys : Keys) : Prop where
  iconsDir : (root.bind (field? "icons_dir")).map (readPath [.field "icons_dir"]) =
    keys.iconsDir.map .ok
  module : (root.bind (field? "module")).map (readPath [.field "module"]) = keys.module.map .ok
  outDir : (root.bind (field? "out_dir")).map (readPath [.field "out_dir"]) = keys.outDir.map .ok
  templatesDir : ∃ record,
    ((root.bind (field? "templates_dir")).map
      (readOptionalPath record [.field "templates_dir"])).getD (.ok none) = .ok keys.templatesDir
  enabled : ((root.bind (field? "refresh")).bind (field? "enabled")).map
      (readBoolean [.field "refresh", .field "enabled"]) = keys.enabled.map .ok
  command : ((root.bind (field? "refresh")).bind (field? "command")).map
      (readTexts [.field "refresh", .field "command"]) = keys.command.map .ok

/-! ### Reading records -/

/-- Under a name, a record sets what is read there, and nothing else does. -/
structure Shape.Sets {κ σ τ : Type} (shape : Shape κ σ) (name : String) (get : σ → τ)
    (read : Mark → List Step → Node → Decoded τ) : Prop where
  fills : ∀ {key record path node settings filled},
    Keyed.get? name shape.keys = some key →
    shape.fill record path key node settings = .ok filled →
    read record path node = .ok (get filled)
  keeps : ∀ {other key record path node settings filled}, other ≠ name →
    Keyed.get? other shape.keys = some key →
    shape.fill record path key node settings = .ok filled → get filled = get settings

section Reading

variable {κ σ τ : Type} {shape : Shape κ σ} {name : String} {get : σ → τ}
  {read : Mark → List Step → Node → Decoded τ} {record : Mark} {path : List Step}
  {given : List String} {settings filled : σ} {fields : List (Node × Node)} {node : Node}

theorem mismatch_ne_ok {α : Type} {expected : String} {value : α} :
    mismatch path expected node ≠ .ok value := by
  cases node with
  | text mark isPlain tag text =>
    unfold mismatch
    simp only
    split <;> exact nofun
  | _ => exact nofun

theorem readKey_eq_ok {key : κ} (isRead : shape.readKey path node = .ok (name, key)) :
    nameOf? node = some name ∧ Keyed.get? name shape.keys = some key := by
  cases node with
  | text mark isPlain tag text =>
    unfold Shape.readKey at isRead
    simp only at isRead
    split at isRead
    · next found =>
      cases isRead
      exact ⟨rfl, found⟩
    · cases isRead
  | _ =>
    unfold Shape.readKey at isRead
    exact absurd isRead mismatch_ne_ok

/-- A record that is read sets under each name what the first field with this name
holds; a name that has been given before is not there again. -/
theorem readFields_sets (sets : shape.Sets name get read)
    (isRead : shape.readFields record path given settings fields = .ok filled) :
    match valueOf? name fields with
    | some node => name ∉ given ∧ read record (path ++ [.field name]) node = .ok (get filled)
    | none => get filled = get settings := by
  induction fields generalizing given settings with
  | nil =>
    cases isRead
    rfl
  | cons field rest inductionHypothesis =>
    obtain ⟨keyNode, valueNode⟩ := field
    rw [Shape.readFields] at isRead
    obtain ⟨⟨found, key⟩, isKey, isRead⟩ := bind_eq_ok_iff.mp isRead
    obtain ⟨isName, isKnown⟩ := readKey_eq_ok isKey
    simp only at isRead
    split at isRead
    · cases isRead
    · next notGiven =>
      obtain ⟨between, isFilled, isRead⟩ := bind_eq_ok_iff.mp isRead
      have behind := inductionHypothesis isRead
      rw [List.contains_iff_mem] at notGiven
      by_cases same : found = name
      · subst same
        have here : valueOf? found ((keyNode, valueNode) :: rest) = some valueNode := by
          simp [valueOf?, isName]
        rw [here]
        refine ⟨notGiven, ?_⟩
        -- A second field with this name would have been refused.
        cases again : valueOf? found rest with
        | some node =>
          rw [again] at behind
          exact absurd List.mem_cons_self behind.1
        | none =>
          rw [again] at behind
          rw [sets.fills isKnown isFilled]
          exact congrArg Except.ok behind.symm
      · have later : valueOf? name ((keyNode, valueNode) :: rest) = valueOf? name rest := by
          simp [valueOf?, isName, same]
        rw [later]
        have kept := sets.keeps same isKnown isFilled
        cases again : valueOf? name rest with
        | some node =>
          rw [again] at behind
          exact ⟨fun isGiven => behind.1 (List.mem_cons_of_mem _ isGiven), behind.2⟩
        | none =>
          rw [again] at behind
          exact behind.trans kept

/-- What a record, or something left out, sets under a name. -/
theorem read_sets (sets : shape.Sets name get read)
    (isRead : shape.read path settings node = .ok filled) :
    match field? name node with
    | some value => ∃ record, read record (path ++ [.field name]) value = .ok (get filled)
    | none => get filled = get settings := by
  cases node with
  | record mark fields =>
    have holds := readFields_sets sets isRead
    rw [field?]
    cases isValue : valueOf? name fields with
    | some value =>
      rw [isValue] at holds
      exact ⟨mark, holds.2⟩
    | none =>
      rw [isValue] at holds
      exact holds
  | _ =>
    unfold Shape.read at isRead
    simp only at isRead
    split at isRead
    · cases isRead
      rfl
    · exact absurd isRead mismatch_ne_ok

/-- What a key sets, if it sets something of its own and no other key does. -/
theorem sets_of_key (names : κ → String) (distinct : Function.Injective names)
    (known : ∀ {name key}, Keyed.get? name shape.keys = some key → name = names key) (key : κ)
    (fills : ∀ {record path node settings filled},
      shape.fill record path key node settings = .ok filled →
      read record path node = .ok (get filled))
    (keeps : ∀ {other record path node settings filled}, other ≠ key →
      shape.fill record path other node settings = .ok filled → get filled = get settings) :
    shape.Sets (names key) get read where
  fills isKnown isFilled := by
    cases distinct (known isKnown)
    exact fills isFilled
  keeps different isKnown isFilled := by
    refine keeps (fun same => different ?_) isFilled
    rw [known isKnown, same]

end Reading

/-! ### Reading configurations -/

/-- What is read and then put into place can be taken from there. -/
theorem eq_ok_of_map {α σ : Type} {first : Decoded α} {put : α → σ} {get : σ → α} {filled : σ}
    (gets : ∀ value, get (put value) = value) (isFilled : first.map put = .ok filled) :
    first = .ok (get filled) := by
  obtain ⟨value, isRead, rfl⟩ := map_eq_ok_iff.mp isFilled
  rw [isRead, gets]

def RefreshKey.name : RefreshKey → String
  | .enabled => "enabled"
  | .command => "command"

theorem RefreshKey.name_injective : Function.Injective RefreshKey.name := by
  intro key other same
  cases key <;> cases other <;> first | rfl | exact absurd same (by decide)

theorem refreshKey_known {name : String} {key : RefreshKey}
    (known : Keyed.get? name refreshShape.keys = some key) : name = key.name := by
  have listed : (name, key) ∈ [("enabled", RefreshKey.enabled), ("command", .command)] :=
    Keyed.mem_of_get? known
  simp only [List.mem_cons, Prod.mk.injEq, List.not_mem_nil, or_false] at listed
  rcases listed with ⟨rfl, rfl⟩ | ⟨rfl, rfl⟩ <;> rfl

/-- Whether two settings have the same under a key. -/
def RefreshKey.Agrees : RefreshKey → RefreshConfig → RefreshConfig → Prop
  | .enabled, one, other => one.enabled = other.enabled
  | .command, one, other => one.command = other.command

theorem agrees_of_fillRefresh {record : Mark} {path : List Step} {key other : RefreshKey}
    {node : Node} {settings filled : RefreshConfig} (different : other ≠ key)
    (isFilled : refreshShape.fill record path other node settings = .ok filled) :
    key.Agrees filled settings := by
  cases other <;> obtain ⟨value, -, rfl⟩ := map_eq_ok_iff.mp isFilled <;> cases key <;>
    first | rfl | exact absurd rfl different

theorem sets_enabled : refreshShape.Sets "enabled" RefreshConfig.enabled fun _ => readBoolean :=
  sets_of_key RefreshKey.name RefreshKey.name_injective refreshKey_known .enabled
    (fun isFilled => eq_ok_of_map (fun _ => rfl) isFilled) agrees_of_fillRefresh

theorem sets_command : refreshShape.Sets "command" RefreshConfig.command fun _ => readTexts :=
  sets_of_key RefreshKey.name RefreshKey.name_injective refreshKey_known .command
    (fun isFilled => eq_ok_of_map (fun _ => rfl) isFilled) agrees_of_fillRefresh

def Key.name : Key → String
  | .iconsDir => "icons_dir"
  | .module => "module"
  | .outDir => "out_dir"
  | .templatesDir => "templates_dir"
  | .refresh => "refresh"

theorem Key.name_injective : Function.Injective Key.name := by
  intro key other same
  cases key <;> cases other <;> first | rfl | exact absurd same (by decide)

theorem key_known {name : String} {key : Key}
    (known : Keyed.get? name shape.keys = some key) : name = key.name := by
  have listed : (name, key) ∈ keys := Keyed.mem_of_get? known
  simp only [keys, List.mem_cons, Prod.mk.injEq, List.not_mem_nil, or_false] at listed
  rcases listed with ⟨rfl, rfl⟩ | ⟨rfl, rfl⟩ | ⟨rfl, rfl⟩ | ⟨rfl, rfl⟩ | ⟨rfl, rfl⟩ <;> rfl

/-- Whether two configurations have the same under a key. -/
def Key.Agrees : Key → Config → Config → Prop
  | .iconsDir, one, other => one.iconsDir = other.iconsDir
  | .module, one, other => one.module = other.module
  | .outDir, one, other => one.outDir = other.outDir
  | .templatesDir, one, other => one.templatesDir = other.templatesDir
  | .refresh, one, other => one.refresh = other.refresh

/-- What is put into place under one key leaves the other ones alone. -/
theorem agrees_of_fill {record : Mark} {path : List Step} {key other : Key} {node : Node}
    {settings filled : Config} (different : other ≠ key)
    (isFilled : shape.fill record path other node settings = .ok filled) :
    key.Agrees filled settings := by
  cases other <;> obtain ⟨value, -, rfl⟩ := map_eq_ok_iff.mp isFilled <;> cases key <;>
    first | rfl | exact absurd rfl different

theorem sets_iconsDir : shape.Sets "icons_dir" Config.iconsDir fun _ => readPath :=
  sets_of_key Key.name Key.name_injective key_known .iconsDir
    (fun isFilled => eq_ok_of_map (fun _ => rfl) isFilled) agrees_of_fill

theorem sets_module : shape.Sets "module" Config.module fun _ => readPath :=
  sets_of_key Key.name Key.name_injective key_known .module
    (fun isFilled => eq_ok_of_map (fun _ => rfl) isFilled) agrees_of_fill

theorem sets_outDir : shape.Sets "out_dir" Config.outDir fun _ => readPath :=
  sets_of_key Key.name Key.name_injective key_known .outDir
    (fun isFilled => eq_ok_of_map (fun _ => rfl) isFilled) agrees_of_fill

theorem sets_templatesDir :
    shape.Sets "templates_dir" Config.templatesDir readOptionalPath :=
  sets_of_key Key.name Key.name_injective key_known .templatesDir
    (fun isFilled => eq_ok_of_map (fun _ => rfl) isFilled) agrees_of_fill

theorem sets_refresh : shape.Sets "refresh" Config.refresh fun _ path =>
    refreshShape.read path RefreshConfig.default :=
  sets_of_key Key.name Key.name_injective key_known .refresh
    (fun isFilled => eq_ok_of_map (fun _ => rfl) isFilled) agrees_of_fill

/-! ### The keys of a configuration -/

/-- What a shape reads from a root that may be missing: then nothing is set. -/
def Shape.ReadsRoot {κ σ : Type} (shape : Shape κ σ) (path : List Step) (defaults : σ)
    (root : Option Node) (filled : σ) : Prop :=
  root.elim (filled = defaults) fun node => shape.read path defaults node = .ok filled

section Root

variable {κ σ τ : Type} {shape : Shape κ σ} {name : String} {get : σ → τ} {path : List Step}
  {defaults filled : σ} {root : Option Node}

theorem Shape.Sets.atRoot {read : Mark → List Step → Node → Decoded τ}
    (sets : shape.Sets name get read) (isRead : shape.ReadsRoot path defaults root filled) :
    match root.bind (field? name) with
    | some value => ∃ record, read record (path ++ [.field name]) value = .ok (get filled)
    | none => get filled = get defaults := by
  cases root with
  | none => exact congrArg get isRead
  | some node => exact read_sets sets isRead

/-- What is set under a name is what is read there, or the default. -/
theorem Shape.Sets.exists_value {read : List Step → Node → Decoded τ}
    (sets : shape.Sets name get fun _ => read)
    (isRead : shape.ReadsRoot path defaults root filled) :
    ∃ value : Option τ, (root.bind (field? name)).map (read (path ++ [.field name])) =
      value.map .ok ∧ value.getD (get defaults) = get filled := by
  have holds := sets.atRoot isRead
  cases isField : root.bind (field? name) with
  | none =>
    rw [isField] at holds
    exact ⟨none, rfl, holds.symm⟩
  | some node =>
    rw [isField] at holds
    obtain ⟨-, isValue⟩ := holds
    exact ⟨some (get filled), congrArg some isValue, rfl⟩

end Root

theorem readsRoot_of_parse {text : String} {config : Config} (parsed : parse text = .ok config) :
    shape.ReadsRoot [] default (root? text) config := by
  unfold parse at parsed
  unfold root?
  split at parsed
  · next blank =>
    cases parsed
    rw [if_pos blank]
    rfl
  · next notBlank =>
    rw [if_neg notBlank]
    unfold ofDocument at parsed
    cases root : (Document.ofText text).root with
    | none =>
      rw [root] at parsed
      obtain ⟨read, isRead, isSound⟩ := bind_eq_ok_iff.mp parsed
      cases isRead
      split at isSound
      · cases isSound
        rfl
      · cases isSound
    | some node =>
      rw [root] at parsed
      obtain ⟨read, isRead, isSound⟩ := bind_eq_ok_iff.mp parsed
      split at isSound
      · cases isSound
        exact isRead
      · cases isSound

/-- A configuration that a text holds is made of what the text gives under the keys, each
by itself. -/
theorem exists_keys_of_parse {text : String} {config : Config}
    (parsed : parse text = .ok config) :
    ∃ keys, AreKeys (root? text) keys ∧ keys.config = config := by
  have isRead := readsRoot_of_parse parsed
  obtain ⟨iconsDir, isIconsDir, iconsDirSet⟩ := sets_iconsDir.exists_value isRead
  obtain ⟨module, isModule, moduleSet⟩ := sets_module.exists_value isRead
  obtain ⟨outDir, isOutDir, outDirSet⟩ := sets_outDir.exists_value isRead
  have refreshRead : refreshShape.ReadsRoot [.field "refresh"] RefreshConfig.default
      ((root? text).bind (field? "refresh")) config.refresh := by
    have holds := sets_refresh.atRoot isRead
    cases isField : (root? text).bind (field? "refresh") with
    | none =>
      rw [isField] at holds
      exact holds
    | some node =>
      rw [isField] at holds
      obtain ⟨-, isRefresh⟩ := holds
      exact isRefresh
  obtain ⟨enabled, isEnabled, enabledSet⟩ := sets_enabled.exists_value refreshRead
  obtain ⟨command, isCommand, commandSet⟩ := sets_command.exists_value refreshRead
  have templatesRead : ∃ record, (((root? text).bind (field? "templates_dir")).map
      (readOptionalPath record [.field "templates_dir"])).getD (.ok none) =
        .ok config.templatesDir := by
    have holds := sets_templatesDir.atRoot isRead
    cases isField : (root? text).bind (field? "templates_dir") with
    | none =>
      rw [isField] at holds
      exact ⟨.start, congrArg Except.ok holds.symm⟩
    | some node =>
      rw [isField] at holds
      exact holds
  refine ⟨⟨iconsDir, module, outDir, config.templatesDir, enabled, command⟩,
    ⟨isIconsDir, isModule, isOutDir, templatesRead, isEnabled, isCommand⟩, ?_⟩
  have templatesSet : config.templatesDir.or default.templatesDir = config.templatesDir :=
    Option.or_none
  unfold Keys.config
  simp only [iconsDirSet, moduleSet, outDirSet, templatesSet, enabledSet, commandSet]

end IconForge.Config
