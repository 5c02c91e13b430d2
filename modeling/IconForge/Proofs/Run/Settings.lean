import IconForge.Proofs.Config.Keys
import IconForge.Proofs.Task.Steps
import IconForge.Run

/-!
Contract: the settings that commands work with.

Owns:
- which configuration counts, by an option, a variable and the files at hand;
- of each setting, the option, the variable, the key and the default it comes from;
- when bringing the drawings up to date is skipped;
- that a command runs its stages with just these settings, or leaves all files alone.

Main statement: `carryOut_settings`.

Does not own: what stages do.
-/

namespace IconForge

open IconForge.Files

/-! ### Switches -/

section Switches

open IconForge.Text

variable {text front word back : List Char}

theorem dropWhile_of_visible (visible : ∀ c ∈ text, isBlank c = false) :
    text.dropWhile isBlank = text := by
  cases text with
  | nil => rfl
  | cons c rest => exact List.dropWhile_cons_of_neg (by simp [visible c List.mem_cons_self])

/-- Blanks around a text without blanks are all that trimming takes away. -/
theorem trim_of_visible (blank : ∀ c ∈ front ++ back, isBlank c = true)
    (visible : ∀ c ∈ word, isBlank c = false) : trim (front ++ word ++ back) = word := by
  rw [List.forall_mem_append] at blank
  have fromBack : trimEnd (word ++ back) = word := by
    unfold trimEnd dropEndWhile
    rw [List.reverse_append, List.dropWhile_append_of_pos, dropWhile_of_visible,
      List.reverse_reverse]
    · exact fun c member => visible c (List.mem_reverse.mp member)
    · exact fun c member => blank.2 c (List.mem_reverse.mp member)
  unfold trim
  rw [List.append_assoc, List.dropWhile_append_of_pos blank.1]
  cases word with
  | nil =>
    have gone : (back ++ []).dropWhile isBlank = [].dropWhile isBlank :=
      List.dropWhile_append_of_pos blank.2
    rw [List.append_nil] at gone
    rw [List.nil_append, gone]
    rfl
  | cons c rest =>
    rw [List.cons_append, List.dropWhile_cons_of_neg (by simp [visible c List.mem_cons_self])]
    exact fromBack

theorem toLower_of_isBlank {c : Char} (blank : isBlank c = true) : c.toLower = c := by
  unfold Char.toLower
  rw [dif_neg]
  rintro ⟨fromA, toZ⟩
  have low : 65 ≤ c.toNat := fromA
  have high : c.toNat ≤ 90 := toZ
  unfold isBlank at blank
  simp only [Bool.or_eq_true, Bool.and_eq_true, decide_eq_true_eq, beq_iff_eq] at blank
  omega

end Switches

def switchWords : List String :=
  ["1", "true", "on", "yes", "y"]

/-- Whether a text is one of the words that switch something on, with blanks around it
and its ASCII letters in either case. -/
def SwitchesOn (value : String) : Prop :=
  ∃ front word back, value.toList = front ++ word ++ back ∧
    (∀ c ∈ front ++ back, Text.isBlank c = true) ∧
    String.ofList (word.map Char.toLower) ∈ switchWords

theorem isTruthy_iff {value : String} : isTruthy value = true ↔ SwitchesOn value := by
  unfold isTruthy
  rw [List.contains_iff_mem]
  constructor
  · intro isWord
    obtain ⟨front, back, parts, blank⟩ := Text.exists_trim value.toList
    exact ⟨front, _, back, parts, blank, isWord⟩
  · rintro ⟨front, word, back, parts, blank, isWord⟩
    have visibleWords : ∀ listed ∈ switchWords, ∀ c ∈ listed.toList, Text.isBlank c = false := by
      have areVisible : (switchWords.all fun listed =>
          listed.toList.all fun c => !Text.isBlank c) = true := by decide
      simpa only [List.all_eq_true, Bool.not_eq_true'] using areVisible
    have visible : ∀ c ∈ word, Text.isBlank c = false := by
      intro c member
      rw [Bool.eq_false_iff]
      intro isBlank
      have inWord : c ∈ (String.ofList (word.map Char.toLower)).toList := by
        rw [String.toList_ofList, ← toLower_of_isBlank isBlank]
        exact List.mem_map_of_mem member
      rw [visibleWords _ isWord c inWord] at isBlank
      cases isBlank
    rw [parts, trim_of_visible blank visible]
    exact isWord

/-! ### Sources of settings -/

namespace CommandLine.Command

def icons? : Command → Option String
  | .convert options => options.icons
  | .generate .. => none
  | .build options _ => options.icons
  | .init .. => none

def module? : Command → Option String
  | .convert options => options.module
  | .generate module _ => module
  | .build options _ => options.module
  | .init .. => none

def out? : Command → Option String
  | .convert _ => none
  | .generate _ options => options.out
  | .build _ options => options.out
  | .init .. => none

def templates? : Command → Option String
  | .convert _ => none
  | .generate _ options => options.templates
  | .build _ options => options.templates
  | .init .. => none

def skipsRefresh : Command → Bool
  | .convert _ => false
  | .generate _ options => options.skipRefresh
  | .build _ options => options.skipRefresh
  | .init .. => false

end CommandLine.Command

/-- The root of the document in the file that a configuration comes from. -/
def Config.Source.root? (tree : Tree) : Config.Source → Option Yaml.Node
  | .named path | .found path => (tree.readText path).toOption.bind Config.root?
  | .builtIn => none

namespace Run

open IconForge.CommandLine
open IconForge.Template (Engine)

/-- The stages of a command that works with settings. -/
def stages? [Engine] (launcher : Launcher) : Command → Option (Settings → Task Unit)
  | .convert _ => some convert
  | .generate .. => some (generate launcher)
  | .build .. => some (build launcher)
  | .init .. => none

/-- Which configuration counts: that in the file named by an option, or else by a
variable that is not empty, or else that in the first of two files, or else the one built
in. -/
inductive Counts (tree : Tree) (option assigned : Option String) : Config.Source → Prop
  | option {path : String} (given : option = some path) :
      Counts tree option assigned (.named (.ofText path))
  | assigned {path : String} (noOption : option = none) (given : assigned = some path)
      (notEmpty : path ≠ "") : Counts tree option assigned (.named (.ofText path))
  | yaml (noOption : option = none) (unset : assigned = none ∨ assigned = some "")
      (isFile : tree.hasFileAt (.ofText "./zappgen.yaml") = true) :
      Counts tree option assigned (.found (.ofText "./zappgen.yaml"))
  | yml (noOption : option = none) (unset : assigned = none ∨ assigned = some "")
      (noYaml : tree.hasFileAt (.ofText "./zappgen.yaml") = false)
      (isFile : tree.hasFileAt (.ofText "./zappgen.yml") = true) :
      Counts tree option assigned (.found (.ofText "./zappgen.yml"))
  | builtIn (noOption : option = none) (unset : assigned = none ∨ assigned = some "")
      (noYaml : tree.hasFileAt (.ofText "./zappgen.yaml") = false)
      (noYml : tree.hasFileAt (.ofText "./zappgen.yml") = false) :
      Counts tree option assigned .builtIn

/-- The configuration that comes from a source. One that is named has to be in a file. -/
def configOf (tree : Tree) : Config.Source → Except Fault Config
  | .named path =>
    if tree.hasFileAt path = true then Config.read tree path
    else .error (.refused (.noConfigFile path))
  | .found path => Config.read tree path
  | .builtIn => .ok .default

/-- The first of some sources that gives anything, or else the default. -/
def first (sources : List (Option String)) (default : String) : String :=
  (sources.findSome? id).getD default

/-- Settings in which each part comes from its own sources alone. -/
structure AreSettled (command : Command) (environment : Environment) (keys : Config.Keys)
    (settings : Settings) : Prop where
  iconsDir : settings.iconsDir = .ofText
    (first [command.icons?, environment.path? "ZAPPGEN_ICONS_DIR", keys.iconsDir] "core/icons")
  module : settings.module = .ofText
    (first [command.module?, environment.path? "ZAPPGEN_MODULE", keys.module]
      "core/src/index.ts")
  outDir : settings.outDir = .ofText
    (first [command.out?, environment.path? "ZAPPGEN_OUT", keys.outDir] "src")
  templatesDir : settings.templatesDir =
    ([command.templates?, environment.path? "ZAPPGEN_TEMPLATES",
      keys.templatesDir].findSome? id).map Path.ofText
  skipped : settings.refresh = none ↔ command.skipsRefresh = true ∨
    (∃ value, environment.get? "ZAPPGEN_SKIP_REFRESH" = some value ∧ SwitchesOn value) ∨
    keys.enabled = some false
  refreshed : ∀ words, settings.refresh = some words →
    words = keys.command.getD
      ["git", "submodule", "update", "--remote", "--init", "--force", "--recursive"]

variable {tree : Tree} {surroundings : Surroundings} {invocation : Invocation}
  {environment : Environment} {option : Option String} {source : Config.Source}
  {stages : Settings → Task Unit}

/-! ### The configuration -/

theorem path?_of_unset {name : String}
    (unset : environment.get? name = none ∨ environment.get? name = some "") :
    environment.path? name = none := by
  unfold Environment.path?
  rcases unset with missing | isEmpty
  · rw [missing]
    rfl
  · rw [isEmpty]
    rfl

theorem path?_of_set {name value : String} (isSet : environment.get? name = some value)
    (notEmpty : value ≠ "") : environment.path? name = some value := by
  unfold Environment.path?
  rw [isSet]
  simp [notEmpty]

theorem exists_counts (tree : Tree) (option assigned : Option String) :
    ∃ source, Counts tree option assigned source := by
  cases option with
  | some path => exact ⟨_, .option rfl⟩
  | none =>
    by_cases unset : assigned = none ∨ assigned = some ""
    · cases yaml : tree.hasFileAt (.ofText "./zappgen.yaml") with
      | true => exact ⟨_, .yaml rfl unset yaml⟩
      | false =>
        cases yml : tree.hasFileAt (.ofText "./zappgen.yml") with
        | true => exact ⟨_, .yml rfl unset yaml yml⟩
        | false => exact ⟨_, .builtIn rfl unset yaml yml⟩
    · cases assigned with
      | none => exact absurd (Or.inl rfl) unset
      | some path =>
        exact ⟨_, .assigned rfl rfl fun isEmpty => unset (Or.inr (congrArg some isEmpty))⟩

/-- The configuration that counts is the one that is loaded. -/
theorem load_of_counts
    (counts : Counts tree option (environment.get? "ZAPPGEN_CONFIG") source) :
    Config.load tree ((Settings.given option environment "ZAPPGEN_CONFIG").map Path.ofText) here =
      (configOf tree source).map fun config => (config, source) := by
  have yamlPath : here.child "zappgen.yaml" = .ofText "./zappgen.yaml" := by decide
  have ymlPath : here.child "zappgen.yml" = .ofText "./zappgen.yml" := by decide
  have named (path : Path) : Config.load tree (some path) here =
      (configOf tree (.named path)).map fun config => (config, .named path) := by
    unfold Config.load configOf
    simp only
    split <;> rfl
  have unnamed (noOption : option = none) (unset : environment.get? "ZAPPGEN_CONFIG" = none ∨
      environment.get? "ZAPPGEN_CONFIG" = some "") :
      Settings.given option environment "ZAPPGEN_CONFIG" = none := by
    rw [Settings.given, noOption, path?_of_unset unset]
    rfl
  have search : Config.find? tree here =
      [.ofText "./zappgen.yaml", .ofText "./zappgen.yml"].find? tree.hasFileAt := by
    rw [Config.find?, Config.fileNames, List.map_cons, List.map_cons, yamlPath, ymlPath]
    rfl
  cases counts with
  | option given =>
    rw [Settings.given, given]
    exact named _
  | assigned noOption given notEmpty =>
    rw [Settings.given, noOption, path?_of_set given notEmpty]
    exact named _
  | yaml noOption unset isFile =>
    rw [unnamed noOption unset, Option.map_none, Config.load, search,
      List.find?_cons_of_pos isFile]
    rfl
  | yml noOption unset noYaml isFile =>
    rw [unnamed noOption unset, Option.map_none, Config.load, search,
      List.find?_cons_of_neg (by simp [noYaml]), List.find?_cons_of_pos isFile]
    rfl
  | builtIn noOption unset noYaml noYml =>
    rw [unnamed noOption unset, Option.map_none, Config.load, search,
      List.find?_cons_of_neg (by simp [noYaml]), List.find?_cons_of_neg (by simp [noYml])]
    rfl

/-- A configuration is made of the keys in the file that it comes from. -/
theorem exists_keys_of_configOf {config : Config} (comes : configOf tree source = .ok config) :
    ∃ keys, Config.AreKeys (source.root? tree) keys ∧ keys.config = config := by
  have fromFile {path : Path} (isRead : Config.read tree path = .ok config) :
      ∃ keys, Config.AreKeys ((tree.readText path).toOption.bind Config.root?) keys ∧
        keys.config = config := by
    obtain ⟨text, isText, isParsed⟩ := bind_eq_ok_iff.mp isRead
    rw [Task.during_eq_ok_iff] at isText isParsed
    rw [isText]
    exact Config.exists_keys_of_parse isParsed
  cases source with
  | named path =>
    rw [configOf] at comes
    split at comes
    · exact fromFile comes
    · cases comes
  | found path => exact fromFile comes
  | builtIn =>
    cases comes
    exact ⟨⟨none, none, none, none, none, none⟩, ⟨rfl, rfl, rfl, ⟨.start, rfl⟩, rfl, rfl⟩, rfl⟩

/-! ### Settings -/

theorem first_eq (option assigned given : Option String) (default : String) :
    first [option, assigned, given] default = (option.or assigned).getD (given.getD default) := by
  cases option <;> cases assigned <;> cases given <;> rfl

theorem skipsRefresh_iff (options : GenerateOptions) (config : Config) :
    Settings.skipsRefresh options environment config = true ↔ options.skipRefresh = true ∨
      (∃ value, environment.get? "ZAPPGEN_SKIP_REFRESH" = some value ∧ SwitchesOn value) ∨
      config.refresh.enabled = false := by
  have switched : (environment.switch? "ZAPPGEN_SKIP_REFRESH").getD false = true ↔
      ∃ value, environment.get? "ZAPPGEN_SKIP_REFRESH" = some value ∧ SwitchesOn value := by
    unfold Environment.switch?
    cases environment.get? "ZAPPGEN_SKIP_REFRESH" with
    | none => simp
    | some value => simp [isTruthy_iff]
  unfold Settings.skipsRefresh
  rw [Bool.or_eq_true, Bool.or_eq_true, switched, Bool.not_eq_true', or_assoc]

theorem areSettled_effective (command : Command) (environment : Environment)
    (keys : Config.Keys) :
    AreSettled command environment keys
      (.effective keys.config ⟨command.icons?, command.module?⟩
        ⟨command.out?, command.templates?, command.skipsRefresh⟩ environment) where
  iconsDir := congrArg Path.ofText (first_eq _ _ _ _).symm
  module := congrArg Path.ofText (first_eq _ _ _ _).symm
  outDir := congrArg Path.ofText (first_eq _ _ _ _).symm
  templatesDir := by
    have firstOfThree : [command.templates?, environment.path? "ZAPPGEN_TEMPLATES",
        keys.templatesDir].findSome? id =
        (command.templates?.or (environment.path? "ZAPPGEN_TEMPLATES")).or
          keys.config.templatesDir := by
      unfold Config.Keys.config
      generalize command.templates? = option, environment.path? "ZAPPGEN_TEMPLATES" = assigned
      cases option <;> cases assigned <;> cases keys.templatesDir <;> rfl
    rw [firstOfThree]
    rfl
  skipped := by
    have disabled : keys.config.refresh.enabled = false ↔ keys.enabled = some false := by
      unfold Config.Keys.config
      cases keys.enabled <;> simp [RefreshConfig.default]
    rw [← disabled, ← skipsRefresh_iff
      ⟨command.out?, command.templates?, command.skipsRefresh⟩ keys.config]
    unfold Settings.effective
    simp only
    split
    · next skips => exact iff_of_true rfl skips
    · next runs => exact iff_of_false nofun runs
  refreshed := by
    intro words isCommand
    unfold Settings.effective at isCommand
    simp only at isCommand
    split at isCommand
    · cases isCommand
    · cases isCommand
      rfl

/-- A command with stages takes its options for its settings. -/
theorem carryOut_eq [Engine]
    (hasStages : stages? surroundings.launcher invocation.command = some stages) :
    carryOut surroundings invocation = withSettings surroundings invocation
      ⟨invocation.command.icons?, invocation.command.module?⟩
      ⟨invocation.command.out?, invocation.command.templates?, invocation.command.skipsRefresh⟩
      stages := by
  obtain ⟨named, command⟩ := invocation
  cases command with
  | init force directory => cases hasStages
  | _ =>
    cases hasStages
    rfl

theorem perform_withSettings {collecting : ConvertOptions} {generating : GenerateOptions}
    (told : List Notice) :
    (withSettings surroundings invocation collecting generating stages).perform ⟨tree, told⟩ =
      match Config.load tree (namedConfig? invocation surroundings.environment) here with
      | .ok (config, source) =>
        (stages (.effective config collecting generating surroundings.environment)).perform
          ⟨tree, told ++ [.configSource source]⟩
      | .error fault => (.error fault, ⟨tree, told⟩) := by
  unfold withSettings
  rw [Task.perform_bind, Task.perform_tree]
  simp only
  rw [Task.perform_bind, Task.perform_ofExcept]
  cases Config.load tree (namedConfig? invocation surroundings.environment) here <;> rfl

/-- Converting, generating and building look for the configuration that counts. Where it
cannot be had, they fail and leave all files alone. Otherwise they go through their stages
with settings of which each comes from its own option, its own variable, its own key and its
own default, and from nothing else. -/
theorem carryOut_settings [Engine] (surroundings : Surroundings) (invocation : Invocation)
    (tree : Tree) {stages : Settings → Task Unit}
    (hasStages : stages? surroundings.launcher invocation.command = some stages) :
    (∃ source, Counts tree invocation.config
      (surroundings.environment.get? "ZAPPGEN_CONFIG") source) ∧
    ∀ source, Counts tree invocation.config
        (surroundings.environment.get? "ZAPPGEN_CONFIG") source →
      match configOf tree source with
      | .error fault => (carryOut surroundings invocation).Gives tree (.error fault)
      | .ok config => ∃ keys settings,
          Config.AreKeys (source.root? tree) keys ∧ keys.config = config ∧
          AreSettled invocation.command surroundings.environment keys settings ∧
          ∀ told, (carryOut surroundings invocation).perform ⟨tree, told⟩ =
            (stages settings).perform ⟨tree, told ++ [.configSource source]⟩ := by
  refine ⟨exists_counts _ _ _, fun source counts => ?_⟩
  have loads : Config.load tree (namedConfig? invocation surroundings.environment) here =
      (configOf tree source).map fun config => (config, source) :=
    load_of_counts counts
  have performs (told : List Notice) := congrArg (Task.perform · ⟨tree, told⟩)
    (carryOut_eq hasStages)
  simp only [perform_withSettings, loads] at performs
  cases comes : configOf tree source with
  | error fault =>
    rw [comes] at performs
    exact Task.gives_of_perform performs
  | ok config =>
    rw [comes] at performs
    obtain ⟨keys, areKeys, rfl⟩ := exists_keys_of_configOf comes
    exact ⟨keys, _, areKeys, rfl,
      areSettled_effective invocation.command surroundings.environment keys, performs⟩

/-- A project with a configuration that leaves some keys out. -/
def partlyConfigured : Tree :=
  (Tree.empty.writeText (.ofText "zappgen.yaml")
    "module: cfg.ts\nout_dir: cfg-out\nrefresh:\n  enabled: false\n").toOption.getD .empty

/-- Surroundings in which one variable is set and one is empty. -/
def partlySet : Surroundings where
  environment := ⟨[("ZAPPGEN_MODULE", "env.ts"), ("ZAPPGEN_OUT", "")]⟩
  launcher := .basic

theorem carryOut_settings_sample :
    stages? partlySet.launcher (.build ⟨some "svg", none⟩ .none) =
        some (build partlySet.launcher) ∧
      ∃ settings, settings.iconsDir = .ofText "svg" ∧ settings.module = .ofText "env.ts" ∧
        settings.outDir = .ofText "cfg-out" ∧ settings.refresh = none ∧
        (carryOut partlySet ⟨none, .build ⟨some "svg", none⟩ .none⟩).perform
            (.ofTree partlyConfigured) =
          (build partlySet.launcher settings).perform
            ⟨partlyConfigured, [.configSource (.found (.ofText "./zappgen.yaml"))]⟩ := by
  have hasStages : stages? partlySet.launcher (.build ⟨some "svg", none⟩ .none) =
      some (build partlySet.launcher) := rfl
  have isFile : partlyConfigured.hasFileAt (.ofText "./zappgen.yaml") = true := by decide +kernel
  have comes : configOf partlyConfigured (.found (.ofText "./zappgen.yaml")) =
      .ok ⟨"core/icons", "cfg.ts", "cfg-out", none, ⟨false, RefreshConfig.default.command⟩⟩ := by
    decide +kernel
  have settles := (carryOut_settings partlySet ⟨none, .build ⟨some "svg", none⟩ .none⟩
    partlyConfigured hasStages).2 _ (.yaml rfl (Or.inl rfl) isFile)
  rw [comes] at settles
  obtain ⟨keys, settings, -, isConfig, areSettled, performs⟩ := settles
  have outDir : keys.outDir.getD "src" = "cfg-out" := congrArg Config.outDir isConfig
  have enabled : keys.enabled.getD true = false :=
    congrArg (fun config => config.refresh.enabled) isConfig
  refine ⟨hasStages, settings, areSettled.iconsDir, areSettled.module, ?_, ?_, performs []⟩
  · rw [areSettled.outDir, first_eq]
    exact congrArg Path.ofText outDir
  · refine areSettled.skipped.mpr (Or.inr (Or.inr ?_))
    cases given : keys.enabled with
    | none =>
      rw [given] at enabled
      cases enabled
    | some value =>
      rw [given] at enabled
      exact congrArg some enabled

end Run

end IconForge
