import IconForge.Keyed
import IconForge.Proofs.CommandLine.Refusing

/-!
Contract: whole command lines.

Owns:
- that the order in which settings are written makes no difference to what they set;
- that a command line which writes an invocation is read back as this invocation;
- that no option can be added to it which the command does not declare.

Main statement: `parse_of_isWritten`.

Does not own: command lines that give an option more than once, or none that they need.
-/

namespace IconForge.CommandLine

variable {key : Key} {value argument foreign : String} {front back arguments : List String}
  {settings outer inner : List (Key × String)} {reading next : Reading} {name : Name}
  {invocation : Invocation}

/-! ### What settings set -/

theorem get?_eq (reading : Reading) (key : Key) :
    reading.get? key = Keyed.get? key reading.accepted := by
  unfold Reading.get?
  induction reading.accepted with
  | nil => rfl
  | cons entry rest inductionHypothesis =>
    rw [Keyed.get?, List.find?_cons]
    by_cases isKey : entry.1 = key
    · rw [if_pos isKey, beq_iff_eq.mpr isKey]
      rfl
    · rw [if_neg isKey, beq_false_of_ne isKey]
      exact inductionHypothesis

theorem keys_given (key : Key) (value : Option String) :
    ((given key value).map Prod.fst).Sublist [key] := by
  cases value with
  | none => exact List.nil_sublist _
  | some text => exact List.Sublist.refl _

theorem keys_switched (key : Key) (on : Bool) :
    ((switched key on).map Prod.fst).Sublist [key] := by
  cases on with
  | false => exact List.nil_sublist _
  | true => exact List.Sublist.refl _

/-- A command sets nothing but what it declares behind the configuration, each of it at
most once. -/
theorem keys_command (command : Command) :
    (command.settings.map Prod.fst).Sublist command.name.declared.tail := by
  cases command <;>
    simp only [Command.settings, ConvertOptions.settings, GenerateOptions.settings,
      List.map_append]
  case convert => exact (keys_given _ _).append (keys_given _ _)
  case generate =>
    exact (keys_given _ _).append ((keys_given _ _).append ((keys_given _ _).append
      (keys_switched _ _)))
  case build =>
    exact ((keys_given _ _).append (keys_given _ _)).append ((keys_given _ _).append
      ((keys_given _ _).append (keys_switched _ _)))
  case init => exact (keys_switched _ _).append (keys_given _ _)

theorem declared_eq (name : Name) : name.declared = .config :: name.declared.tail := by
  cases name <;> rfl

theorem nodup_declared (name : Name) : name.declared.Nodup := by
  cases name <;> decide

theorem keys_settings (invocation : Invocation) :
    (invocation.settings.map Prod.fst).Sublist invocation.command.name.declared := by
  rw [declared_eq, Invocation.settings, List.map_append]
  exact (keys_given .config invocation.config).append (keys_command invocation.command)

theorem get?_given (wanted key : Key) (value : Option String) :
    Keyed.get? wanted (given key value) = if key = wanted then value else none := by
  cases value with
  | none => exact (ite_self _).symm
  | some text => rfl

theorem get?_switched (wanted key : Key) (on : Bool) :
    Keyed.get? wanted (switched key on) =
      if key = wanted then if on then some "" else none else none := by
  cases on with
  | false => exact (ite_self _).symm
  | true => rfl

/-- A command is made up again of what it sets. -/
theorem command_of_settings {command : Command}
    (same : ∀ key, key ≠ .config → reading.get? key = Keyed.get? key command.settings) :
    reading.command command.name = command := by
  have switch (on : Bool) : (if on then some "" else none : Option String).isSome = on := by
    cases on <;> rfl
  have icons := same .icons (by decide)
  have module := same .module (by decide)
  have out := same .out (by decide)
  have templates := same .templates (by decide)
  have skipRefresh := same .skipRefresh (by decide)
  have force := same .force (by decide)
  have directory := same .directory (by decide)
  cases command <;>
    simp only [Command.settings, ConvertOptions.settings, GenerateOptions.settings,
      Keyed.get?_append, get?_given, get?_switched, reduceCtorEq, if_false, if_true,
      Option.none_or, Option.or_none]
      at icons module out templates skipRefresh force directory <;>
    simp only [Command.name, Reading.command, Reading.convertOptions, Reading.generateOptions,
      icons, module, out, templates, skipRefresh, force, directory, switch]

theorem config_notMem_command (command : Command) :
    .config ∉ command.settings.map Prod.fst := by
  intro member
  have distinct := nodup_declared command.name
  rw [declared_eq, List.nodup_cons] at distinct
  exact distinct.1 ((keys_command command).subset member)

/-- What has been read of the settings of an invocation, some of them in front of the
command and the others behind it, in any order, is the invocation. -/
theorem invocation_of_perm (outerKeys : ∀ setting ∈ outer, setting.1 = .config)
    (perm : (outer ++ inner).Perm invocation.settings)
    (distinct : (invocation.settings.map Prod.fst).Nodup) (isInner : reading.accepted = inner)
    (isOuter : next.accepted = outer) :
    Invocation.mk ((reading.get? .config).or (next.get? .config))
      (reading.command invocation.command.name) = invocation := by
  have config : (reading.get? .config).or (next.get? .config) = invocation.config := by
    rw [get?_eq, get?_eq, isInner, isOuter, ← Keyed.get?_append,
      ← Keyed.get?_of_perm (perm.symm.trans List.perm_append_comm) distinct, Invocation.settings,
      Keyed.get?_append, get?_given, if_pos rfl,
      Keyed.get?_eq_none_iff.mpr (config_notMem_command _), Option.or_none]
  have command : reading.command invocation.command.name = invocation.command := by
    refine command_of_settings fun key otherKey => ?_
    have absent : key ∉ outer.map Prod.fst := by
      intro member
      obtain ⟨setting, isSetting, isKey⟩ := List.mem_map.mp member
      exact otherKey (isKey.symm.trans (outerKeys setting isSetting))
    have together : Keyed.get? key invocation.settings = Keyed.get? key (outer ++ inner) :=
      Keyed.get?_of_perm perm.symm distinct
    rw [Invocation.settings, Keyed.get?_append, Keyed.get?_append, get?_given,
      if_neg (Ne.symm otherKey), Keyed.get?_eq_none_iff.mpr absent, Option.none_or,
      Option.none_or] at together
    rw [get?_eq, isInner, together]
  rw [config, command]

/-! ### Arguments in front of the command -/

theorem ofText?_text (name : Name) : Name.ofText? name.text = some name := by
  cases name <;> decide

theorem ofText?_of_isOption (isOption : IsOption argument) : Name.ofText? argument = none := by
  obtain ⟨c, rest, isArgument, -⟩ := isOption
  unfold Name.ofText?
  rw [List.find?_eq_none]
  intro name _ isName
  have sameText := congrArg String.toList (beq_iff_eq.mp isName)
  rw [isArgument] at sameText
  cases name <;> cases sameText

theorem readTop_option (isOption : IsOption argument) (rest : List String) :
    readTop reading (argument :: rest) =
      readArgument .top reading argument >>= fun next => readTop next rest := by
  have noHelp : (argument == "help") = false := by
    obtain ⟨c, following, isArgument, -⟩ := isOption
    rw [beq_eq_false_iff_ne]
    rintro rfl
    cases isArgument
  rw [readTop, noHelp, ofText?_of_isOption isOption]
  split <;> rfl

theorem readTop_waits (waits : reading.waits = true) (rest : List String) :
    readTop reading (argument :: rest) =
      readArgument .top reading argument >>= fun next => readTop next rest := by
  rw [readTop, waits, Bool.or_true, if_pos rfl]

theorem readTop_name (running : reading.ended = false) (waits : reading.waits = false)
    (name : Name) (rest : List String) :
    readTop reading (name.text :: rest) =
      readCommand name rest >>= fun inner => reading.settle >>= fun outer =>
        .ok ⟨(inner.get? .config).or (outer.get? .config), inner.command name⟩ := by
  have noHelp : (name.text == "help") = false := by cases name <;> decide
  rw [readTop, running, waits, noHelp, ofText?_text]
  rfl

/-- A stretch of arguments in front of the command, each of which is read there. -/
inductive Walks : Reading → List String → Reading → Prop
  | done (reading : Reading) : Walks reading [] reading
  | step {reading next last : Reading} {argument : String} {rest : List String}
      (noEnd : argument ≠ "--") (isRead : reading.waits = true ∨ IsOption argument)
      (isNext : readArgument .top reading argument = .ok next) (others : Walks next rest last) :
      Walks reading (argument :: rest) last

namespace Walks

variable {last : Reading}

theorem readTop_eq (walks : Walks reading front last) (rest : List String) :
    readTop reading (front ++ rest) = readTop last rest := by
  induction walks with
  | done => rfl
  | step _ isRead isNext _ inductionHypothesis =>
    rw [List.cons_append]
    rcases isRead with waits | isOption
    · rw [readTop_waits waits, isNext]
      exact inductionHypothesis
    · rw [readTop_option isOption, isNext]
      exact inductionHypothesis

theorem ended_eq (walks : Walks reading front last) : last.ended = reading.ended := by
  induction walks with
  | done => rfl
  | step noEnd _ isNext _ inductionHypothesis =>
    rw [inductionHypothesis, keepsEnd_readArgument _ noEnd _ isNext]

theorem trans (walks : Walks reading front next) (others : Walks next back last) :
    Walks reading (front ++ back) last := by
  induction walks with
  | done => exact others
  | step noEnd isRead isNext _ inductionHypothesis =>
    exact .step noEnd isRead isNext (inductionHypothesis others)

theorem left (walks : Walks reading (front ++ back) last) :
    ∃ between, Walks reading front between := by
  induction front generalizing reading with
  | nil => exact ⟨reading, .done reading⟩
  | cons argument rest inductionHypothesis =>
    cases walks with
    | step noEnd isRead isNext others =>
      obtain ⟨between, isBetween⟩ := inductionHypothesis others
      exact ⟨between, .step noEnd isRead isNext isBetween⟩

end Walks

theorem walks_of_writes (writes : Writes .config value arguments)
    (holds : reading.Holds settings) (fit : Fit (settings ++ [(.config, value)])) :
    ∃ last, Walks reading arguments last ∧ last.Holds (settings ++ [(.config, value)]) := by
  have declared : .config ∈ Level.top.declared := List.mem_cons_self
  cases writes with
  | apart opens isValue =>
    obtain ⟨-, -, -, noEnd⟩ := opens.isOption
    refine ⟨_, ?_, .pending settings .config value⟩
    exact .step noEnd (Or.inr opens.isOption) (readArgument_opens holds fit.left declared opens)
      (.step isValue.ne_dashes (Or.inl rfl) (readArgument_awaited isValue) (.done _))
  | joined gives _ =>
    obtain ⟨-, -, -, noEnd⟩ := gives.isOption
    refine ⟨_, ?_, .settled _⟩
    exact .step noEnd (Or.inr gives.isOption) (readArgument_gives holds fit declared gives)
      (.done _)

theorem walks_of_writesAll (written : WritesAll outer front) (holds : reading.Holds settings)
    (fit : Fit (settings ++ outer)) (outerKeys : ∀ setting ∈ outer, setting.1 = .config) :
    ∃ last, Walks reading front last ∧ last.Holds (settings ++ outer) := by
  induction written generalizing reading settings with
  | nil =>
    rw [List.append_nil]
    exact ⟨reading, .done reading, holds⟩
  | @cons setting others first rest writes _ inductionHypothesis =>
    rw [List.forall_mem_cons] at outerKeys
    obtain ⟨key, value⟩ := setting
    cases outerKeys.1
    rw [List.append_cons] at fit ⊢
    obtain ⟨between, isBetween, holdsBetween⟩ := walks_of_writes writes holds fit.left
    obtain ⟨last, isLast, holdsLast⟩ := inductionHypothesis holdsBetween fit outerKeys.2
    exact ⟨last, isBetween.trans isLast, holdsLast⟩

/-- In front of the command, an option that the command does not declare is refused. -/
theorem isRefused_readTop (running : reading.ended = false) (isForeign : IsForeign name foreign)
    (more : List String) : IsRefused (readTop reading (foreign :: more)) := by
  have declared : Level.top.declared ⊆ name.declared := by
    rw [declared_eq]
    exact List.cons_subset_cons _ (List.nil_subset _)
  obtain ⟨refusal, isRefusal⟩ := isRefused_readArgument declared running isForeign
  rw [readTop_option isForeign.isOption, isRefusal]
  exact ⟨refusal, rfl⟩

/-! ### Command lines -/

/-- A command line that writes an invocation is read back as this invocation, whatever the
order of its settings and the way in which each is written. An option that the command does
not declare is refused wherever it is added, with whatever behind it. -/
theorem parse_of_isWritten (written : IsWritten invocation arguments) :
    parse arguments = .ok invocation ∧
      ∀ front back foreign more, arguments = front ++ back →
        IsForeign invocation.command.name foreign →
        IsRefused (parse (front ++ foreign :: more)) := by
  obtain @⟨outer, inner, outside, behind, outerKeys, perm, isFront, isBack⟩ := written
  have distinct := (keys_settings invocation).nodup (nodup_declared _)
  have distinctAll := (perm.map Prod.fst).nodup_iff.mpr distinct
  have declared : ∀ setting ∈ inner, setting.1 ∈ invocation.command.name.declared := by
    intro setting member
    have isSetting := perm.mem_iff.mp (List.mem_append_right outer member)
    exact (keys_settings invocation).subset (List.mem_map_of_mem isSetting)
  rw [List.map_append] at distinctAll
  obtain ⟨distinctOuter, distinctInner, -⟩ := List.nodup_append.mp distinctAll
  have fit : Fit outer := ⟨distinctOuter, isFront.isEmpty_eq_false⟩
  have run : ∃ last, Walks Reading.start outside last ∧ last.Holds outer :=
    walks_of_writesAll isFront (.settled []) fit outerKeys
  obtain ⟨last, walks, holds⟩ := run
  constructor
  · unfold parse
    rw [walks.readTop_eq, readTop_name holds.running holds.waits_eq_false,
      readCommand_of_writesAll isBack distinctInner declared, holds.settle fit]
    exact congrArg Except.ok (invocation_of_perm outerKeys perm distinct rfl rfl)
  · intro front back foreign more isSplit isForeign
    unfold parse
    rcases List.append_eq_append_iff.mp isSplit with
      ⟨following, isFollowing, isRest⟩ | ⟨following, isOutside, -⟩
    · cases following with
      | nil =>
        rw [List.append_nil] at isFollowing
        rw [isFollowing, walks.readTop_eq]
        exact isRefused_readTop holds.running isForeign more
      | cons word taken =>
        obtain ⟨rfl, isBehind⟩ := List.cons.inj isRest
        rw [isBehind] at isBack
        have noEnd : ∀ argument ∈ taken, argument ≠ "--" := fun argument member =>
          isBack.ne_dashes argument (List.mem_append_left _ member)
        obtain ⟨refusal, isRefusal⟩ := isRefused_readCommand noEnd isForeign more
        rw [isFollowing, List.append_assoc, List.cons_append, walks.readTop_eq,
          readTop_name holds.running holds.waits_eq_false, isRefusal]
        exact ⟨refusal, rfl⟩
    · rw [isOutside] at walks
      obtain ⟨between, isBetween⟩ := walks.left
      rw [isBetween.readTop_eq]
      exact isRefused_readTop isBetween.ended_eq isForeign more

/-- An invocation whose configuration is named as a command is. -/
def sampleInvocation : Invocation where
  config := some "build"
  command := .build ⟨some "a=b", none⟩ ⟨some "gen", none, true⟩

theorem isWritten_sample :
    IsWritten sampleInvocation
      (["-c", "build"] ++ "build" :: ["--skip-refresh", "--icons=a=b", "-ogen"]) := by
  have isConfig : IsValue "build" := ⟨_, _, rfl, by decide⟩
  have isIcons : IsValue "a=b" := ⟨_, _, rfl, by decide⟩
  have isOut : IsValue "gen" := ⟨_, _, rfl, by decide⟩
  have config : Writes .config "build" ["-c", "build"] := .apart (.letter rfl rfl rfl) isConfig
  have skipRefresh : Writes .skipRefresh "" ["--skip-refresh"] := .joined (.switch rfl rfl) nofun
  have icons : Writes .icons "a=b" ["--icons=a=b"] :=
    .joined (.long rfl (by decide) rfl) fun _ => isIcons
  have out : Writes .out "gen" ["-ogen"] :=
    .joined (.letter rfl rfl (by decide) rfl) fun _ => isOut
  have front : WritesAll [(.config, "build")] (["-c", "build"] ++ []) := .cons config .nil
  have back : WritesAll [(.skipRefresh, ""), (.icons, "a=b"), (.out, "gen")]
      (["--skip-refresh"] ++ (["--icons=a=b"] ++ (["-ogen"] ++ []))) :=
    .cons skipRefresh (.cons icons (.cons out .nil))
  exact .intro (by decide) (by decide) front back

theorem parse_of_isWritten_sample :
    parse ["-c", "build", "build", "--skip-refresh", "--icons=a=b", "-ogen"] =
        .ok sampleInvocation ∧
      IsForeign .build "--force" ∧
      IsRefused (parse ["-c", "build", "build", "--skip-refresh", "--force", "--icons=a=b",
        "-ogen"]) := by
  obtain ⟨isRead, refused⟩ := parse_of_isWritten isWritten_sample
  have isForeign : IsForeign .build "--force" :=
    @IsForeign.long .build "--force" "force".toList [] (by decide) (by decide) (by decide) rfl rfl
  exact ⟨isRead, isForeign,
    refused ["-c", "build", "build", "--skip-refresh"] ["--icons=a=b", "-ogen"] "--force"
      ["--icons=a=b", "-ogen"] rfl isForeign⟩

end IconForge.CommandLine
