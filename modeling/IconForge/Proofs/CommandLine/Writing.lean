import IconForge.CommandLine

/-!
Contract: how the settings of a command line are written.

Owns:
- which options each command declares, and what an invocation sets of them;
- the ways to write an option with its value, and a whole command line;
- which arguments name an option that a command does not declare.

Does not own: how a command line is read.
-/

namespace IconForge.CommandLine

/-! ### What is set -/

/-- The options that a command declares, in front of it or behind it. -/
def Name.declared : Name → List Key
  | .convert => [.config, .icons, .module]
  | .generate => [.config, .module, .out, .templates, .skipRefresh]
  | .build => [.config, .icons, .module, .out, .templates, .skipRefresh]
  | .init => [.config, .force, .directory]

/-- A setting, if there is a value for it. -/
def given (key : Key) (value : Option String) : List (Key × String) :=
  value.toList.map fun text => (key, text)

/-- The setting of a switch that is on. -/
def switched (key : Key) (on : Bool) : List (Key × String) :=
  if on then [(key, "")] else []

def ConvertOptions.settings (options : ConvertOptions) : List (Key × String) :=
  given .icons options.icons ++ given .module options.module

def GenerateOptions.settings (options : GenerateOptions) : List (Key × String) :=
  given .out options.out ++ (given .templates options.templates ++
    switched .skipRefresh options.skipRefresh)

namespace Command

def name : Command → Name
  | .convert _ => .convert
  | .generate _ _ => .generate
  | .build _ _ => .build
  | .init _ _ => .init

def settings : Command → List (Key × String)
  | .convert options => options.settings
  | .generate module options => given .module module ++ options.settings
  | .build collecting generating => collecting.settings ++ generating.settings
  | .init force directory => switched .force force ++ given .directory directory

end Command

/-- All that an invocation sets. -/
def Invocation.settings (invocation : Invocation) : List (Key × String) :=
  given .config invocation.config ++ invocation.command.settings

/-! ### How it is written -/

/-- Whether a text is a value that no option is taken for. -/
def IsValue (value : String) : Prop :=
  ∃ c rest, value.toList = c :: rest ∧ c ≠ '-'

/-- The arguments that name an option and leave its value to the next one. -/
inductive Opens : Key → String → Prop
  | long {key : Key} {argument : String} (hasValue : key.hasValue = true)
      (named : key ≠ .directory) (isArgument : argument.toList = '-' :: '-' :: key.long) :
      Opens key argument
  | letter {key : Key} {argument : String} {letter : Char} (hasValue : key.hasValue = true)
      (isLetter : key.letter? = some letter) (isArgument : argument.toList = ['-', letter]) :
      Opens key argument

/-- The arguments that name an option together with its value. -/
inductive Gives : Key → String → String → Prop
  | long {key : Key} {value argument : String} (hasValue : key.hasValue = true)
      (named : key ≠ .directory)
      (isArgument : argument.toList = '-' :: '-' :: (key.long ++ '=' :: value.toList)) :
      Gives key value argument
  | letterEquals {key : Key} {value argument : String} {letter : Char}
      (hasValue : key.hasValue = true) (isLetter : key.letter? = some letter)
      (isArgument : argument.toList = '-' :: letter :: '=' :: value.toList) :
      Gives key value argument
  | letter {key : Key} {value argument : String} {letter : Char} (hasValue : key.hasValue = true)
      (isLetter : key.letter? = some letter) (noEquals : value.toList.head? ≠ some '=')
      (isArgument : argument.toList = '-' :: letter :: value.toList) :
      Gives key value argument
  | switch {key : Key} {argument : String} (noValue : key.hasValue = false)
      (isArgument : argument.toList = '-' :: '-' :: key.long) : Gives key "" argument

/-- The arguments that write a setting. A directory is written without a name. -/
inductive Writes : Key → String → List String → Prop
  | apart {key : Key} {value argument : String} (opens : Opens key argument)
      (isValue : IsValue value) : Writes key value [argument, value]
  | joined {key : Key} {value argument : String} (gives : Gives key value argument)
      (isValue : key.hasValue = true → IsValue value) : Writes key value [argument]
  | plain {value : String} (isValue : IsValue value) : Writes .directory value [value]

/-- The arguments that write settings, in their order. -/
inductive WritesAll : List (Key × String) → List String → Prop
  | nil : WritesAll [] []
  | cons {setting : Key × String} {settings : List (Key × String)} {first rest : List String}
      (writes : Writes setting.1 setting.2 first) (others : WritesAll settings rest) :
      WritesAll (setting :: settings) (first ++ rest)

/-- The arguments that write an invocation: its settings, in any order, around the word for
the command, with nothing in front of that word but, perhaps, the configuration. -/
inductive IsWritten : Invocation → List String → Prop
  | intro {invocation : Invocation} {outer inner : List (Key × String)}
      {front back : List String} (outerKeys : ∀ setting ∈ outer, setting.1 = .config)
      (settings : (outer ++ inner).Perm invocation.settings)
      (isFront : WritesAll outer front) (isBack : WritesAll inner back) :
      IsWritten invocation (front ++ invocation.command.name.text :: back)

/-- The arguments that name an option which a command does not declare, with a value or
without one. -/
inductive IsForeign (name : Name) : String → Prop
  | long {argument : String} {word behind : List Char} (notEmpty : word ≠ [])
      (noEquals : '=' ∉ word) (foreign : ∀ key ∈ name.declared, key.long ≠ word)
      (isEnd : behind.head?.all (· == '=') = true)
      (isArgument : argument.toList = '-' :: '-' :: (word ++ behind)) : IsForeign name argument
  | letter {argument : String} {letter : Char} {behind : List Char} (isLetter : letter ≠ '-')
      (foreign : ∀ key ∈ name.declared, key.letter? ≠ some letter)
      (isArgument : argument.toList = '-' :: letter :: behind) : IsForeign name argument

/-! ### What is written -/

variable {key : Key} {value argument : String} {arguments : List String}
  {settings : List (Key × String)}

theorem IsValue.isEmpty_eq_false (isValue : IsValue value) : value.isEmpty = false := by
  obtain ⟨c, rest, isText, -⟩ := isValue
  rw [String.isEmpty_eq_false_iff]
  rintro rfl
  cases isText

theorem IsValue.ne_dashes (isValue : IsValue value) : value ≠ "--" := by
  obtain ⟨c, rest, isText, noDash⟩ := isValue
  rintro rfl
  cases isText
  exact noDash rfl

theorem Key.long_ne_nil (named : key ≠ .directory) : key.long ≠ [] := by
  cases key <;> first | decide | exact absurd rfl named

theorem Key.noEquals_long (key : Key) : '=' ∉ key.long := by
  cases key <;> decide

theorem Key.letter_ne_dash {letter : Char} (isLetter : key.letter? = some letter) :
    letter ≠ '-' := by
  rintro rfl
  cases key <;> cases isLetter

/-- The arguments that name an option start with a dash, and do not end the options. -/
def IsOption (argument : String) : Prop :=
  ∃ c rest, argument.toList = '-' :: c :: rest ∧ argument ≠ "--"

theorem isOption_long {inside : List Char} (isArgument : argument.toList = '-' :: '-' :: inside)
    (notEmpty : inside ≠ []) : IsOption argument := by
  refine ⟨_, _, isArgument, ?_⟩
  rintro rfl
  cases isArgument
  exact notEmpty rfl

theorem isOption_letter {letter : Char} {rest : List Char}
    (isArgument : argument.toList = '-' :: letter :: rest) (isLetter : letter ≠ '-') :
    IsOption argument := by
  refine ⟨_, _, isArgument, ?_⟩
  rintro rfl
  cases isArgument
  exact isLetter rfl

theorem Opens.isOption (opens : Opens key argument) : IsOption argument := by
  cases opens with
  | long _ named isArgument => exact isOption_long isArgument (Key.long_ne_nil named)
  | letter _ isLetter isArgument => exact isOption_letter isArgument (Key.letter_ne_dash isLetter)

theorem Gives.isOption (gives : Gives key value argument) : IsOption argument := by
  cases gives with
  | long _ named isArgument =>
    exact isOption_long isArgument (List.append_ne_nil_of_right_ne_nil _ (List.cons_ne_nil _ _))
  | letterEquals _ isLetter isArgument =>
    exact isOption_letter isArgument (Key.letter_ne_dash isLetter)
  | letter _ isLetter _ isArgument =>
    exact isOption_letter isArgument (Key.letter_ne_dash isLetter)
  | switch noValue isArgument =>
    refine isOption_long isArgument (Key.long_ne_nil ?_)
    rintro rfl
    cases noValue

theorem IsForeign.isOption {name : Name} (foreign : IsForeign name argument) :
    IsOption argument := by
  cases foreign with
  | long notEmpty _ _ _ isArgument =>
    exact isOption_long isArgument (List.append_ne_nil_of_left_ne_nil notEmpty _)
  | letter isLetter _ isArgument => exact isOption_letter isArgument isLetter

/-- What writes settings does not end the options. -/
theorem Writes.ne_dashes (writes : Writes key value arguments) :
    ∀ argument ∈ arguments, argument ≠ "--" := by
  cases writes with
  | apart opens isValue =>
    obtain ⟨-, -, -, noEnd⟩ := opens.isOption
    exact List.forall_mem_cons.mpr ⟨noEnd, List.forall_mem_singleton.mpr isValue.ne_dashes⟩
  | joined gives _ =>
    obtain ⟨-, -, -, noEnd⟩ := gives.isOption
    exact List.forall_mem_singleton.mpr noEnd
  | plain isValue => exact List.forall_mem_singleton.mpr isValue.ne_dashes

theorem WritesAll.ne_dashes (written : WritesAll settings arguments) :
    ∀ argument ∈ arguments, argument ≠ "--" := by
  induction written with
  | nil => exact List.forall_mem_nil _
  | cons writes _ inductionHypothesis =>
    exact List.forall_mem_append.mpr ⟨writes.ne_dashes, inductionHypothesis⟩

theorem Writes.isEmpty_eq_false (writes : Writes key value arguments)
    (hasValue : key.hasValue = true) : value.isEmpty = false := by
  cases writes with
  | apart _ isValue => exact isValue.isEmpty_eq_false
  | joined _ isValue => exact (isValue hasValue).isEmpty_eq_false
  | plain isValue => exact isValue.isEmpty_eq_false

theorem WritesAll.isEmpty_eq_false (written : WritesAll settings arguments) :
    ∀ setting ∈ settings, setting.1.hasValue = true → setting.2.isEmpty = false := by
  induction written with
  | nil => exact List.forall_mem_nil _
  | cons writes _ inductionHypothesis =>
    exact List.forall_mem_cons.mpr ⟨writes.isEmpty_eq_false, inductionHypothesis⟩

end IconForge.CommandLine
