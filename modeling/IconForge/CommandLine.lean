import IconForge.Text.Blank

/-!
Contract: the command line.

Owns:
- the commands, and the options that each of them has;
- the ways in which an option and its value are written;
- what is refused, and which of two faults is found first.

Does not own: what commands do.
-/

namespace IconForge.CommandLine

/-- Why a command line is not carried out. -/
inductive Refusal where
  /-- An argument has no meaning here. -/
  | unknownArgument
  | noValue
  | repeated
  | unneededValue
  | unknownCommand
  /-- There are options but no command. -/
  | noCommand
  | nothing
  | help
  | version
deriving DecidableEq, Repr

/-- What can be given to commands. -/
inductive Key where
  | config
  | icons
  | module
  | out
  | templates
  | skipRefresh
  | force
  | directory
  | help
  | version
deriving DecidableEq, Repr

namespace Key

def long : Key → List Char
  | config => "config".toList
  | icons => "icons".toList
  | module => "module".toList
  | out => "out".toList
  | templates => "templates".toList
  | skipRefresh => "skip-refresh".toList
  | force => "force".toList
  | directory => []
  | help => "help".toList
  | version => "version".toList

def letter? : Key → Option Char
  | config => some 'c'
  | out => some 'o'
  | help => some 'h'
  | version => some 'V'
  | _ => none

/-- Whether an option has a value; one that has none is a switch. -/
def hasValue : Key → Bool
  | config | icons | module | out | templates | directory => true
  | skipRefresh | force | help | version => false

end Key

inductive Name where
  | convert
  | generate
  | build
  | init
deriving DecidableEq, Repr

namespace Name

def all : List Name :=
  [convert, generate, build, init]

def text : Name → String
  | convert => "convert"
  | generate => "generate"
  | build => "build"
  | init => "init"

def ofText? (word : String) : Option Name :=
  all.find? fun name => name.text == word

end Name

/-- Where an argument stands: in front of the command, or behind it. -/
inductive Level where
  | top
  | within (name : Name)
deriving DecidableEq, Repr

namespace Level

def options : Level → List Key
  | top => [.config, .help, .version]
  | within .convert => [.config, .icons, .module, .help]
  | within .generate => [.config, .module, .out, .templates, .skipRefresh, .help]
  | within .build => [.config, .icons, .module, .out, .templates, .skipRefresh, .help]
  | within .init => [.config, .force, .help]

/-- What an argument without a name is, if it can be one. -/
def positional? : Level → Option Key
  | within .init => some .directory
  | _ => none

def ofLong? (level : Level) (name : List Char) : Option Key :=
  level.options.find? fun key => key.long == name

def ofLetter? (level : Level) (letter : Char) : Option Key :=
  level.options.find? fun key => key.letter? == some letter

end Level

/-- What has been read of the arguments of a level. -/
structure Reading where
  /-- What has been accepted, with values; a switch has an empty one. -/
  accepted : List (Key × String)
  /-- An option that is not accepted yet, with its value if that has come. -/
  pending : Option (Key × Option String)
  ended : Bool
deriving DecidableEq, Repr

namespace Reading

def start : Reading where
  accepted := []
  pending := none
  ended := false

def get? (reading : Reading) (key : Key) : Option String :=
  (reading.accepted.find? fun given => given.1 == key).map Prod.snd

/-- Accepts an option, which may not have been given before. -/
def accept (reading : Reading) (key : Key) (value : String) : Except Refusal Reading :=
  if (reading.get? key).isSome then .error .repeated
  else if key.hasValue && value.isEmpty then .error .noValue
  else .ok { reading with accepted := reading.accepted ++ [(key, value)] }

def settle (reading : Reading) : Except Refusal Reading :=
  match reading.pending with
  | none => .ok reading
  | some (_, none) => .error .noValue
  | some (key, some value) => accept { reading with pending := none } key value

def waits (reading : Reading) : Bool :=
  match reading.pending with
  | some (_, none) => true
  | _ => false

def await (reading : Reading) (key : Key) : Except Refusal Reading := do
  let settled ← reading.settle
  .ok { settled with pending := some (key, none) }

def attach (reading : Reading) (key : Key) (value : String) : Except Refusal Reading := do
  let settled ← reading.settle
  settled.accept key value

def switch (reading : Reading) (key : Key) : Except Refusal Reading := do
  let settled ← reading.settle
  match key with
  | .help => .error .help
  | .version => .error .version
  | _ => settled.accept key ""

end Reading

/-- Reads the inside of an argument that starts with two dashes. -/
def readLong (level : Level) (reading : Reading) (inside : List Char) :
    Except Refusal Reading :=
  let name := inside.takeWhile (· != '=')
  let behind := inside.dropWhile (· != '=')
  match level.ofLong? name with
  | none => .error .unknownArgument
  | some key =>
    if key.hasValue then
      match behind with
      | [] => reading.await key
      | _ :: value => reading.attach key (String.ofList value)
    else if behind.isEmpty then reading.switch key
    else .error .unneededValue

/-- Reads the inside of an argument that starts with one dash: letters of
switches, and perhaps the letter of an option with a value, which may follow
at once. -/
def readLetters (level : Level) (reading : Reading) : List Char → Except Refusal Reading
  | [] => .ok reading
  | letter :: rest =>
    match level.ofLetter? letter with
    | none => .error .unknownArgument
    | some key =>
      if key.hasValue then
        match rest with
        | [] => reading.await key
        | '=' :: value => reading.attach key (String.ofList value)
        | value => reading.attach key (String.ofList value)
      else do
        let switched ← reading.switch key
        readLetters level switched rest

def readPlain (level : Level) (reading : Reading) (argument : String) : Except Refusal Reading :=
  match level.positional? with
  | none =>
    match level with
    | .top =>
      if reading.ended && (Name.ofText? argument).isSome then .error .unknownArgument
      else .error .unknownCommand
    | .within _ => .error .unknownArgument
  | some key =>
    if (reading.get? key).isSome || (reading.pending.map Prod.fst) == some key then
      .error .unknownArgument
    else do
      let settled ← reading.settle
      .ok { settled with pending := some (key, some argument) }

def readValue (level : Level) (reading : Reading) (argument : String) : Except Refusal Reading :=
  match reading.pending with
  | some (key, none) => .ok { reading with pending := some (key, some argument) }
  | _ => readPlain level reading argument

def readArgument (level : Level) (reading : Reading) (argument : String) :
    Except Refusal Reading :=
  if reading.ended then readPlain level reading argument
  else
    match argument.toList with
    | ['-', '-'] => .ok { reading with ended := true }
    | '-' :: '-' :: inside => readLong level reading inside
    | '-' :: letter :: rest => readLetters level reading (letter :: rest)
    | _ => readValue level reading argument

def readCommand (name : Name) (arguments : List String) : Except Refusal Reading := do
  let reading ← arguments.foldlM (readArgument (.within name)) Reading.start
  reading.settle

/-! ### What is to be done -/

/-- What collecting is told. -/
structure ConvertOptions where
  icons : Option String
  module : Option String
deriving DecidableEq, Repr

/-- What generating is told. -/
structure GenerateOptions where
  out : Option String
  templates : Option String
  skipRefresh : Bool
deriving DecidableEq, Repr

namespace GenerateOptions

def none : GenerateOptions where
  out := .none
  templates := .none
  skipRefresh := false

end GenerateOptions

/-- A command with its options. -/
inductive Command where
  /-- Collects drawings into the module. -/
  | convert (options : ConvertOptions)
  | generate (module : Option String) (options : GenerateOptions)
  | build (convert : ConvertOptions) (generate : GenerateOptions)
  /-- Writes a sample configuration and the templates. -/
  | init (force : Bool) (directory : Option String)
deriving DecidableEq, Repr

/-- A command line that can be carried out. -/
structure Invocation where
  config : Option String
  command : Command
deriving DecidableEq, Repr

namespace Reading

def convertOptions (reading : Reading) : ConvertOptions where
  icons := reading.get? .icons
  module := reading.get? .module

def generateOptions (reading : Reading) : GenerateOptions where
  out := reading.get? .out
  templates := reading.get? .templates
  skipRefresh := (reading.get? .skipRefresh).isSome

def command (reading : Reading) : Name → Command
  | .convert => .convert reading.convertOptions
  | .generate => .generate (reading.get? .module) reading.generateOptions
  | .build => .build reading.convertOptions reading.generateOptions
  | .init => .init (reading.get? .force).isSome (reading.get? .directory)

end Reading

/-- What a request for help is answered with; the words behind it have to name a
command, and nothing may follow that. -/
def helpRefusal (words : List String) : Refusal :=
  match words with
  | [] => .help
  | [word] =>
    if (Name.ofText? word).isSome || word == "help" then .help else .unknownCommand
  | _ => .unknownCommand

/-- What the end of a command line without a command is answered with. -/
def endRefusal (reading : Reading) : Refusal :=
  match reading.settle with
  | .error refusal => refusal
  | .ok settled => if settled.accepted.isEmpty then .nothing else .noCommand

/-- Reads arguments up to the command and then those of the command. An option
that both have counts where it comes later. -/
def readTop (reading : Reading) : List String → Except Refusal Invocation
  | [] => .error (endRefusal reading)
  | argument :: rest =>
    if reading.ended || reading.waits then do
      let next ← readArgument .top reading argument
      readTop next rest
    else if argument == "help" then .error (helpRefusal rest)
    else
      match Name.ofText? argument with
      | some name => do
        let inner ← readCommand name rest
        let outer ← reading.settle
        .ok ⟨(inner.get? .config).or (outer.get? .config), inner.command name⟩
      | none => do
        let next ← readArgument .top reading argument
        readTop next rest

def parse (arguments : List String) : Except Refusal Invocation :=
  readTop Reading.start arguments

end IconForge.CommandLine
