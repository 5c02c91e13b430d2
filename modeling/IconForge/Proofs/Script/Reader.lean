import IconForge.Json5.Value
import IconForge.Script.Literal

/-!
Contract: expressions of a script as a reader of the script's language takes
them.

Owns:
- the characters of which identifiers are made, which depend on the version of
  Unicode beyond ASCII;
- the tokens of a text, with any gaps between them;
- expressions that create elements, and a machine that puts tokens together,
  one at a time.

Does not own: the trees from which expressions are written.
-/

namespace IconForge.Script.Reader

open IconForge.Text

/-! ### Identifiers -/

/-- The characters with which identifiers start and go on. Beyond ASCII they
are any that a version of Unicode has as such. -/
structure Alphabet where
  starts : Char → Bool
  continues : Char → Bool
  starts_ascii : ∀ c, c.toNat < 0x80 → starts c = isIdentifierStart c
  continues_ascii : ∀ c, c.toNat < 0x80 → continues c = isIdentifierPart c

namespace Alphabet

/-- The alphabet with the letters and other characters of words that are known
to the reader of modules. -/
def unicode : Alphabet where
  starts c := if c.toNat < 0x80 then isIdentifierStart c else Letter.letters.contains c
  continues c :=
    if c.toNat < 0x80 then isIdentifierPart c
    else Letter.letters.contains c || Letter.continuations.contains c
  starts_ascii := fun _ isAscii => if_pos isAscii
  continues_ascii := fun _ isAscii => if_pos isAscii

def isIdentifier (alphabet : Alphabet) (text : String) : Bool :=
  match text.toList with
  | [] => false
  | c :: rest => alphabet.starts c && rest.all alphabet.continues

end Alphabet

/-! ### Tokens -/

inductive Token where
  | word (name : String)
  | number (value : Nat)
  | string (value : String)
  | mark (c : Char)
deriving DecidableEq, Repr

def isMark (c : Char) : Bool :=
  c == '(' || c == ')' || c == '[' || c == ']' || c == '\x7b' || c == '\x7d' || c == ',' ||
    c == ':' || c == '.'

/-- The value of a string literal's pieces, if they have one. -/
def stringValue? (pieces : List Json5.Piece) : Option String :=
  (Json5.stringOf pieces).toOption

/-- The tokens of a text; none if it holds something that is no token. -/
def tokens? (alphabet : Alphabet) (text : List Char) : Option (List Token) :=
  match text with
  | [] => some []
  | c :: rest =>
    if alphabet.starts c then
      let name := c :: rest.takeWhile alphabet.continues
      (tokens? alphabet (rest.dropWhile alphabet.continues)).map
        (.word (String.ofList name) :: ·)
    else if Json5.isGap c then tokens? alphabet rest
    else if c.isDigit then
      let digits := c :: rest.takeWhile Char.isDigit
      (tokens? alphabet (rest.dropWhile Char.isDigit)).map
        (.number (Nat.ofDigitChars 10 digits 0) :: ·)
    else if c = '"' then
      match _cut : Json5.cutString? '"' rest with
      | none => none
      | some (pieces, behind) =>
        (stringValue? pieces).bind fun value =>
          (tokens? alphabet behind).map (.string value :: ·)
    else if isMark c then (tokens? alphabet rest).map (.mark c :: ·)
    else none
termination_by text.length
decreasing_by
  · have notLonger := (List.dropWhile_sublist (l := rest) alphabet.continues).length_le
    rw [List.length_cons]
    omega
  · simp
  · have notLonger := (List.dropWhile_sublist (l := rest) Char.isDigit).length_le
    rw [List.length_cons]
    omega
  · have shorter := Json5.length_lt_of_cutString? _cut
    rw [List.length_cons]
    omega
  · simp

/-! ### Expressions -/

/-- The value of a property. -/
inductive PropValue where
  | number (value : Nat)
  | text (value : String)
deriving DecidableEq, Repr

/-- An expression: an element that is created from a tag, given by names with
dots between them, from properties, and from what may stand behind them. -/
inductive Expression where
  | null
  | text (value : String)
  | list (items : List Expression)
  | create (tag : List String) (props : Option (List (String × PropValue)))
      (arguments : List Expression)
deriving Repr, Inhabited

/-- What an unfinished list or call holds so far. -/
inductive Frame where
  | list (items : List Expression)
  | create (tag : List String) (props : Option (List (String × PropValue)))
      (arguments : List Expression)
deriving Repr

/-- What is due next. -/
inductive Due where
  | value
  /-- An item of a list, or the end of the list. -/
  | item (items : List Expression)
  | itemEnd (items : List Expression)
  /-- What follows the names of what is called. -/
  | called (names : List String)
  | calledName (names : List String)
  | tagName (names : List String)
  /-- What follows the names of a tag. -/
  | tagEnd (names : List String)
  | props (tag : List String)
  /-- The name of a property, or the end of the properties. -/
  | prop (tag : List String) (props : List (String × PropValue))
  | colon (tag : List String) (props : List (String × PropValue)) (name : String)
  | propValue (tag : List String) (props : List (String × PropValue)) (name : String)
  | propEnd (tag : List String) (props : List (String × PropValue))
  /-- A comma in front of an argument, or the end of the call. -/
  | argumentEnd (tag : List String) (props : Option (List (String × PropValue)))
      (arguments : List Expression)
  /-- Nothing: the expression is complete. -/
  | nothing (expression : Expression)
deriving Repr

/-- What is due next, and the lists and calls around it, innermost first. -/
structure Machine where
  due : Due
  frames : List Frame
deriving Repr

/-- The name of the function that creates elements. -/
def creator : List String := ["React", "createElement"]

namespace Machine

def start : Machine where
  due := .value
  frames := []

/-- The machine after a complete expression inside the given frames. -/
def complete (expression : Expression) (frames : List Frame) : Machine :=
  match frames with
  | [] => ⟨.nothing expression, []⟩
  | .list items :: outer => ⟨.itemEnd (items ++ [expression]), outer⟩
  | .create tag props arguments :: outer =>
    ⟨.argumentEnd tag props (arguments ++ [expression]), outer⟩

/-- Reads a token with which an expression starts, inside the given frames. -/
def startValue? (frames : List Frame) (token : Token) : Option Machine :=
  match token with
  | .string value => some (complete (.text value) frames)
  | .word name =>
    if name = "null" then some (complete .null frames) else some ⟨.called [name], frames⟩
  | .mark '[' => some ⟨.item [], frames⟩
  | _ => none

def step? (machine : Machine) (token : Token) : Option Machine :=
  match machine.due, token with
  | .value, _ => startValue? machine.frames token
  | .item items, .mark ']' => some (complete (.list items) machine.frames)
  | .item items, _ => startValue? (.list items :: machine.frames) token
  | .itemEnd items, .mark ',' => some ⟨.item items, machine.frames⟩
  | .itemEnd items, .mark ']' => some (complete (.list items) machine.frames)
  | .called names, .mark '.' => some ⟨.calledName names, machine.frames⟩
  | .called names, .mark '(' =>
    if names = creator then some ⟨.tagName [], machine.frames⟩ else none
  | .calledName names, .word name => some ⟨.called (names ++ [name]), machine.frames⟩
  | .tagName names, .word name => some ⟨.tagEnd (names ++ [name]), machine.frames⟩
  | .tagEnd names, .mark '.' => some ⟨.tagName names, machine.frames⟩
  | .tagEnd names, .mark ',' => some ⟨.props names, machine.frames⟩
  | .props tag, .mark '\x7b' => some ⟨.prop tag [], machine.frames⟩
  | .props tag, .word name =>
    if name = "null" then some ⟨.argumentEnd tag none [], machine.frames⟩ else none
  | .prop tag props, .mark '\x7d' => some ⟨.argumentEnd tag (some props) [], machine.frames⟩
  | .prop tag props, .word name => some ⟨.colon tag props name, machine.frames⟩
  | .prop tag props, .string name => some ⟨.colon tag props name, machine.frames⟩
  | .colon tag props name, .mark ':' => some ⟨.propValue tag props name, machine.frames⟩
  | .propValue tag props name, .number value =>
    some ⟨.propEnd tag (props ++ [(name, .number value)]), machine.frames⟩
  | .propValue tag props name, .string value =>
    some ⟨.propEnd tag (props ++ [(name, .text value)]), machine.frames⟩
  | .propEnd tag props, .mark ',' => some ⟨.prop tag props, machine.frames⟩
  | .propEnd tag props, .mark '\x7d' => some ⟨.argumentEnd tag (some props) [], machine.frames⟩
  | .argumentEnd tag props arguments, .mark ',' =>
    some ⟨.value, .create tag props arguments :: machine.frames⟩
  | .argumentEnd tag props arguments, .mark ')' =>
    some (complete (.create tag props arguments) machine.frames)
  | _, _ => none

def run? (machine : Machine) (tokens : List Token) : Option Machine :=
  tokens.foldlM step? machine

end Machine

/-- The expression that a whole text is, if it is one. -/
def Expression.read? (alphabet : Alphabet) (text : String) : Option Expression := do
  let tokens ← tokens? alphabet text.toList
  let machine ← Machine.start.run? tokens
  match machine.due with
  | .nothing expression => some expression
  | _ => none

end IconForge.Script.Reader
