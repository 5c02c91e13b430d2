import IconForge.Text.Number
import IconForge.Text.Octets
import IconForge.Yaml.Mark

/-!
Contract: the tags of a document.

Owns:
- the characters of names, anchors and tags;
- how a tag is written: in full, or as a name in a family;
- which kind of tag a full name means.

Does not own: which families there are, and what a tag makes of a text.
-/

namespace IconForge.Yaml

def isNameChar (c : Char) : Bool :=
  c.isAlphanum || c == '_' || c == '-'

/-- What a tag says about the kind of a node. -/
inductive Tag where
  | standard (name : String)
  | own (name : String)
  /-- A kind that is known by its full name only. -/
  | foreign (name : String)
deriving DecidableEq, Repr

/-- What the full names of the standard tags start with. -/
def standardStem : String := "tag:yaml.org,2002:"

def Tag.ofFullName (name : String) : Tag :=
  match name.toList with
  | '!' :: rest => .own (String.ofList rest)
  | chars =>
    if standardStem.toList.isPrefixOf chars then
      .standard (String.ofList (chars.drop standardStem.length))
    else .foreign name

/-! ### Names in tags -/

def isTagChar (c : Char) : Bool :=
  isNameChar c || ";/?:@&=+$.!~*'()%".toList.contains c

def isFullTagChar (c : Char) : Bool :=
  isTagChar c || c == ',' || c == '[' || c == ']'

/-- The octets of a name, of which some may be given by two digits behind a
percent sign. -/
def nameOctets? : List Char → Option (List UInt8)
  | [] => some []
  | '%' :: high :: low :: rest => do
    let high ← Text.digitValue? 16 high
    let low ← Text.digitValue? 16 low
    let octets ← nameOctets? rest
    some (UInt8.ofNat (high * 16 + low) :: octets)
  | c :: rest =>
    if c == '%' then none
    else (nameOctets? rest).map fun octets => UInt8.ofNat c.toNat :: octets

/-- Reads a name of the given characters, which may be empty. -/
def readTagName? (isChar : Char → Bool) (text : List Char) : Option (String × List Char) := do
  let octets ← nameOctets? (text.takeWhile isChar)
  let name ← Text.ofOctets? octets
  some (name, text.dropWhile isChar)

/-- Reads the handle of a family: a word between exclamation marks, which may be
empty, or else one exclamation mark. -/
def readHandle? (text : List Char) : Option (String × List Char) :=
  match text with
  | '!' :: rest =>
    match rest.dropWhile isNameChar with
    | '!' :: behind => some ("!" ++ String.ofList (rest.takeWhile isNameChar) ++ "!", behind)
    | _ => some ("!", rest)
  | _ => none

/-- Reads a tag as the handle of a family and a name in it, and gives what is
behind it. Where the tag is written in full, the handle is empty. -/
def readTag? (text : List Char) : Option ((String × String) × List Char) :=
  match text with
  | '!' :: '<' :: rest => do
    let (name, closing) ← readTagName? isFullTagChar rest
    match closing with
    | '>' :: behind => if name.isEmpty then none else some (("", name), behind)
    | _ => none
  | _ => do
    let (handle, rest) ← readHandle? text
    let (name, behind) ← readTagName? isTagChar rest
    if !name.isEmpty then some ((handle, name), behind)
    else if handle == "!" then some (("", "!"), behind)
    else none

end IconForge.Yaml
