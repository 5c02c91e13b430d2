import IconForge.Text.Blank
import IconForge.Text.Octets

/-!
Contract: names and paths.

Owns:
- a name's parts in front of and behind its last dot;
- the names under which something can stand in a directory;
- joining paths, and the paths above a path;
- the steps that a path takes.

Does not own: what is found along a path.
-/

namespace IconForge.Files

open IconForge.Text

/-- The name of a file or a directory, in bytes. -/
abbrev Name := List UInt8

namespace Name

def ofText (text : String) : Name :=
  octets text

def text (name : Name) : String :=
  readable name

def dot : UInt8 := 0x2E

/-- A name cut at its last dot. A dot in front cuts nothing. -/
def cut (name : Name) : Name × Option Name :=
  let ending := (name.reverse.takeWhile (· != dot)).reverse
  let front := (name.reverse.dropWhile (· != dot)).tail.reverse
  if front.isEmpty then (name, none) else (front, some ending)

/-- The part of a name in front of its extension. -/
def stem (name : Name) : Name :=
  name.cut.1

def extension? (name : Name) : Option Name :=
  name.cut.2

/-- Whether one name comes before another or is the same: names are ordered by
their bytes. -/
def precedes : Name → Name → Bool
  | [], _ => true
  | _ :: _, [] => false
  | a :: first, b :: second => a < b || (a == b && precedes first second)

end Name

/-- A path as it is written, in bytes. -/
structure Path where
  bytes : List UInt8
deriving DecidableEq, Repr, Inhabited

/-- One step of a path. -/
inductive Step where
  | stay
  | up
  | down (name : Name)
deriving DecidableEq, Repr

def Step.ofPart (part : Name) : Step :=
  if part = [Name.dot] then .stay
  else if part = [Name.dot, Name.dot] then .up
  else .down part

namespace Path

def slash : UInt8 := 0x2F

def ofText (text : String) : Path where
  bytes := octets text

def text (path : Path) : String :=
  readable path.bytes

theorem text_ofText (written : String) : (ofText written).text = written :=
  readable_octets written

def isAbsolute (path : Path) : Bool :=
  path.bytes.head? == some slash

/-- Whether a path ends in a slash, so that it can only lead to a directory. -/
def endsInSlash (path : Path) : Bool :=
  path.bytes.getLast? == some slash

/-- A path followed from another one. A path that starts at the top does not
depend on where it is followed from. -/
def join (path followed : Path) : Path :=
  if followed.isAbsolute then followed
  else if path.bytes.isEmpty || path.endsInSlash then ⟨path.bytes ++ followed.bytes⟩
  else ⟨path.bytes ++ slash :: followed.bytes⟩

def child (path : Path) (name : String) : Path :=
  path.join (ofText name)

def parts (path : Path) : List Name :=
  splitAt (· == slash) path.bytes

def steps (path : Path) : List Step :=
  (path.parts.filter fun part => !part.isEmpty).map Step.ofPart

/-- Whether a part of a path leads from a directory to something in it: it is
no dots that lead elsewhere, and holds neither a slash nor the byte that ends
names. -/
def leadsDown (part : Name) : Bool :=
  !part.isEmpty && part != [Name.dot] && part != [Name.dot, Name.dot] &&
    !part.contains slash && !part.contains 0

theorem leadsDown_of_mem_steps {path : Path} (noZero : path.bytes.contains 0 = false)
    {name : Name} (isStep : Step.down name ∈ path.steps) : leadsDown name = true := by
  rw [steps, List.mem_map] at isStep
  obtain ⟨part, isPart, isName⟩ := isStep
  obtain ⟨member, notEmpty⟩ := List.mem_filter.mp isPart
  have bytes := Text.mem_splitAt member
  have noSlash : part.contains slash = false := by
    rw [Bool.eq_false_iff, Ne, List.contains_iff_mem]
    intro inPart
    exact absurd (bytes slash inPart).1 (by decide)
  have noEnd : part.contains 0 = false := by
    rw [Bool.eq_false_iff, Ne, List.contains_iff_mem] at noZero ⊢
    exact fun inPart => noZero (bytes 0 inPart).2
  unfold Step.ofPart at isName
  split at isName
  · cases isName
  · next notDot =>
    split at isName
    · cases isName
    · next notDots =>
      cases isName
      simp only [leadsDown, notEmpty, noSlash, noEnd, bne_iff_ne, ne_eq, notDot, notDots,
        Bool.and_eq_true, not_false_eq_true, Bool.not_false, and_self]

/-- Whether a part of a path behind its first part leads anywhere else. -/
def isProper (part : Name) : Bool :=
  !part.isEmpty && part != [Name.dot]

/-- The beginnings of a path that end in a part that leads anywhere else, given
what is in front of the parts, from the shortest to the longest. -/
def beginnings (front : List UInt8) : List Name → List (List UInt8)
  | [] => []
  | part :: rest =>
    let here := front ++ part
    let longer := beginnings (here ++ [slash]) rest
    if isProper part then here :: longer else longer

/-- The beginnings of a path at which directories stand, from the shortest to
the longest; a dot counts as one in front only. -/
def stations (path : Path) : List (List UInt8) :=
  match path.parts with
  | [] => []
  | first :: rest =>
    let longer := beginnings (first ++ [slash]) rest
    if first.isEmpty then longer else first :: longer

/-- A path and the paths above it, up to the top or to the empty path. -/
def ancestors (path : Path) : List Path :=
  let top : Path := if path.isAbsolute then ⟨[slash]⟩ else ⟨[]⟩
  match path.stations.reverse with
  | [] => [path]
  | _ :: above => path :: above.map Path.mk ++ [top]

/-- The path of the directory that a path's last part stands in. -/
def parent? (path : Path) : Option Path :=
  path.ancestors[1]?

end Path

end IconForge.Files
