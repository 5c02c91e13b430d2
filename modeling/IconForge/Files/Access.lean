import IconForge.Files.Tree

/-!
Contract: reading and changing a tree of files along paths.

Owns:
- where a path leads, and why it may lead nowhere;
- reading files, listing directories, writing files, making directories;
- the wording of what can go wrong.

Does not own: what is read or written.
-/

namespace IconForge.Files

/-- Why a tree could not be read or changed along a path. -/
inductive Error where
  | notFound
  | exists
  | notDirectory
  | isDirectory
  | nameTooLong
  /-- The path holds a zero byte, which ends names. -/
  | zeroByte
  /-- The bytes of a file store no text. -/
  | notText
deriving DecidableEq, Repr

namespace Error

def message : Error → String
  | notFound => "No such file or directory (os error 2)"
  | .exists => "File exists (os error 17)"
  | notDirectory => "Not a directory (os error 20)"
  | isDirectory => "Is a directory (os error 21)"
  | nameTooLong => "File name too long (os error 36)"
  | zeroByte => "file name contained an unexpected NUL byte"
  | notText => "stream did not contain valid UTF-8"

end Error

def longestName : Nat := 255

def longestPath : Nat := 4095

namespace Tree

def whyNoDirectory (tree : Tree) (place : Place) : Error :=
  if (tree.get? place).isSome then .notDirectory else .notFound

/-- Where steps lead from a place. Every step is taken from a directory, but
nothing needs to stand where the last one leads. -/
def walk (tree : Tree) (place : Place) : List Step → Except Error Place
  | [] => .ok place
  | step :: rest =>
    if tree.isDirectory place then
      match step with
      | .stay => tree.walk place rest
      | .up => tree.walk place.tail rest
      | .down name =>
        if longestName < name.length then .error .nameTooLong
        else tree.walk (name :: place) rest
    else .error (tree.whyNoDirectory place)

def locate (tree : Tree) (path : Path) : Except Error Place :=
  if path.bytes.contains 0 then .error .zeroByte
  else if path.bytes.isEmpty then .error .notFound
  else if longestPath < path.bytes.length then .error .nameTooLong
  else tree.walk [] path.steps

theorem leadsDown_of_walk {tree : Tree} {steps : List Step} {place behind : Place}
    (fromHere : ∀ name ∈ place, Path.leadsDown name = true)
    (below : ∀ name, .down name ∈ steps → Path.leadsDown name = true)
    (walked : tree.walk place steps = .ok behind) :
    ∀ name ∈ behind, Path.leadsDown name = true := by
  induction steps generalizing place with
  | nil =>
    cases walked
    exact fromHere
  | cons step rest inductionHypothesis =>
    have belowRest (name : Name) (isStep : .down name ∈ rest) : Path.leadsDown name = true :=
      below name (List.mem_cons_of_mem _ isStep)
    unfold walk at walked
    split at walked
    · cases step with
      | stay => exact inductionHypothesis fromHere belowRest walked
      | up =>
        refine inductionHypothesis (fun name member => ?_) belowRest walked
        exact fromHere name (List.mem_of_mem_tail member)
      | down name =>
        simp only at walked
        split at walked
        · cases walked
        · refine inductionHypothesis ?_ belowRest walked
          exact List.forall_mem_cons.mpr ⟨below name List.mem_cons_self, fromHere⟩
    · cases walked

/-- Every name on the way from the top to where a path leads is one that leads
down. -/
theorem leadsDown_of_locate {tree : Tree} {path : Path} {place : Place}
    (located : tree.locate path = .ok place) : ∀ name ∈ place, Path.leadsDown name = true := by
  unfold locate at located
  split at located
  · cases located
  · next noZero =>
    split at located
    · cases located
    · split at located
      · cases located
      · refine leadsDown_of_walk (List.forall_mem_nil _) (fun name isStep => ?_) located
        exact Path.leadsDown_of_mem_steps (Bool.eq_false_iff.mpr noZero) isStep

def lookUp (tree : Tree) (path : Path) : Except Error (Place × Item) := do
  let place ← tree.locate path
  match tree.get? place with
  | none => .error .notFound
  | some (.file content) =>
    if path.endsInSlash then .error .notDirectory else .ok (place, .file content)
  | some .directory => .ok (place, .directory)

def hasAt (tree : Tree) (path : Path) : Bool :=
  match tree.lookUp path with
  | .ok _ => true
  | .error _ => false

def hasFileAt (tree : Tree) (path : Path) : Bool :=
  match tree.lookUp path with
  | .ok (_, .file _) => true
  | _ => false

def hasDirectoryAt (tree : Tree) (path : Path) : Bool :=
  match tree.lookUp path with
  | .ok (_, .directory) => true
  | _ => false

def readBytes (tree : Tree) (path : Path) : Except Error ByteArray := do
  match ← tree.lookUp path with
  | (_, .file content) => .ok content
  | (_, .directory) => .error .isDirectory

def readText (tree : Tree) (path : Path) : Except Error String := do
  let content ← tree.readBytes path
  match String.fromUTF8? content with
  | some text => .ok text
  | none => .error .notText

def directoryAt (tree : Tree) (path : Path) : Except Error Place := do
  match ← tree.lookUp path with
  | (place, .directory) => .ok place
  | (_, .file _) => .error .notDirectory

def list (tree : Tree) (path : Path) : Except Error (List (Name × Item)) := do
  let place ← tree.directoryAt path
  .ok (tree.children place)

/-- The tree with a file's content replaced, or with a new file. -/
def write (tree : Tree) (path : Path) (content : ByteArray) : Except Error Tree :=
  match located : tree.locate path with
  | .error error => .error error
  | .ok [] => .error .isDirectory
  | .ok (name :: parent) =>
    if path.endsInSlash then .error .isDirectory
    else if isDirectory : tree.isDirectory (name :: parent) = true then .error .isDirectory
    else if inDirectory : tree.isDirectory parent = true then
      .ok (tree.put name parent (.file content)
        (leadsDown_of_locate located name List.mem_cons_self) inDirectory
        (Or.inr (Bool.eq_false_iff.mpr isDirectory)))
    else .error (tree.whyNoDirectory parent)

def writeText (tree : Tree) (path : Path) (text : String) : Except Error Tree :=
  tree.write path text.toUTF8

def makeDirectory (tree : Tree) (path : Path) : Except Error Tree :=
  match located : tree.locate path with
  | .error error => .error error
  | .ok [] => .error .exists
  | .ok (name :: parent) =>
    if (tree.get? (name :: parent)).isSome then .error .exists
    else if inDirectory : tree.isDirectory parent = true then
      .ok (tree.put name parent .directory
        (leadsDown_of_locate located name List.mem_cons_self) inDirectory (Or.inl rfl))
    else .error (tree.whyNoDirectory parent)

/-- The tree with a directory and, where they are missing, the directories
above it, whose paths follow from the innermost on. What has been made stays
when a later directory cannot be made. -/
def makeDirectories (tree : Tree) : List Path → Tree × Option Error
  | [] => (tree, none)
  | path :: above =>
    if path.bytes.isEmpty then (tree, none)
    else
      match tree.makeDirectory path with
      | .ok made => (made, none)
      | .error .notFound =>
        match tree.makeDirectories above with
        | (grown, some error) => (grown, some error)
        | (grown, none) =>
          match grown.makeDirectory path with
          | .ok made => (made, none)
          | .error error => (grown, if grown.hasDirectoryAt path then none else some error)
      | .error error => (tree, if tree.hasDirectoryAt path then none else some error)

def makePath (tree : Tree) (path : Path) : Tree × Option Error :=
  tree.makeDirectories path.ancestors

end Tree

end IconForge.Files
