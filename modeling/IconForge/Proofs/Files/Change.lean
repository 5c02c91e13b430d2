import IconForge.Proofs.Files.Access

/-!
Contract: what changes along paths leave alone.

Owns:
- trees that differ by new directories, and the paths to these;
- trees that differ by a file besides;
- that directories stay, and with them the places to which paths lead;
- paths along which a file can be written without making directories.

Main statements: `makePath_growsAlong`, `saves_of_write`, `Saves.keepsDirectories`,
`write_of_isReady`.

Does not own: which changes a run makes.
-/

namespace IconForge.Files.Tree

variable {tree before between behind : Tree} {place there other : Place} {path : Path}
  {steps : List Step} {content : ByteArray}

/-! ### Directories that stay -/

def KeepsDirectories (before behind : Tree) : Prop :=
  ∀ place, before.isDirectory place = true → behind.isDirectory place = true

namespace KeepsDirectories

theorem trans (first : KeepsDirectories before between) (second : KeepsDirectories between behind) :
    KeepsDirectories before behind :=
  fun place present => second place (first place present)

variable (keeps : KeepsDirectories before behind)
include keeps

/-- A way through directories can be walked as long as they stay. -/
theorem walk (walked : before.walk place steps = .ok there) :
    behind.walk place steps = .ok there := by
  induction steps generalizing place with
  | nil => exact walked
  | cons step rest inductionHypothesis =>
    rw [walk_cons] at walked ⊢
    split at walked
    · next present =>
      rw [if_pos (keeps _ present)]
      cases step with
      | stay => exact inductionHypothesis walked
      | up => exact inductionHypothesis walked
      | down name =>
        simp only at walked ⊢
        split at walked
        · cases walked
        · next short =>
          rw [if_neg short]
          exact inductionHypothesis walked
    · cases walked

theorem locate (located : before.locate path = .ok place) : behind.locate path = .ok place := by
  rw [locate_eq_ok_iff] at located ⊢
  exact ⟨located.1, keeps.walk located.2⟩

end KeepsDirectories

/-! ### Files that stay -/

/-- Every file is still there, with its content. -/
def KeepsFiles (before behind : Tree) : Prop :=
  ∀ place content, before.get? place = some (.file content) →
    behind.get? place = some (.file content)

namespace KeepsFiles

theorem refl (tree : Tree) : KeepsFiles tree tree :=
  fun _ _ stands => stands

theorem trans (first : KeepsFiles before between) (second : KeepsFiles between behind) :
    KeepsFiles before behind :=
  fun place content stands => second place content (first place content stands)

/-- What is found along a path is found again as long as files and directories stay. -/
theorem hasAt (keeps : KeepsFiles before behind) (directories : KeepsDirectories before behind)
    (present : before.hasAt path = true) : behind.hasAt path = true := by
  obtain ⟨place, item, found⟩ := hasAt_iff.mp present
  obtain ⟨located, stands, fits⟩ := lookUp_eq_ok_iff.mp found
  refine hasAt_iff.mpr ⟨place, item, lookUp_eq_ok_iff.mpr
    ⟨directories.locate located, ?_, fits⟩⟩
  cases item with
  | file content => exact keeps place content stands
  | directory => exact isDirectory_iff.mp (directories place (isDirectory_iff.mpr stands))

end KeepsFiles

/-! ### New directories -/

/-- Whether a place is as it was, or a directory where nothing was. -/
def IsKeptAt (before behind : Tree) (place : Place) : Prop :=
  behind.get? place = before.get? place ∨
    before.get? place = none ∧ behind.get? place = some .directory

/-- One tree is another one with nothing but new directories. -/
def Grows (before behind : Tree) : Prop :=
  ∀ place, IsKeptAt before behind place

/-- No file has appeared, none has vanished, and none has another content. -/
def SameFiles (before behind : Tree) : Prop :=
  ∀ place content,
    behind.get? place = some (.file content) ↔ before.get? place = some (.file content)

namespace IsKeptAt

theorem trans (first : IsKeptAt before between place) (second : IsKeptAt between behind place) :
    IsKeptAt before behind place := by
  rcases first with same | ⟨wasFree, made⟩
  · rcases second with alsoSame | ⟨free, made⟩
    · exact Or.inl (alsoSame.trans same)
    · exact Or.inr ⟨same ▸ free, made⟩
  · rcases second with alsoSame | ⟨free, -⟩
    · exact Or.inr ⟨wasFree, alsoSame.trans made⟩
    · rw [free] at made
      cases made

theorem get?_eq {item : Item} (kept : IsKeptAt before behind place)
    (stands : before.get? place = some item) : behind.get? place = some item := by
  rcases kept with same | ⟨wasFree, -⟩
  · exact same.trans stands
  · rw [wasFree] at stands
    cases stands

/-- A file stands at a place that is kept exactly if it has stood there before. -/
theorem file_iff (kept : IsKeptAt before behind place) :
    behind.get? place = some (.file content) ↔ before.get? place = some (.file content) := by
  refine ⟨fun stands => ?_, kept.get?_eq⟩
  rcases kept with same | ⟨-, made⟩
  · exact same.symm.trans stands
  · rw [made] at stands
    cases stands

end IsKeptAt

namespace Grows

theorem refl (tree : Tree) : Grows tree tree :=
  fun _ => Or.inl rfl

theorem trans (first : Grows before between) (second : Grows between behind) :
    Grows before behind :=
  fun place => (first place).trans (second place)

theorem keepsDirectories (grows : Grows before behind) : KeepsDirectories before behind := by
  intro place present
  rw [isDirectory_iff] at present ⊢
  exact (grows place).get?_eq present

theorem readBytes (grows : Grows before behind) (isRead : before.readBytes path = .ok content) :
    behind.readBytes path = .ok content := by
  unfold Tree.readBytes at isRead ⊢
  cases found : before.lookUp path with
  | error error =>
    rw [found] at isRead
    cases isRead
  | ok reached =>
    obtain ⟨place, item⟩ := reached
    obtain ⟨located, stands, fits⟩ := lookUp_eq_ok_iff.mp found
    have stillFound : behind.lookUp path = .ok (place, item) :=
      lookUp_eq_ok_iff.mpr
        ⟨grows.keepsDirectories.locate located, (grows place).get?_eq stands, fits⟩
    rw [found] at isRead
    rw [stillFound]
    exact isRead

theorem sameFiles (grows : Grows before behind) : SameFiles before behind :=
  fun place _ => (grows place).file_iff

theorem keepsFiles (grows : Grows before behind) : KeepsFiles before behind :=
  fun place _ stands => (grows place).get?_eq stands

end Grows

/-- One tree is another one with nothing but new directories, each of which
stands where one of some paths leads. -/
structure GrowsAlong (paths : List Path) (before behind : Tree) : Prop where
  grows : Grows before behind
  along : ∀ place, before.get? place = none → behind.get? place = some .directory →
    ∃ path ∈ paths, behind.locate path = .ok place

namespace GrowsAlong

variable {paths more : List Path}

theorem refl (paths : List Path) (tree : Tree) : GrowsAlong paths tree tree where
  grows := .refl tree
  along := by
    intro place free present
    rw [free] at present
    cases present

theorem mono (grows : GrowsAlong paths before behind) (within : ∀ path ∈ paths, path ∈ more) :
    GrowsAlong more before behind where
  grows := grows.grows
  along := by
    intro place free present
    obtain ⟨path, isPath, located⟩ := grows.along place free present
    exact ⟨path, within path isPath, located⟩

theorem trans (first : GrowsAlong paths before between)
    (second : GrowsAlong paths between behind) : GrowsAlong paths before behind where
  grows := first.grows.trans second.grows
  along := by
    intro place free present
    rcases first.grows place with same | ⟨-, made⟩
    · exact second.along place (same.trans free) present
    · obtain ⟨path, isPath, located⟩ := first.along place free made
      exact ⟨path, isPath, second.grows.keepsDirectories.locate located⟩

end GrowsAlong

/-- A directory is made where its path leads, and nothing else changes. -/
theorem get?_of_makeDirectory (made : before.makeDirectory path = .ok behind) :
    ∃ place, before.locate path = .ok place ∧ before.get? place = none ∧
      ∀ other, behind.get? other =
        if other = place then some .directory else before.get? other := by
  unfold makeDirectory at made
  split at made
  · cases made
  · cases made
  · next name parent located =>
    split at made
    · cases made
    · next free =>
      split at made
      · cases made
        exact ⟨name :: parent, located, by simpa using free, get?_put⟩
      · cases made

theorem makeDirectory_growsAlong (made : before.makeDirectory path = .ok behind) :
    GrowsAlong [path] before behind := by
  obtain ⟨there, located, free, stands⟩ := get?_of_makeDirectory made
  have grows : Grows before behind := by
    intro place
    rw [IsKeptAt, stands]
    by_cases isNew : place = there
    · subst isNew
      exact Or.inr ⟨free, if_pos rfl⟩
    · exact Or.inl (if_neg isNew)
  refine ⟨grows, fun place wasFree present => ?_⟩
  have isNew : place = there := by
    by_contra different
    rw [stands, if_neg different, wasFree] at present
    cases present
  exact ⟨path, List.mem_singleton_self path, isNew ▸ grows.keepsDirectories.locate located⟩

theorem makeDirectories_growsAlong (paths : List Path) :
    GrowsAlong paths tree (tree.makeDirectories paths).1 := by
  induction paths with
  | nil => exact .refl [] tree
  | cons path above inductionHypothesis =>
    have here {grown made : Tree} (isMade : grown.makeDirectory path = .ok made) :
        GrowsAlong (path :: above) grown made :=
      (makeDirectory_growsAlong isMade).mono (by simp)
    have further : GrowsAlong (path :: above) tree (tree.makeDirectories above).1 :=
      inductionHypothesis.mono fun _ member => List.mem_cons_of_mem _ member
    unfold makeDirectories
    split
    · exact .refl _ tree
    · split
      · next made isMade => exact here isMade
      · split
        · next grown error isGrown => rwa [isGrown] at further
        · next grown isGrown =>
          rw [isGrown] at further
          split
          · next made isMade => exact further.trans (here isMade)
          · exact further
      · exact .refl _ tree

/-- Making a path adds directories along it and changes nothing else, even if it
fails. -/
theorem makePath_growsAlong (tree : Tree) (path : Path) :
    GrowsAlong path.ancestors tree (tree.makePath path).1 :=
  makeDirectories_growsAlong path.ancestors

theorem hasAt_of_makeDirectory (made : before.makeDirectory path = .ok behind) :
    behind.hasAt path = true := by
  obtain ⟨place, located, -, stands⟩ := get?_of_makeDirectory made
  have keeps := (makeDirectory_growsAlong made).grows.keepsDirectories
  exact hasAt_iff.mpr ⟨place, .directory, lookUp_eq_ok_iff.mpr
    ⟨keeps.locate located, (stands place).trans (if_pos rfl), Or.inl rfl⟩⟩

/-- Behind making a path that does not fail, something is found along it. -/
theorem hasAt_of_makePath (notEmpty : path.bytes ≠ [])
    (made : tree.makePath path = (behind, none)) : behind.hasAt path = true := by
  have starts : ∃ above, path.ancestors = path :: above := by
    unfold Path.ancestors
    cases path.stations.reverse with
    | nil => exact ⟨[], rfl⟩
    | cons last above => exact ⟨_, rfl⟩
  obtain ⟨above, starts⟩ := starts
  have found {grown : Tree} {error : Error}
      (fits : (if grown.hasDirectoryAt path then none else some error) = none) :
      grown.hasAt path = true := by
    split at fits
    · next present => exact hasAt_of_hasDirectoryAt present
    · cases fits
  unfold makePath at made
  rw [starts, makeDirectories, if_neg (by simpa using notEmpty)] at made
  split at made
  · next grown isMade =>
    cases made
    exact hasAt_of_makeDirectory isMade
  · split at made
    · cases made
    · split at made
      · next isMade =>
        cases made
        exact hasAt_of_makeDirectory isMade
      · obtain ⟨rfl, fits⟩ := Prod.mk.inj made
        exact found fits
  · obtain ⟨rfl, fits⟩ := Prod.mk.inj made
    exact found fits

/-! ### A file besides -/

/-- One tree is another one with a file where a path leads, and with nothing
else but new directories. -/
structure Saves (before behind : Tree) (path : Path) (content : ByteArray) (place : Place) :
    Prop where
  located : behind.locate path = .ok place
  noSlash : path.endsInSlash = false
  noDirectory : before.isDirectory place = false
  holds : behind.get? place = some (.file content)
  elsewhere : ∀ other, other ≠ place → IsKeptAt before behind other

namespace Saves

variable (saves : Saves before behind path content place)
include saves

theorem keepsDirectories : KeepsDirectories before behind := by
  intro other present
  have different : other ≠ place := by
    rintro rfl
    rw [saves.noDirectory] at present
    cases present
  rw [isDirectory_iff] at present ⊢
  exact (saves.elsewhere other different).get?_eq present

theorem readBytes_eq : behind.readBytes path = .ok content := by
  have found : behind.lookUp path = .ok (place, .file content) :=
    lookUp_eq_ok_iff.mpr ⟨saves.located, saves.holds, Or.inr saves.noSlash⟩
  unfold readBytes
  rw [found]
  rfl

section Apart

variable {another : Path} (apart : another.destination ≠ path.destination)
  (leads : before.locate another = .ok another.destination)
include apart leads

/-- A file is found along another path exactly if it has been found there before. -/
theorem lookUp_file_iff {held : ByteArray} :
    behind.lookUp another = .ok (there, .file held) ↔
      before.lookUp another = .ok (there, .file held) := by
  rw [lookUp_eq_ok_iff, lookUp_eq_ok_iff, saves.keepsDirectories.locate leads, leads]
  refine and_congr_right fun located => and_congr_left fun _ => ?_
  cases located
  apply (saves.elsewhere another.destination ?_).file_iff
  rwa [← destination_of_locate saves.located]

theorem hasFileAt_eq : behind.hasFileAt another = before.hasFileAt another := by
  rw [Bool.eq_iff_iff, hasFileAt_iff, hasFileAt_iff]
  exact exists_congr fun there => exists_congr fun held => saves.lookUp_file_iff apart leads

/-- A file along another path is read as before. -/
theorem readText_eq (present : before.hasFileAt another = true) :
    behind.readText another = before.readText another := by
  obtain ⟨there, held, found⟩ := hasFileAt_iff.mp present
  have stillFound := (saves.lookUp_file_iff apart leads).mpr found
  unfold readText readBytes
  rw [found, stillFound]

end Apart

end Saves

/-- No file has appeared, vanished or changed but the one that a path leads to. -/
def SameFilesBut (path : Path) (before behind : Tree) : Prop :=
  ∀ place content, behind.locate path ≠ .ok place →
    (behind.get? place = some (.file content) ↔ before.get? place = some (.file content))

theorem SameFiles.sameFilesBut (same : SameFiles before behind) (path : Path) :
    SameFilesBut path before behind :=
  fun place content _ => same place content

theorem Saves.sameFilesBut (saves : Saves before behind path content place) :
    SameFilesBut path before behind := by
  intro other held elsewhere
  have different : other ≠ place := by
    rintro rfl
    exact elsewhere saves.located
  exact (saves.elsewhere other different).file_iff

theorem saves_of_write (written : before.write path content = .ok behind) :
    ∃ place, Saves before behind path content place := by
  unfold write at written
  split at written
  · cases written
  · cases written
  · next name parent located =>
    split at written
    · cases written
    · next noSlash =>
      split at written
      · cases written
      · next noDirectory =>
        split at written
        · next inDirectory =>
          have noSlash := Bool.eq_false_iff.mpr noSlash
          have noDirectory := Bool.eq_false_iff.mpr noDirectory
          cases written
          have keeps : KeepsDirectories before (before.put name parent (.file content)
              (leadsDown_of_locate located name List.mem_cons_self) inDirectory
              (Or.inr noDirectory)) := by
            intro other present
            rw [isDirectory_iff] at present ⊢
            rw [get?_put, if_neg, present]
            rintro rfl
            rw [← isDirectory_iff, noDirectory] at present
            cases present
          refine ⟨name :: parent, keeps.locate located, noSlash, noDirectory, ?_, ?_⟩
          · rw [get?_put, if_pos rfl]
          · intro other different
            exact Or.inl ((get?_put other).trans (if_neg different))
        · cases written

theorem Saves.of_grows (grows : Grows before between)
    (saves : Saves between behind path content place) : Saves before behind path content place where
  located := saves.located
  noSlash := saves.noSlash
  noDirectory := by
    rw [Bool.eq_false_iff]
    intro present
    have stays := grows.keepsDirectories place present
    rw [saves.noDirectory] at stays
    cases stays
  holds := saves.holds
  elsewhere other different := (grows other).trans (saves.elsewhere other different)

/-! ### Files that can be written -/

/-- Whether a path leads to a place for a file: no directory is there, and the
directory that its last part stands in is there already. -/
def isReady (tree : Tree) (path : Path) : Bool :=
  match tree.locate path with
  | .ok (name :: parent) =>
    !path.endsInSlash && !tree.isDirectory (name :: parent) && tree.isDirectory parent &&
      path.parent?.all fun above => above.bytes.isEmpty || tree.hasDirectoryAt above
  | _ => false

/-- Directories are in the same places. -/
def SameDirectories (before behind : Tree) : Prop :=
  ∀ place, behind.isDirectory place = before.isDirectory place

namespace SameDirectories

variable (same : SameDirectories before behind)
include same

theorem keeps : KeepsDirectories before behind :=
  fun place present => (same place).trans present

theorem hasDirectoryAt (present : before.hasDirectoryAt path = true) :
    behind.hasDirectoryAt path = true := by
  obtain ⟨place, found⟩ := hasDirectoryAt_iff.mp present
  obtain ⟨located, stands, -⟩ := lookUp_eq_ok_iff.mp found
  have stays := same.keeps place (isDirectory_iff.mpr stands)
  exact hasDirectoryAt_iff.mpr ⟨place, lookUp_eq_ok_iff.mpr
    ⟨same.keeps.locate located, isDirectory_iff.mp stays, Or.inl rfl⟩⟩

/-- A path stays ready as long as directories stay where they are. -/
theorem isReady (ready : before.isReady path = true) : behind.isReady path = true := by
  unfold Tree.isReady at ready ⊢
  split at ready
  · next name parent located =>
    rw [same.keeps.locate located]
    simp only [same (name :: parent), same parent, Bool.and_eq_true] at ready ⊢
    refine ⟨ready.1, ?_⟩
    cases isParent : path.parent? with
    | none => rfl
    | some above =>
      rw [isParent] at ready
      rcases Bool.or_eq_true_iff.mp ready.2 with isEmpty | present
      · exact Bool.or_eq_true_iff.mpr (Or.inl isEmpty)
      · exact Bool.or_eq_true_iff.mpr (Or.inr (same.hasDirectoryAt present))
  · cases ready

end SameDirectories

theorem write_of_isReady (content : ByteArray) (ready : before.isReady path = true) :
    ∃ behind, before.write path content = .ok behind ∧ SameDirectories before behind := by
  unfold isReady at ready
  split at ready
  · next name parent located =>
    simp only [Bool.and_eq_true, Bool.not_eq_true'] at ready
    obtain ⟨⟨⟨noSlash, noDirectory⟩, inDirectory⟩, -⟩ := ready
    unfold write
    split
    · next error failed =>
      rw [located] at failed
      cases failed
    · next isTop =>
      rw [located] at isTop
      cases isTop
    · next found above alsoLocated =>
      rw [located] at alsoLocated
      cases alsoLocated
      rw [if_neg (Bool.eq_false_iff.mp noSlash), dif_neg (Bool.eq_false_iff.mp noDirectory),
        dif_pos inDirectory]
      refine ⟨_, rfl, fun place => ?_⟩
      unfold isDirectory at noDirectory ⊢
      rw [get?_put]
      split
      · next isPlace =>
        rw [isPlace, noDirectory]
        rfl
      · rfl
  · cases ready

end IconForge.Files.Tree
