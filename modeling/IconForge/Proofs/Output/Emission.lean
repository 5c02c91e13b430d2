import IconForge.Output
import IconForge.Proofs.Task.Saving

/-!
Contract: the files that a collection is turned into.

Owns:
- the places of all files below the output directory, with their texts;
- files written one after another, and that none of them is overwritten by
  another one;
- that generating writes the planned files in their order, up to one that it
  fails at;
- when writing them all succeeds.

Main statements: `emits_generate`, `holdsCollection_of_generate`,
`works_generate`.

Does not own: the texts of files.
-/

namespace IconForge.Output

open IconForge.Files
open IconForge.Template

/-- A file holds a text that has come about. -/
def HoldsText (tree : Tree) (path : Path) (text : Except Fault String) : Prop :=
  ∃ written, text = .ok written ∧ tree.readBytes path = .ok written.toUTF8

/-- The path of a place below a directory. -/
def below (out : Path) : Place → Path
  | [] => out
  | name :: parent => (below out parent).join ⟨name⟩

/-- A file to be written: its place below the output directory, and its text,
which may fail to come about. -/
structure Planned where
  place : Place
  text : Except Fault String

namespace Planned

def path (out : Path) (file : Planned) : Path :=
  below out file.place

def Holds (tree : Tree) (out : Path) (file : Planned) : Prop :=
  HoldsText tree (file.path out) file.text

/-- Whether two files are in different places, if they are in any. -/
def Apart (tree : Tree) (out : Path) (one other : Planned) : Prop :=
  ∀ place, tree.locate (one.path out) = .ok place → tree.locate (other.path out) ≠ .ok place

end Planned

def placeIn (directory file : String) : Place :=
  [.ofText file, .ofText directory]

def libraryPlace (file : String) : Place :=
  placeIn "lib" file

def variantsPlace (icon : String) : Place :=
  placeIn "variants" (icon ++ ".ts")

def componentPlace (icon : String) : Place :=
  placeIn "icons" (icon ++ ".tsx")

def indexPlace : Place :=
  [.ofText "index.ts"]

/-- The files of a collection, in the order in which they are written. -/
def plan (library : Library) (collection : Collection) : List Planned :=
  [⟨libraryPlace "types.ts", types library⟩, ⟨libraryPlace "icon-base.tsx", iconBase library⟩] ++
    collection.map (fun icon => ⟨variantsPlace icon.name, variants library icon⟩) ++
    collection.map (fun icon => ⟨componentPlace icon.name, component library icon⟩) ++
    [⟨indexPlace, index library collection⟩]

/-- What an output directory holds of a collection: every file of it, with its
text. -/
structure HoldsCollection (tree : Tree) (library : Library) (out : Path)
    (collection : Collection) : Prop where
  types : HoldsText tree (typesPath out) (types library)
  iconBase : HoldsText tree (iconBasePath out) (iconBase library)
  variants : ∀ icon ∈ collection, HoldsText tree (variantsPath out icon) (variants library icon)
  components : ∀ icon ∈ collection,
    HoldsText tree (componentPath out icon) (component library icon)
  index : HoldsText tree (indexPath out) (index library collection)

/-- Files have been written one after another. -/
inductive Emitted (out : Path) : List Planned → Tree → Tree → Prop
  | nil (tree : Tree) : Emitted out [] tree tree
  | cons {before between behind : Tree} {place there : Place} {written : String}
      {files : List Planned}
      (saves : Tree.Saves before between (below out place) written.toUTF8 there)
      (rest : Emitted out files between behind) :
      Emitted out (⟨place, .ok written⟩ :: files) before behind

/-- Files have been written one after another, and the file behind them could not
be: it has left nothing but directories. -/
def Stopped (out : Path) (files : List Planned) (before behind : Tree) : Prop :=
  ∃ written file rest between, files = written ++ file :: rest ∧
    Emitted out written before between ∧ Tree.Grows between behind

/-- A step that writes files one after another and ends where it fails. -/
structure Emits (out : Path) (task : Task Unit) (files : List Planned) : Prop where
  emitted : ∀ {world finished : World},
    task.perform world = (.ok (), finished) → Emitted out files world.tree finished.tree
  stopped : ∀ {world finished : World} {fault : Fault},
    task.perform world = (.error fault, finished) → Stopped out files world.tree finished.tree

variable {library : Library} {out : Path} {collection : Collection} {tree before between
  behind : Tree} {files more : List Planned} {place there : Place} {world finished : World}
  {first second : Task Unit}

/-! ### Files one after another -/

namespace Emitted

theorem append (first : Emitted out files before between)
    (second : Emitted out more between behind) : Emitted out (files ++ more) before behind := by
  induction first with
  | nil => exact second
  | cons saves _ inductionHypothesis => exact .cons saves (inductionHypothesis second)

theorem keepsDirectories (emitted : Emitted out files before behind) :
    Tree.KeepsDirectories before behind := by
  induction emitted with
  | nil tree => exact fun _ present => present
  | cons saves _ inductionHypothesis => exact saves.keepsDirectories.trans inductionHypothesis

/-- Nothing changes at a place but for a new directory, if none of the files is
written there. -/
theorem isKeptAt (emitted : Emitted out files before behind)
    (others : ∀ file ∈ files, behind.locate (file.path out) ≠ .ok there) :
    Tree.IsKeptAt before behind there := by
  induction emitted with
  | nil tree => exact Or.inl rfl
  | cons saves rest inductionHypothesis =>
    rw [List.forall_mem_cons] at others
    have located := rest.keepsDirectories.locate saves.located
    have kept := saves.elsewhere there fun same => others.1 (same ▸ located)
    exact kept.trans (inductionHypothesis others.2)

/-- Files that are written in different places all hold their texts in the
end. -/
theorem holds (emitted : Emitted out files before behind)
    (apart : files.Pairwise (Planned.Apart behind out)) :
    ∀ file ∈ files, file.Holds behind out := by
  induction emitted with
  | nil tree => exact List.forall_mem_nil _
  | cons saves rest inductionHypothesis =>
    rw [List.pairwise_cons] at apart
    refine List.forall_mem_cons.mpr ⟨⟨_, rfl, ?_⟩, inductionHypothesis apart.2⟩
    have located := rest.keepsDirectories.locate saves.located
    have kept := rest.isKeptAt fun file member => apart.1 file member _ located
    have stands := kept.get?_eq saves.holds
    have found := Tree.lookUp_eq_ok_iff.mpr ⟨located, stands, Or.inr saves.noSlash⟩
    unfold Tree.readBytes Planned.path
    rw [found]
    rfl

end Emitted

/-- Directories made beforehand belong to the first file's way. -/
theorem Emitted.of_grows {file : Planned} (grows : Tree.Grows before between)
    (emitted : Emitted out (file :: files) between behind) :
    Emitted out (file :: files) before behind := by
  cases emitted with
  | cons saves rest => exact .cons (saves.of_grows grows) rest

/-! ### Different places -/

theorem walk_below (leads : ∀ name ∈ place, Path.leadsDown name = true)
    (walked : tree.walk [] (below out place).steps = .ok there) :
    ∃ top, tree.walk [] out.steps = .ok top ∧ there = place ++ top := by
  induction place generalizing there with
  | nil => exact ⟨there, walked, rfl⟩
  | cons name parent inductionHypothesis =>
    rw [List.forall_mem_cons] at leads
    rw [below, Path.steps_join leads.1, Tree.walk_append] at walked
    cases way : tree.walk [] (below out parent).steps with
    | error error =>
      rw [way] at walked
      cases walked
    | ok between =>
      rw [way] at walked
      obtain ⟨-, -, rfl⟩ := Tree.walk_down_iff.mp walked
      obtain ⟨top, isTop, rfl⟩ := inductionHypothesis leads.2 way
      exact ⟨top, isTop, rfl⟩

/-- Files at different places below a directory are different files. -/
theorem apart_of_nodup (tree : Tree) (out : Path)
    (leads : ∀ file ∈ files, 0 ∉ (file.path out).bytes →
      ∀ name ∈ file.place, Path.leadsDown name = true)
    (different : (files.map Planned.place).Nodup) :
    files.Pairwise (Planned.Apart tree out) := by
  rw [List.nodup_iff_pairwise_ne, List.pairwise_map] at different
  refine different.imp_of_mem fun isOne isOther differs there located alsoLocated => ?_
  obtain ⟨usable, walked⟩ := Tree.locate_eq_ok_iff.mp located
  obtain ⟨alsoUsable, alsoWalked⟩ := Tree.locate_eq_ok_iff.mp alsoLocated
  obtain ⟨top, isTop, same⟩ := walk_below (leads _ isOne usable.noZero_mem) walked
  obtain ⟨alsoTop, isAlsoTop, alsoSame⟩ :=
    walk_below (leads _ isOther alsoUsable.noZero_mem) alsoWalked
  rw [isTop] at isAlsoTop
  cases isAlsoTop
  exact differs (List.append_cancel_right (same.symm.trans alsoSame))

theorem placeIn_injective {directory other file another : String}
    (same : placeIn directory file = placeIn other another) :
    directory = other ∧ file = another := by
  simp only [placeIn, List.cons.injEq, and_true] at same
  exact ⟨Text.octets_injective same.2, Text.octets_injective same.1⟩

/-- An icon's name leads down if it holds no slash and its file's path can be
followed at all. -/
theorem leadsDown_placeIn {directory icon ending : String}
    (leadsThere : Path.leadsDown (.ofText directory) = true)
    (leads : Path.leadsDown (.ofText ending) = true) (noSlash : Path.slash ∉ Text.octets icon)
    (noZero : 0 ∉ (below out (placeIn directory (icon ++ ending))).bytes) :
    ∀ name ∈ placeIn directory (icon ++ ending), Path.leadsDown name = true := by
  have parts : Name.ofText (icon ++ ending) = Text.octets icon ++ Name.ofText ending :=
    Text.octets_append icon ending
  have noZeroInside : 0 ∉ Text.octets icon := by
    intro member
    apply noZero
    apply Path.mem_bytes_join
    rw [parts]
    exact List.mem_append_left _ member
  have leadsToFile : Path.leadsDown (.ofText (icon ++ ending)) = true := by
    rw [parts]
    exact Path.leadsDown_append noSlash noZeroInside leads
  exact List.forall_mem_cons.mpr ⟨leadsToFile, List.forall_mem_singleton.mpr leadsThere⟩

theorem leadsDown_of_mem_plan (noSlash : ∀ icon ∈ collection, Path.slash ∉ Text.octets icon.name) :
    ∀ file ∈ plan library collection, 0 ∉ (file.path out).bytes →
      ∀ name ∈ file.place, Path.leadsDown name = true := by
  have shared : ∀ place ∈ [libraryPlace "types.ts", libraryPlace "icon-base.tsx", indexPlace],
      ∀ name ∈ place, Path.leadsDown name = true := by
    decide
  simp only [List.forall_mem_cons] at shared
  unfold plan
  simp only [List.forall_mem_append, List.forall_mem_map, List.forall_mem_cons]
  refine ⟨⟨⟨⟨fun _ => shared.1, fun _ => shared.2.1, List.forall_mem_nil _⟩, ?_⟩, ?_⟩,
    fun _ => shared.2.2.1, List.forall_mem_nil _⟩
  · intro icon member
    exact leadsDown_placeIn rfl rfl (noSlash icon member)
  · intro icon member
    exact leadsDown_placeIn rfl rfl (noSlash icon member)

/-- Places in different directories are different. -/
theorem nodup_append_of_tail {front back : List Place} {tails : List Place} {tail : Place}
    (frontDifferent : front.Nodup) (backDifferent : back.Nodup)
    (inFront : ∀ place ∈ front, place.tail ∈ tails) (inBack : ∀ place ∈ back, place.tail = tail)
    (elsewhere : tail ∉ tails) : (front ++ back).Nodup := by
  refine List.nodup_append.mpr ⟨frontDifferent, backDifferent, ?_⟩
  rintro one isOne _ isOther rfl
  exact elsewhere (inBack one isOther ▸ inFront one isOne)

theorem nodup_places (distinctNames : (collection.map Icon.name).Nodup) :
    ((plan library collection).map Planned.place).Nodup := by
  have inside (directory ending : String) :
      (collection.map fun icon => placeIn directory (icon.name ++ ending)).Nodup := by
    have injective :
        Function.Injective fun name : String => placeIn directory (name ++ ending) := by
      intro one other same
      have characters := congrArg String.toList (placeIn_injective same).2
      rw [String.toList_append, String.toList_append] at characters
      exact String.toList_inj.mp (List.append_cancel_right characters)
    have mapped := distinctNames.map injective
    rwa [List.map_map] at mapped
  have shared : [libraryPlace "types.ts", libraryPlace "icon-base.tsx"].Nodup := by
    decide
  have tails :
      ([[], [.ofText "icons"], [.ofText "variants"], [.ofText "lib"]] : List Place).Nodup := by
    decide
  simp only [List.nodup_cons] at tails
  unfold plan
  simp only [List.map_append, List.map_map, List.map_cons, List.map_nil]
  refine nodup_append_of_tail (nodup_append_of_tail (nodup_append_of_tail shared
    (inside "variants" ".ts") ?_ ?_ tails.2.2.1) (inside "icons" ".tsx") ?_ ?_ tails.2.1)
    (List.nodup_singleton _) ?_ ?_ tails.1
  all_goals
    simp [libraryPlace, placeIn, variantsPlace, componentPlace, indexPlace, or_imp, forall_and]

/-- The files of a collection are different files wherever they are written. -/
theorem apart_plan (distinctNames : (collection.map Icon.name).Nodup)
    (noSlash : ∀ icon ∈ collection, Path.slash ∉ Text.octets icon.name) (library : Library)
    (tree : Tree) (out : Path) : (plan library collection).Pairwise (Planned.Apart tree out) :=
  apart_of_nodup tree out (leadsDown_of_mem_plan noSlash) (nodup_places distinctNames)

/-! ### Generating -/

theorem emits_tell {notice : Notice} : Emits out (Task.tell notice) [] where
  emitted := by
    intro world finished told
    rw [Task.tree_of_tell told]
    exact .nil _
  stopped := nofun

theorem emits_emit (place : Place) (text : Except Fault String) :
    Emits out (emit (below out place) text) [⟨place, text⟩] where
  emitted := by
    intro world finished performed
    obtain ⟨written, between, came, saved⟩ := Task.perform_bind_eq_ok performed
    rw [Task.perform_ofExcept] at came
    cases came
    obtain ⟨there, saves⟩ := Task.saves_of_save saved
    exact .cons saves (.nil _)
  stopped := by
    intro world finished fault failed
    have grows : Tree.Grows world.tree finished.tree := by
      rcases Task.perform_bind_eq_error failed with unread | ⟨written, between, came, unsaved⟩
      · rw [Task.perform_ofExcept] at unread
        cases unread
        exact .refl _
      · rw [Task.perform_ofExcept] at came
        cases came
        exact (Task.growsAlong_of_save_error unsaved).grows
    exact ⟨[], _, [], world.tree, rfl, .nil _, grows⟩

/-- Steps that write files one after another do so in turn. -/
theorem Emits.bind (one : Emits out first files) (other : Emits out second more) :
    Emits out (first >>= fun _ => second) (files ++ more) where
  emitted := by
    intro world finished performed
    obtain ⟨_, between, firstPerformed, secondPerformed⟩ := Task.perform_bind_eq_ok performed
    exact (one.emitted firstPerformed).append (other.emitted secondPerformed)
  stopped := by
    intro world finished fault failed
    rcases Task.perform_bind_eq_error failed with failed | ⟨_, between, performed, failed⟩
    · obtain ⟨written, file, rest, reached, rfl, emitted, grows⟩ := one.stopped failed
      exact ⟨written, file, rest ++ more, reached, by simp, emitted, grows⟩
    · obtain ⟨written, file, rest, reached, rfl, emitted, grows⟩ := other.stopped failed
      exact ⟨files ++ written, file, rest, reached, by simp,
        (one.emitted performed).append emitted, grows⟩

/-- A step that makes nothing but directories may go before one that writes
files. -/
theorem Emits.behind_directories {file : Planned}
    (grows : ∀ world : World, Tree.Grows world.tree (first.perform world).2.tree)
    (emits : Emits out second (file :: files)) :
    Emits out (first >>= fun _ => second) (file :: files) where
  emitted := by
    intro world finished performed
    obtain ⟨_, between, firstPerformed, secondPerformed⟩ := Task.perform_bind_eq_ok performed
    have made := grows world
    rw [firstPerformed] at made
    exact (emits.emitted secondPerformed).of_grows made
  stopped := by
    intro world finished fault failed
    have made := grows world
    rcases Task.perform_bind_eq_error failed with failed | ⟨_, between, performed, failed⟩
    · rw [failed] at made
      exact ⟨[], file, files, world.tree, rfl, .nil _, made⟩
    · rw [performed] at made
      obtain ⟨written, last, rest, reached, parts, emitted, grown⟩ := emits.stopped failed
      cases written with
      | nil =>
        cases emitted
        exact ⟨[], last, rest, world.tree, parts, .nil _, made.trans grown⟩
      | cons earlier others =>
        exact ⟨earlier :: others, last, rest, reached, parts, emitted.of_grows made, grown⟩

theorem emits_forM {α : Type} {values : List α} {step : α → Task Unit} {file : α → Planned}
    (each : ∀ value ∈ values, Emits out (step value) [file value]) :
    Emits out (values.forM step) (values.map file) := by
  induction values with
  | nil =>
    refine ⟨fun performed => ?_, fun failed => nomatch failed⟩
    cases performed
    exact .nil _
  | cons value rest inductionHypothesis =>
    rw [List.forall_mem_cons] at each
    exact each.1.bind (inductionHypothesis each.2)

theorem emits_emitVariants (icon : Icon) :
    Emits out (emitVariants library out icon)
      [⟨variantsPlace icon.name, variants library icon⟩] := by
  unfold emitVariants
  simp only
  split
  · exact emits_tell.bind (emits_emit (variantsPlace icon.name) _)
  · exact emits_emit (variantsPlace icon.name) _

/-- Generating writes the files of the plan, one after another. -/
theorem emits_generate (library : Library) (out : Path) (collection : Collection) :
    Emits out (generate library out collection) (plan library collection) := by
  have maps : Emits out (collection.forM (emitVariants library out)) _ :=
    emits_forM fun icon _ => emits_emitVariants icon
  have components : Emits out (collection.forM (emitComponent library out)) _ :=
    emits_forM fun icon _ => emits_emit (componentPlace icon.name) (component library icon)
  have emits : Emits out (generate library out collection) _ :=
    (emits_emit (libraryPlace "types.ts") (types library)).bind
      ((emits_emit (libraryPlace "icon-base.tsx") (iconBase library)).bind
        (maps.bind (emits_tell.bind (components.bind (emits_tell.bind
          ((emits_emit indexPlace (index library collection)).bind emits_tell))))))
  simpa [plan] using emits

/-- An output directory in which every file of the plan holds its text holds the
collection. -/
theorem holdsCollection_of_plan (holds : ∀ file ∈ plan library collection, file.Holds tree out) :
    HoldsCollection tree library out collection := by
  unfold plan at holds
  simp only [List.forall_mem_append, List.forall_mem_cons, List.forall_mem_map] at holds
  obtain ⟨⟨⟨⟨types, iconBase, -⟩, variants⟩, components⟩, index, -⟩ := holds
  exact ⟨types, iconBase, variants, components, index⟩

/-- Behind generating, the output directory holds the collection. -/
theorem holdsCollection_of_generate (distinctNames : (collection.map Icon.name).Nodup)
    (named : ∀ icon ∈ collection, Path.slash ∉ Text.octets icon.name ∧ 0 ∉ Text.octets icon.name)
    (performed : (generate library out collection).perform world = (.ok (), finished)) :
    HoldsCollection finished.tree library out collection := by
  have emitted := (emits_generate library out collection).emitted performed
  have apart := apart_plan distinctNames (fun icon member => (named icon member).1) library
    finished.tree out
  exact holdsCollection_of_plan (emitted.holds apart)

/-! ### Generating that succeeds -/

theorem works_emit (place : Place) {text : Except Fault String}
    (ready : tree.isReady (below out place) = true)
    (comes : ∃ written, text = .ok written) : (emit (below out place) text).Works tree := by
  obtain ⟨written, rfl⟩ := comes
  exact Task.works_save _ written ready

/-- Generating succeeds if every text comes about and every file can be written
without making directories. -/
theorem works_generate
    (ready : ∀ file ∈ plan library collection, tree.isReady (file.path out) = true)
    (comes : ∀ file ∈ plan library collection, ∃ written, file.text = .ok written) :
    (generate library out collection).Works tree := by
  unfold plan at ready comes
  simp only [List.forall_mem_append, List.forall_mem_cons, List.forall_mem_map] at ready comes
  obtain ⟨⟨⟨⟨readyTypes, readyIconBase, -⟩, readyVariants⟩, readyComponents⟩, readyIndex, -⟩ :=
    ready
  obtain ⟨⟨⟨⟨types, iconBase, -⟩, variants⟩, components⟩, index, -⟩ := comes
  have typesWork : (emit (typesPath out) (Output.types library)).Works tree :=
    works_emit (libraryPlace "types.ts") readyTypes types
  have iconBaseWork : (emit (iconBasePath out) (Output.iconBase library)).Works tree :=
    works_emit (libraryPlace "icon-base.tsx") readyIconBase iconBase
  have variantsWork (icon : Icon) (member : icon ∈ collection) :
      (emitVariants library out icon).Works tree := by
    have emits : (emit (variantsPath out icon) (Output.variants library icon)).Works tree :=
      works_emit (variantsPlace icon.name) (readyVariants icon member) (variants icon member)
    unfold emitVariants
    simp only
    split
    · exact Task.works_tell.bind emits
    · exact emits
  have componentsWork (icon : Icon) (member : icon ∈ collection) :
      (emitComponent library out icon).Works tree :=
    works_emit (componentPlace icon.name) (readyComponents icon member) (components icon member)
  have indexWork : (emit (indexPath out) (Output.index library collection)).Works tree :=
    works_emit indexPlace readyIndex index
  unfold generate
  exact typesWork.bind (iconBaseWork.bind ((Task.works_forM variantsWork).bind
    (Task.works_tell.bind ((Task.works_forM componentsWork).bind
      (Task.works_tell.bind (indexWork.bind Task.works_tell))))))

end IconForge.Output
