import IconForge.Proofs.Output.Emission

/-!
Contract: what generating leaves behind wherever it ends.

Owns:
- how far planned files have been written: the first ones hold their texts, and
  besides them no file has changed;
- that the index is written behind all other files.

Main statement: `generate_writtenUpTo`.

Does not own: why generating fails.
-/

namespace IconForge.Output

open IconForge.Files
open IconForge.Template

/-- How far planned files have been written between two trees: some hold their
texts, the rest is untouched, and so is every other file. -/
structure WrittenUpTo (out : Path) (written rest : List Planned) (before behind : Tree) :
    Prop where
  holds : ∀ file ∈ written, file.Holds behind out
  untouched : ∀ file ∈ rest, ∀ place, behind.locate (file.path out) = .ok place →
    Tree.IsKeptAt before behind place
  elsewhere : ∀ place, (∀ file ∈ written, behind.locate (file.path out) ≠ .ok place) →
    Tree.IsKeptAt before behind place

variable {library : Library} {out : Path} {collection : Collection} {before between behind : Tree}
  {files written rest : List Planned} {task : Task Unit}

theorem Planned.Holds.of_grows {file : Planned} (grows : Tree.Grows before behind)
    (holds : file.Holds before out) : file.Holds behind out := by
  obtain ⟨text, came, isRead⟩ := holds
  exact ⟨text, came, grows.readBytes isRead⟩

/-- Files written one after another stay written if nothing but directories is
added behind them. -/
theorem Emitted.writtenUpTo (emitted : Emitted out written before between)
    (grows : Tree.Grows between behind)
    (apart : (written ++ rest).Pairwise (Planned.Apart behind out)) :
    WrittenUpTo out written rest before behind := by
  rw [List.pairwise_append] at apart
  obtain ⟨apart, -, apartFromRest⟩ := apart
  have stays {file : Planned} {place : Place}
      (located : between.locate (file.path out) = .ok place) :
      behind.locate (file.path out) = .ok place :=
    grows.keepsDirectories.locate located
  have elsewhere (place : Place)
      (others : ∀ file ∈ written, behind.locate (file.path out) ≠ .ok place) :
      Tree.IsKeptAt before behind place := by
    have kept := emitted.isKeptAt fun file member located => others file member (stays located)
    exact kept.trans (grows place)
  have apartBetween : written.Pairwise (Planned.Apart between out) :=
    apart.imp fun differ place located alsoLocated =>
      differ place (stays located) (stays alsoLocated)
  refine ⟨fun file member => ?_, fun file member place located => ?_, elsewhere⟩
  · exact (emitted.holds apartBetween file member).of_grows grows
  · apply elsewhere
    intro other isWritten alsoLocated
    exact apartFromRest other isWritten file member place alsoLocated located

/-- A step that writes files at different places one after another has written a
beginning of them wherever it ends, and all of them just if it succeeds. -/
theorem Emits.writtenUpTo (emits : Emits out task files)
    (apart : ∀ tree : Tree, files.Pairwise (Planned.Apart tree out))
    (world : World) :
    ∃ outcome finished written rest, task.perform world = (outcome, finished) ∧
      files = written ++ rest ∧ (outcome = .ok () ↔ rest = []) ∧
      WrittenUpTo out written rest world.tree finished.tree := by
  rcases performed : task.perform world with ⟨fault | ⟨⟩, finished⟩
  · obtain ⟨written, file, rest, between, rfl, emitted, grows⟩ := emits.stopped performed
    have upTo := emitted.writtenUpTo grows (apart finished.tree)
    exact ⟨_, _, written, file :: rest, rfl, rfl, by simp, upTo⟩
  · have emitted := emits.emitted performed
    have upTo : WrittenUpTo out files [] world.tree finished.tree :=
      emitted.writtenUpTo (.refl _) (by simpa using apart finished.tree)
    exact ⟨_, _, files, [], rfl, by simp, by simp, upTo⟩

/-- The index is the last file of the plan, so that behind it nothing is left. -/
theorem rest_eq_nil_of_index_mem (distinctNames : (collection.map Icon.name).Nodup)
    (parts : plan library collection = written ++ rest)
    (indexed : ⟨indexPlace, index library collection⟩ ∈ written) : rest = [] := by
  by_contra notEmpty
  have places : ((plan library collection).map Planned.place).Nodup := nodup_places distinctNames
  have isLast :
      (plan library collection).getLast? = some ⟨indexPlace, index library collection⟩ := by
    unfold plan
    exact List.getLast?_concat
  rw [parts, List.getLast?_append_of_ne_nil _ notEmpty] at isLast
  rw [parts, List.map_append, List.nodup_append] at places
  obtain ⟨-, -, different⟩ := places
  exact different _ (List.mem_map_of_mem indexed) _
    (List.mem_map_of_mem (List.mem_of_getLast? isLast)) rfl

/-- Wherever generating ends, it has written a beginning of the planned files and
changed no other file; it has written all of them just if it succeeds. The index
is written only if the output directory then holds the whole collection. -/
theorem generate_writtenUpTo (distinctNames : (collection.map Icon.name).Nodup)
    (noSlash : ∀ icon ∈ collection, Path.slash ∉ Text.octets icon.name) (library : Library)
    (out : Path) (world : World) :
    ∃ outcome finished written rest,
      (generate library out collection).perform world = (outcome, finished) ∧
      plan library collection = written ++ rest ∧
      (outcome = .ok () ↔ rest = []) ∧
      WrittenUpTo out written rest world.tree finished.tree ∧
      (⟨indexPlace, index library collection⟩ ∈ written →
        HoldsCollection finished.tree library out collection) := by
  have apart (tree : Tree) := apart_plan distinctNames noSlash library tree out
  obtain ⟨outcome, finished, written, rest, performed, parts, complete, upTo⟩ :=
    (emits_generate library out collection).writtenUpTo apart world
  refine ⟨outcome, finished, written, rest, performed, parts, complete, upTo, fun indexed => ?_⟩
  have nothingLeft := rest_eq_nil_of_index_mem distinctNames parts indexed
  apply holdsCollection_of_plan
  rw [parts, nothingLeft, List.append_nil]
  exact upTo.holds

/-- Templates that yield their own names. -/
def plainLibrary : Library where
  texts := Embedded.all
  render name _ := .ok name

/-- A tree in which a directory stands where the component of `b` belongs. -/
def blockedTree : Tree :=
  (Tree.empty.makePath (.ofText "out/icons/b.tsx")).1

def twoIcons : Collection :=
  [.new "a", .new "b"]

theorem generate_writtenUpTo_blocked :
    ∃ fault finished written rest,
      (generate plainLibrary (.ofText "out") twoIcons).perform (.ofTree blockedTree) =
        (.error fault, finished) ∧
      plan plainLibrary twoIcons = written ++ rest ∧ rest ≠ [] ∧
      WrittenUpTo (.ofText "out") written rest blockedTree finished.tree := by
  have fails : ((generate plainLibrary (.ofText "out") twoIcons).perform
      (.ofTree blockedTree)).1 ≠ .ok () := by
    decide +kernel
  have distinctNames : (twoIcons.map Icon.name).Nodup := by decide
  have noSlash : ∀ icon ∈ twoIcons, Path.slash ∉ Text.octets icon.name := by decide
  obtain ⟨outcome, finished, written, rest, performed, parts, complete, upTo, -⟩ :=
    generate_writtenUpTo distinctNames noSlash plainLibrary (.ofText "out") (.ofTree blockedTree)
  rw [performed] at fails
  cases outcome with
  | error fault =>
    have notAll : rest ≠ [] := fun isAll => nomatch complete.mpr isAll
    exact ⟨fault, finished, written, rest, performed, parts, notAll, upTo⟩
  | ok value => exact absurd rfl fails

end IconForge.Output
