import IconForge.Proofs.Files.Access
import IconForge.Proofs.Template.Engine
import IconForge.Proofs.Text.Octets
import IconForge.Template.Library

/-!
Contract: the templates of a directory.

Owns:
- which files below a directory are templates, and under which names;
- that a name without backslashes leads to the file whose template has that name, if no
  name below the directory has one;
- the text that is at hand under the name of each template that comes with the program.

Main statements: `isTemplate_iff_of_noBackslash`, `exists_supplied`.

Does not own: what templates yield.
-/

namespace IconForge.Files.Tree

variable {tree : Tree} {place : Place} {way : List Name} {item : Item}

/-- What stands below a place stands where the names on the way to it lead. -/
theorem mem_descendants_iff :
    (way, item) ∈ tree.descendants place ↔
      way ≠ [] ∧ tree.get? (way.reverse ++ place) = some item := by
  unfold descendants
  rw [List.mem_filterMap]
  constructor
  · rintro ⟨⟨there, found⟩, member, isEntry⟩
    split at isEntry
    · next isBelow =>
      cases isEntry
      rw [Bool.and_eq_true, List.isSuffixOf_iff_suffix, bne_iff_ne] at isBelow
      obtain ⟨⟨front, rfl⟩, notHere⟩ := isBelow
      have isFront : (front ++ place).take ((front ++ place).length - place.length) = front := by
        rw [List.length_append, Nat.add_sub_cancel, List.take_left]
      rw [isFront, List.reverse_reverse]
      refine ⟨?_, get?_of_mem member⟩
      rw [Ne, List.reverse_eq_nil_iff]
      rintro rfl
      exact notHere rfl
    · cases isEntry
  · rintro ⟨notEmpty, stands⟩
    have notTop : way.reverse ++ place ≠ [] := by simp [notEmpty]
    refine ⟨_, mem_items_of_get? notTop stands, ?_⟩
    have isBelow : (place.isSuffixOf (way.reverse ++ place) && way.reverse ++ place != place) =
        true := by
      rw [Bool.and_eq_true, List.isSuffixOf_iff_suffix, bne_iff_ne]
      refine ⟨List.suffix_append _ _, fun same => notEmpty ?_⟩
      exact List.reverse_eq_nil_iff.mp
        (List.append_cancel_right (same.trans (List.nil_append place).symm))
    rw [if_pos isBelow, List.length_append, Nat.add_sub_cancel, List.take_left,
      List.reverse_reverse]

end IconForge.Files.Tree

namespace IconForge.Template

open IconForge.Files
open IconForge.Text

variable {tree : Tree} {place : Place} {way : List Name} {name text : String} {content : ByteArray}
  {own : Texts}

/-- Whether a file below a directory is a template of a name. -/
def IsTemplate (tree : Tree) (place : Place) (name : String) (content : ByteArray) : Prop :=
  ∃ way, tree.get? (way.reverse ++ place) = some (.file content) ∧ isTemplateFile way = true ∧
    nameOfFile way = name

theorem mem_filesBelow_iff :
    (name, content) ∈ filesBelow tree place ↔ IsTemplate tree place name content := by
  unfold filesBelow IsTemplate
  rw [List.mem_filterMap]
  constructor
  · rintro ⟨⟨way, item⟩, member, isFile⟩
    obtain ⟨-, stands⟩ := Tree.mem_descendants_iff.mp member
    cases item with
    | directory => cases isFile
    | file held =>
      simp only at isFile
      split at isFile
      · next isTemplate =>
        cases isFile
        exact ⟨way, stands, isTemplate, rfl⟩
      · cases isFile
  · rintro ⟨way, stands, isTemplate, isName⟩
    have notEmpty : way ≠ [] := by
      rintro rfl
      exact absurd isTemplate (by decide)
    refine ⟨(way, .file content), Tree.mem_descendants_iff.mpr ⟨notEmpty, stands⟩, ?_⟩
    simp only [isTemplate, if_true, isName]

/-! ### Names of files -/

def backslash : UInt8 := 0x5C

/-- The names on the way to a file, with slashes between them. -/
def joinedName (way : List Name) : String :=
  String.intercalate "/" (way.map Name.text)

theorem joinedName_singleton (part : Name) : joinedName [part] = part.text :=
  String.intercalate_singleton

theorem joinedName_cons (part next : Name) (rest : List Name) :
    joinedName (part :: next :: rest) = part.text ++ "/" ++ joinedName (next :: rest) :=
  String.intercalate_cons_cons

theorem mem_joinedName {part : Name} {c : Char} (isPart : part ∈ way)
    (member : c ∈ part.text.toList) : c ∈ (joinedName way).toList := by
  induction way with
  | nil => cases isPart
  | cons first others inductionHypothesis =>
    cases others with
    | nil =>
      cases List.mem_singleton.mp isPart
      rwa [joinedName_singleton]
    | cons next rest =>
      rw [joinedName_cons, String.toList_append, String.toList_append, List.append_assoc]
      rcases List.mem_cons.mp isPart with rfl | isLater
      · exact List.mem_append_left _ member
      · exact List.mem_append_right _ (List.mem_append_right _ (inductionHypothesis isLater))

theorem cases_mem_joinedName {c : Char} (member : c ∈ (joinedName way).toList) :
    c = '/' ∨ ∃ part ∈ way, c ∈ part.text.toList := by
  induction way with
  | nil => cases member
  | cons first others inductionHypothesis =>
    cases others with
    | nil =>
      rw [joinedName_singleton] at member
      exact Or.inr ⟨first, List.mem_cons_self, member⟩
    | cons next rest =>
      rw [joinedName_cons, String.toList_append, String.toList_append, List.mem_append,
        List.mem_append] at member
      rcases member with (inFirst | isSlash) | inRest
      · exact Or.inr ⟨first, List.mem_cons_self, inFirst⟩
      · exact Or.inl (List.mem_singleton.mp isSlash)
      · refine (inductionHypothesis inRest).imp_right fun ⟨part, isPart, inPart⟩ => ?_
        exact ⟨part, List.mem_cons_of_mem _ isPart, inPart⟩

/-- The names on a way come back from the name that they make, if they are readable. -/
theorem splitAt_joinedName (notEmpty : way ≠ [])
    (leads : ∀ part ∈ way, Path.leadsDown part = true)
    (isReadable : ∀ part ∈ way, octets part.text = part) :
    splitAt (· == Path.slash) (octets (joinedName way)) = way := by
  have free {part : Name} (leads : Path.leadsDown part = true) :
      ∀ byte ∈ part, (byte == Path.slash) = false := by
    intro byte member
    rw [beq_eq_false_iff_ne]
    rintro rfl
    exact (Path.leadsDown_iff.mp leads).2.2.2.1 member
  have apart (front back : List UInt8) :
      splitAt (· == Path.slash) (front ++ Path.slash :: back) =
        splitAt (· == Path.slash) front ++ splitAt (· == Path.slash) back :=
    splitAt_append rfl front back
  induction way with
  | nil => exact absurd rfl notEmpty
  | cons first others inductionHypothesis =>
    rw [List.forall_mem_cons] at leads isReadable
    cases others with
    | nil => rw [joinedName_singleton, isReadable.1, splitAt_of_free (free leads.1)]
    | cons next rest =>
      have isSlash : octets "/" = [Path.slash] := rfl
      rw [joinedName_cons, octets_append, octets_append, isReadable.1, isSlash, List.append_assoc,
        List.singleton_append, apart, splitAt_of_free (free leads.1),
        inductionHypothesis (List.cons_ne_nil _ _) leads.2 isReadable.2]
      rfl

/-- Without backslashes, only the names that a name of plain characters is made of lead to
a file of this name. -/
theorem way_eq_of_nameOfFile (plain : ∀ c ∈ name.toList, IsPlainChar c) (notEmpty : way ≠ [])
    (leads : ∀ part ∈ way, Path.leadsDown part = true)
    (noBackslash : ∀ part ∈ way, backslash ∉ part) (isName : nameOfFile way = name) :
    way = (Path.ofText name).parts := by
  have turned : name = (joinedName way).map fun c => if c = '\\' then '/' else c := isName.symm
  have joinedPlain : ∀ c ∈ (joinedName way).toList, IsPlainChar c := by
    intro c member
    by_cases isBackslash : c = '\\'
    · rw [isBackslash]
      exact ⟨by decide, by decide⟩
    · apply plain
      rw [turned, String.toList_map]
      exact List.mem_map.mpr ⟨c, member, if_neg isBackslash⟩
  have isReadable : ∀ part ∈ way, octets part.text = part := fun part isPart =>
    octets_readable fun c member => joinedPlain c (mem_joinedName isPart member)
  have unturned : ∀ c ∈ (joinedName way).toList, (if c = '\\' then '/' else c) = c := by
    intro c member
    refine if_neg ?_
    rintro rfl
    rcases cases_mem_joinedName member with isSlash | ⟨part, isPart, inPart⟩
    · cases isSlash
    · apply noBackslash part isPart
      rw [← isReadable part isPart, octets_of_ascii fun c inText =>
        (joinedPlain c (mem_joinedName isPart inText)).2]
      exact List.mem_map.mpr ⟨_, inPart, rfl⟩
  have isJoined : name = joinedName way := by
    rw [turned]
    apply String.toList_inj.mp
    rw [String.toList_map]
    exact (List.map_congr_left unturned).trans (List.map_id _)
  rw [isJoined]
  exact (splitAt_joinedName notEmpty leads isReadable).symm

/-- Whether no name below a directory has a backslash. -/
def NoBackslash (tree : Tree) (place : Place) : Prop :=
  ∀ (way : List Name) (item : Item), tree.get? (way.reverse ++ place) = some item →
    ∀ part ∈ way, backslash ∉ part

theorem noBackslash_of_items
    (free : ∀ entry ∈ tree.items, ∀ part ∈ entry.1, backslash ∉ part) :
    NoBackslash tree place := by
  intro way item stands part isPart
  have notTop : way.reverse ++ place ≠ [] := by
    rw [Ne, List.append_eq_nil_iff, List.reverse_eq_nil_iff]
    rintro ⟨rfl, -⟩
    cases isPart
  exact free _ (Tree.mem_items_of_get? notTop stands) part
    (List.mem_append_left _ (List.mem_reverse.mpr isPart))

/-- Where no name below a directory has a backslash, a template of a name is the file to
which the name leads. -/
theorem isTemplate_iff_of_noBackslash (plain : ∀ c ∈ name.toList, IsPlainChar c)
    (isFile : isTemplateFile (Path.ofText name).parts = true)
    (isNamed : nameOfFile (Path.ofText name).parts = name)
    (noBackslash : NoBackslash tree place) :
    IsTemplate tree place name content ↔
      tree.get? ((Path.ofText name).parts.reverse ++ place) = some (.file content) := by
  constructor
  · rintro ⟨way, stands, isTemplate, isName⟩
    have notEmpty : way ≠ [] := by
      rintro rfl
      exact absurd isTemplate (by decide)
    have leads : ∀ part ∈ way, Path.leadsDown part = true := fun part isPart =>
      Tree.named_of_get? stands part
        (List.mem_append_left _ (List.mem_reverse.mpr isPart))
    rwa [way_eq_of_nameOfFile plain notEmpty leads (noBackslash way _ stands) isName] at stands
  · exact fun stands => ⟨_, stands, isFile, isNamed⟩

/-! ### Texts at hand -/

/-- Whether a text is that of a template, given what the file of the template can hold: it
is the text of such a file, if there is one, and else the one that comes with the program. -/
def Supplies (holds : ByteArray → Prop) (embedded text : String) : Prop :=
  (∃ content, holds content ∧ String.fromUTF8? content = some text) ∨
    (∀ content, ¬holds content) ∧ text = embedded

theorem nodup_embedded : (Embedded.all.map Prod.fst).Nodup := by
  decide

theorem get?_embedded (isTemplate : (name, text) ∈ Embedded.all) :
    Keyed.get? name Embedded.all = some text :=
  Keyed.get?_of_mem nodup_embedded isTemplate

theorem get?_missing (isTemplate : (name, text) ∈ Embedded.all)
    (isMissing : Keyed.get? name own = none) : Keyed.get? name (missing own) = some text := by
  have distinct : ((missing own).map Prod.fst).Nodup :=
    nodup_embedded.sublist (List.filter_sublist.map Prod.fst)
  refine Keyed.get?_of_mem distinct (List.mem_filter.mpr ⟨isTemplate, ?_⟩)
  rw [isMissing]
  rfl

theorem textOfFile?_eq_some_iff {file : String × ByteArray} :
    textOfFile? file = some (name, text) ↔
      file.1 = name ∧ String.fromUTF8? file.2 = some text := by
  unfold textOfFile?
  rw [Option.map_eq_some_iff]
  constructor
  · rintro ⟨_, stored, same⟩
    cases same
    exact ⟨rfl, stored⟩
  · rintro ⟨rfl, stored⟩
    exact ⟨text, stored, rfl⟩

/-- Templates that come with the program have the texts that they have there, also where
others of them are missing. -/
theorem get?_append_missing (ownEmbedded : ∀ template ∈ own, template ∈ Embedded.all)
    (isTemplate : (name, text) ∈ Embedded.all) :
    Keyed.get? name (own ++ missing own) = some text := by
  rw [Keyed.get?_append]
  cases found : Keyed.get? name own with
  | none => exact get?_missing isTemplate found
  | some held =>
    have isHeld := ownEmbedded _ (Keyed.mem_of_get? found)
    rw [← get?_embedded isHeld, get?_embedded isTemplate]
    rfl

/-- A text that is among those of files is the text of one of them. -/
theorem exists_file_of_perm {files : List (String × ByteArray)} {template : String × String}
    (areTexts : (files.map textOfFile?).Perm (own.map some)) (isOwn : template ∈ own) :
    ∃ file ∈ files, textOfFile? file = some template :=
  List.mem_map.mp (areTexts.mem_iff.mpr (List.mem_map_of_mem isOwn))

/-- Where the templates of a directory have been taken up, the text that is at hand under
the name of a template that comes with the program is that of a file below the directory
that has this name, if there is one, and else the one that comes with the program. -/
theorem exists_supplied (areTexts : ((filesBelow tree place).map textOfFile?).Perm (own.map some))
    (isTemplate : (name, text) ∈ Embedded.all) :
    ∃ supplied, Supplies (IsTemplate tree place name) text supplied ∧
      Keyed.get? name (own ++ missing own) = some supplied := by
  rw [Keyed.get?_append]
  cases found : Keyed.get? name own with
  | some supplied =>
    obtain ⟨⟨_, content⟩, isFile, isText⟩ := exists_file_of_perm areTexts (Keyed.mem_of_get? found)
    obtain ⟨rfl, stored⟩ := textOfFile?_eq_some_iff.mp isText
    exact ⟨supplied, Or.inl ⟨content, mem_filesBelow_iff.mp isFile, stored⟩, rfl⟩
  | none =>
    refine ⟨text, Or.inr ⟨fun content isFile => ?_, rfl⟩, get?_missing isTemplate found⟩
    have member : textOfFile? (name, content) ∈ own.map some :=
      areTexts.mem_iff.mp (List.mem_map_of_mem (mem_filesBelow_iff.mpr isFile))
    obtain ⟨⟨ownName, ownText⟩, isOwn, isText⟩ := List.mem_map.mp member
    obtain ⟨rfl, -⟩ := textOfFile?_eq_some_iff.mp isText.symm
    exact Keyed.get?_eq_none_iff.mp found (List.mem_map_of_mem isOwn)

end IconForge.Template
