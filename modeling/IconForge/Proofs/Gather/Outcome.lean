import IconForge.Proofs.Gather.Icons

/-!
Contract: gathering, from what stands where to the collection.

Owns:
- the files that can be read, and the first file of a kind;
- what a collection has of the files below a directory;
- when gathering succeeds, what it yields then, and where it fails otherwise.

Main statement: `gather_outcome`.

Does not own: how a drawing is read from a text.
-/

namespace IconForge.Gather

open IconForge.Files

/-- A drawing's file that can be read: its stem stores a name, and a drawing can
be loaded from it. -/
structure IsReadable (tree : Tree) (root : Path) (sighting : Sighting) : Prop where
  hasName : ∃ icon, Text.ofOctets? sighting.file.stem = some icon
  loads : ∃ drawing, loadDrawing tree (sighting.path root) = .ok drawing

/-- A place of a kind that comes before all others of the kind. -/
def IsFirst (kind : Sighting → Prop) (first : Sighting) : Prop :=
  kind first ∧ ∀ other, kind other → other = first ∨ first.Before other

/-- What a collection has of the drawings' files below a directory. -/
structure IsCollected (tree : Tree) (root : Path) (collection : Collection) : Prop where
  distinctNames : (collection.map Icon.name).Nodup
  holds : ∀ name variant drawing,
    HasEntry collection name ⟨variant, drawing⟩ ↔
      IsDrawing tree root ⟨variant, iconFile name⟩ ∧
        loadDrawing tree (Sighting.path root ⟨variant, iconFile name⟩) = .ok drawing
  notEmpty : ∀ icon ∈ collection, icon.entries ≠ []
  canonical : ∀ icon ∈ collection,
    icon.entries.Pairwise fun one other => one.variant.rank < other.variant.rank
  asSeen : collection.Pairwise fun one other => ∃ first second,
    IsFirst (fun sighting => IsDrawing tree root sighting ∧ sighting.file = iconFile one.name)
      first ∧
    IsFirst (fun sighting => IsDrawing tree root sighting ∧ sighting.file = iconFile other.name)
      second ∧
    first.Before second

variable {tree other : Tree} {root : Path} {sighting : Sighting} {drawn : List Drawn}
  {files : List Sighting} {fault : Fault} {collection : Collection}

/-! ### What files yield -/

theorem exists_read_iff :
    (∃ drawn, read tree root sighting = .ok drawn) ↔ IsReadable tree root sighting := by
  unfold read
  constructor
  · rintro ⟨drawn, isRead⟩
    cases stored : Text.ofOctets? sighting.file.stem with
    | none => simp [stored] at isRead
    | some icon =>
      cases loaded : loadDrawing tree (sighting.path root) with
      | error fault => simp [stored, loaded, Except.map] at isRead
      | ok drawing => exact ⟨⟨icon, stored⟩, drawing, loaded⟩
  · rintro ⟨⟨icon, stored⟩, drawing, loaded⟩
    rw [stored, loaded]
    exact ⟨_, rfl⟩

/-- What the files of a scan yield is known from its places. -/
theorem drawn_of_forall₂
    (each : List.Forall₂ (fun file value => read tree root file = .ok value) files drawn)
    (drawings : ∀ file ∈ files, IsDrawing tree root file) :
    drawn.map Drawn.sighting = files ∧
      ∀ value ∈ drawn, read tree root value.sighting = .ok value := by
  induction each with
  | nil => exact ⟨rfl, List.forall_mem_nil _⟩
  | cons isRead _ inductionHypothesis =>
    rw [List.forall_mem_cons] at drawings
    obtain ⟨places, reads⟩ := inductionHypothesis drawings.2
    obtain ⟨isPlace, -⟩ := (read_eq_ok_iff drawings.1).mp isRead
    exact ⟨congrArg₂ _ isPlace.symm places, List.forall_mem_cons.mpr ⟨isPlace ▸ isRead, reads⟩⟩

theorem gathered_cases (tree : Tree) (root : Path) :
    (∃ drawn : List Drawn, gathered tree root = .ok (drawn.foldl Drawn.addTo []) ∧
      drawn.map Drawn.sighting = scan tree root ∧
      ∀ value ∈ drawn, read tree root value.sighting = .ok value) ∨
    ∃ bad fault, gathered tree root = .error fault ∧ read tree root bad = .error fault ∧
      IsFirst (fun sighting => IsDrawing tree root sighting ∧ ¬IsReadable tree root sighting)
        bad := by
  rcases mapM_cases (read tree root) (scan tree root) with ⟨drawn, all, each⟩ |
    ⟨front, bad, back, fault, isScan, good, failed, all⟩
  · refine Or.inl ⟨drawn, by rw [gathered, all]; rfl, ?_⟩
    exact drawn_of_forall₂ each fun file member => mem_scan.mp member
  · refine Or.inr ⟨bad, fault, by rw [gathered, all]; rfl, failed, ⟨?_, ?_⟩, ?_⟩
    · exact mem_scan.mp (by simp [isScan])
    · rw [← exists_read_iff, failed]
      simp
    · rintro sighting ⟨drawing, unreadable⟩
      have member := mem_scan.mpr drawing
      have inOrder := pairwise_scan tree root
      rw [isScan, List.mem_append, List.mem_cons] at member
      rw [isScan, List.pairwise_append, List.pairwise_cons] at inOrder
      rcases member with inFront | isBad | behind
      · exact absurd (exists_read_iff.mp (good _ inFront)) unreadable
      · exact Or.inl isBad
      · exact Or.inr (inOrder.2.1.1 _ behind)

/-! ### What the collection has -/

section Complete

variable (places : drawn.map Drawn.sighting = scan tree root)
  (reads : ∀ value ∈ drawn, read tree root value.sighting = .ok value)
include places reads

theorem mem_drawn_iff {value : Drawn} :
    value ∈ drawn ↔ IsDrawing tree root value.sighting ∧
      loadDrawing tree (value.sighting.path root) = .ok value.drawing := by
  constructor
  · intro member
    have drawing : IsDrawing tree root value.sighting :=
      mem_scan.mp (places ▸ List.mem_map_of_mem member)
    exact ⟨drawing, ((read_eq_ok_iff drawing).mp (reads value member)).2⟩
  · rintro ⟨drawing, loaded⟩
    have isRead := (read_eq_ok_iff drawing).mpr ⟨rfl, loaded⟩
    have listed := mem_scan.mpr drawing
    rw [← places] at listed
    obtain ⟨found, member, samePlace⟩ := List.mem_map.mp listed
    have alsoRead := reads found member
    rw [samePlace, isRead] at alsoRead
    cases alsoRead
    exact member

/-- An icon is first seen where its first entry is from. -/
theorem isFirst_firstSighting? (collects : Collects drawn collection) {icon : Icon}
    (member : icon ∈ collection) :
    ∃ first, firstSighting? icon = some first ∧
      IsFirst (fun sighting => IsDrawing tree root sighting ∧ sighting.file = iconFile icon.name)
        first := by
  have canonical := collects.canonical icon member
  cases isEntries : icon.entries with
  | nil => exact absurd isEntries (collects.notEmpty icon member)
  | cons head rest =>
    rw [isEntries, List.pairwise_cons] at canonical
    refine ⟨⟨head.variant, iconFile icon.name⟩, by simp [firstSighting?, isEntries], ⟨?_, rfl⟩, ?_⟩
    · have hasHead : HasEntry collection icon.name head :=
        ⟨icon, member, rfl, by simp [isEntries]⟩
      exact ((mem_drawn_iff places reads).mp ((collects.holds _ _ _).mp hasHead)).1
    · rintro sighting ⟨drawing, named⟩
      have listed := mem_scan.mpr drawing
      rw [← places] at listed
      obtain ⟨found, isDrawn, rfl⟩ := List.mem_map.mp listed
      have sameName : found.icon = icon.name := iconFile_injective named
      obtain ⟨holder, isHolder, holderNamed, isEntry⟩ := (collects.holds _ _ _).mpr isDrawn
      have same : holder = icon :=
        List.inj_on_of_nodup_map collects.distinctNames isHolder member
          (holderNamed.trans sameName)
      rw [same, isEntries] at isEntry
      rcases List.mem_cons.mp isEntry with isHead | inRest
      · refine Or.inl ?_
        rw [Drawn.sighting, sameName, ← isHead]
      · exact Or.inr (Or.inl (canonical.1 _ inRest))

theorem isCollected_foldl : IsCollected tree root (drawn.foldl Drawn.addTo []) := by
  have collects : Collects drawn (drawn.foldl Drawn.addTo []) :=
    collects_foldl (places ▸ pairwise_scan tree root)
  refine ⟨collects.distinctNames, fun name variant drawing => ?_, collects.notEmpty,
    collects.canonical, ?_⟩
  · exact (collects.holds _ _ _).trans (mem_drawn_iff places reads)
  · refine (List.pairwise_map.mp collects.asSeen).imp_of_mem ?_
    intro one other isOne isOther earlier
    obtain ⟨first, isSome, isFirst⟩ := isFirst_firstSighting? places reads collects isOne
    obtain ⟨second, alsoSome, isSecond⟩ := isFirst_firstSighting? places reads collects isOther
    exact ⟨first, second, isFirst, isSecond, earlier first isSome second alsoSome⟩

end Complete

theorem isCollected_of_gathered (isGathered : gathered tree root = .ok collection) :
    IsCollected tree root collection := by
  rcases gathered_cases tree root with ⟨drawn, isCollection, places, reads⟩ |
    ⟨bad, fault, failed, -, -⟩
  · rw [isCollection] at isGathered
    cases isGathered
    exact isCollected_foldl places reads
  · rw [failed] at isGathered
    cases isGathered

/-- Gathering makes a canonical collection, however many drawings there are. -/
theorem isCanonical_of_gathered (isGathered : gathered tree root = .ok collection) :
    collection.IsCanonical where
  distinct := (isCollected_of_gathered isGathered).distinctNames
  inOrder := (isCollected_of_gathered isGathered).canonical

/-- The name of a gathered icon is part of a file's name. -/
theorem IsCollected.named (collected : IsCollected tree root collection) {icon : Icon}
    (member : icon ∈ collection) :
    Path.slash ∉ Text.octets icon.name ∧ 0 ∉ Text.octets icon.name := by
  obtain ⟨entry, isEntry⟩ := List.exists_mem_of_ne_nil _ (collected.notEmpty icon member)
  obtain ⟨drawing, -⟩ := (collected.holds _ _ _).mp ⟨icon, member, rfl, isEntry⟩
  obtain ⟨-, -, -, noSlash, noZero⟩ := Path.leadsDown_iff.mp drawing.isName
  rw [iconFile_eq, List.mem_append, not_or] at noSlash noZero
  exact ⟨noSlash.1, noZero.1⟩

/-! ### Gathering -/

theorem isCollected_of_gives (gives : (gather root).Gives tree (.ok collection)) :
    IsCollected tree root collection := by
  have outcome := (gives_gather tree root).unique gives
  split at outcome
  · exact isCollected_of_gathered outcome
  · cases outcome

theorem gives_gather_of_sameContent (same : tree.SameContent other) :
    (gather root).Gives other
      (if tree.hasDirectoryAt root = true then gathered tree root
        else .error (.refused (.noIconsDirectory root))) := by
  have gives := gives_gather other root
  unfold gathered at gives ⊢
  rw [← scan_eq same, ← read_eq same, ← same.hasDirectoryAt_eq] at gives
  exact gives

/-- Gathering depends on nothing but what stands where. It succeeds exactly if
there is a directory and every drawing's file below it can be read; it then
yields a collection that has what the files hold, and else the fault of the
first file that cannot be read. -/
theorem gather_outcome (tree : Tree) (root : Path) :
    ∃ outcome,
      (∀ other, tree.SameContent other → (gather root).Gives other outcome) ∧
      ((∃ collection, outcome = .ok collection) ↔
        tree.hasDirectoryAt root = true ∧
          ∀ sighting, IsDrawing tree root sighting → IsReadable tree root sighting) ∧
      (∀ collection, outcome = .ok collection → IsCollected tree root collection) ∧
      (∀ fault, outcome = .error fault →
        if tree.hasDirectoryAt root = true then
          ∃ bad, read tree root bad = .error fault ∧
            IsFirst (fun sighting => IsDrawing tree root sighting ∧
              ¬IsReadable tree root sighting) bad
        else fault = .refused (.noIconsDirectory root)) := by
  refine ⟨_, fun other => gives_gather_of_sameContent, ?_⟩
  by_cases present : tree.hasDirectoryAt root = true
  · simp only [present, if_true, true_and]
    rcases gathered_cases tree root with ⟨drawn, isGathered, places, reads⟩ |
      ⟨bad, fault, isGathered, failed, isFirst⟩
    · rw [isGathered]
      refine ⟨iff_of_true ⟨_, rfl⟩ ?_, ?_, fun _ isError => nomatch isError⟩
      · intro sighting drawing
        have listed := mem_scan.mpr drawing
        rw [← places] at listed
        obtain ⟨found, member, rfl⟩ := List.mem_map.mp listed
        exact exists_read_iff.mp ⟨found, reads found member⟩
      · intro collection isCollection
        cases isCollection
        exact isCollected_foldl places reads
    · rw [isGathered]
      refine ⟨iff_of_false ?_ ?_, (fun _ isCollection => nomatch isCollection), ?_⟩
      · exact fun ⟨_, isCollection⟩ => nomatch isCollection
      · exact fun allReadable => isFirst.1.2 (allReadable bad isFirst.1.1)
      · intro other isFault
        cases isFault
        exact ⟨bad, failed, isFirst⟩
  · simp only [present, Bool.false_eq_true, if_false, false_and]
    refine ⟨iff_of_false ?_ not_false, (fun _ isCollection => nomatch isCollection), ?_⟩
    · exact fun ⟨_, isCollection⟩ => nomatch isCollection
    · intro fault isFault
      cases isFault
      rfl

end IconForge.Gather
