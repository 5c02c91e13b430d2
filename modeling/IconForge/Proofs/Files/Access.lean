import IconForge.Files.Access
import IconForge.Proofs.Files.Path
import Mathlib.Data.List.Nodup

/-!
Contract: what is found along paths.

Owns:
- what stands in a directory, by the places below it;
- where a path leads, what it finds there, and that both depend on nothing but
  what stands where.

Main statements: `mem_children_iff`, `locate_join`, `lookUp_eq_ok_iff`,
`SameContent.lookUp_eq`.

Does not own: what changes along paths.
-/

namespace IconForge.Files.Tree

variable {tree other : Tree} {place there : Place} {path : Path} {name : Name}
  {item : Item} {steps more : List Step}

/-! ### What stands at places -/

theorem get?_of_mem (listed : (place, item) ∈ tree.items) : tree.get? place = some item := by
  obtain ⟨name, parent, isCons, -⟩ := tree.grounded _ listed
  rw [get?, if_neg (by simp [show place = name :: parent from isCons])]
  exact Keyed.get?_of_mem tree.distinct listed

theorem mem_items_of_get? (notTop : place ≠ []) (stands : tree.get? place = some item) :
    (place, item) ∈ tree.items := by
  rw [get?, if_neg (by simp [notTop])] at stands
  exact Keyed.mem_of_get? stands

theorem mem_children_iff :
    (name, item) ∈ tree.children place ↔ tree.get? (name :: place) = some item := by
  unfold children
  rw [List.mem_filterMap]
  constructor
  · rintro ⟨⟨at_, found⟩, listed, isChild⟩
    cases at_ with
    | nil => cases isChild
    | cons first parent =>
      simp only at isChild
      split at isChild
      · next same =>
        cases isChild
        subst same
        exact get?_of_mem listed
      · cases isChild
  · intro stands
    refine ⟨(name :: place, item), mem_items_of_get? (List.cons_ne_nil _ _) stands, ?_⟩
    exact if_pos rfl

theorem nodup_names_children : ((tree.children place).map Prod.fst).Nodup := by
  have places : (((tree.children place).map Prod.fst).map (· :: place)).Sublist
      (tree.items.map Prod.fst) := by
    unfold children
    induction tree.items with
    | nil => exact List.Sublist.refl _
    | cons entry rest inductionHypothesis =>
      obtain ⟨at_, found⟩ := entry
      cases at_ with
      | nil => exact inductionHypothesis.cons _
      | cons first parent =>
        rw [List.filterMap_cons]
        by_cases same : parent = place
        · simp only [same, if_true, List.map_cons]
          exact inductionHypothesis.cons_cons _
        · simp only [same, if_false]
          exact inductionHypothesis.cons _
  exact (tree.distinct.sublist places).of_map _

/-- What stands somewhere stands in a directory. -/
theorem isDirectory_parent (stands : tree.get? (name :: place) = some item) :
    tree.isDirectory place = true := by
  obtain ⟨first, parent, isPlace, present⟩ :=
    tree.grounded _ (mem_items_of_get? (List.cons_ne_nil _ _) stands)
  cases isPlace
  exact isDirectory_of_hasDirectory present

/-- Below a place where nothing stands there is nothing. -/
theorem get?_append_eq_none (place : Place) (free : tree.get? there = none) :
    tree.get? (place ++ there) = none := by
  induction place with
  | nil => exact free
  | cons name parent inductionHypothesis =>
    cases stands : tree.get? (name :: parent ++ there) with
    | none => rfl
    | some item =>
      have present : tree.get? (parent ++ there) = some .directory :=
        isDirectory_iff.mp (isDirectory_parent stands)
      rw [inductionHypothesis] at present
      cases present

theorem named_of_get? (stands : tree.get? place = some item) :
    ∀ name ∈ place, Path.leadsDown name = true := by
  by_cases isTop : place = []
  · simp [isTop]
  · exact tree.named _ (mem_items_of_get? isTop stands)

/-! ### Where paths lead -/

theorem walk_cons (step : Step) :
    tree.walk place (step :: steps) =
      if tree.isDirectory place = true then
        match step with
        | .stay => tree.walk place steps
        | .up => tree.walk place.tail steps
        | .down name =>
          if longestName < name.length then .error .nameTooLong
          else tree.walk (name :: place) steps
      else .error (tree.whyNoDirectory place) := by
  cases step <;> rfl

/-- A way is walked in two parts, the second from where the first leads. -/
theorem walk_append :
    tree.walk place (steps ++ more) =
      (tree.walk place steps).bind fun there => tree.walk there more := by
  induction steps generalizing place with
  | nil => rfl
  | cons step rest inductionHypothesis =>
    rw [List.cons_append, walk_cons, walk_cons]
    split
    · cases step with
      | stay => exact inductionHypothesis
      | up => exact inductionHypothesis
      | down name =>
        simp only
        split
        · rfl
        · exact inductionHypothesis
    · rfl

theorem walk_down_iff :
    tree.walk place [.down name] = .ok there ↔
      tree.isDirectory place = true ∧ name.length ≤ longestName ∧ there = name :: place := by
  rw [walk_cons]
  split
  · next present =>
    simp only [present, true_and]
    split
    · next long => exact iff_of_false (fun same => nomatch same) (fun both => by omega)
    · next short =>
      constructor
      · intro same
        cases same
        exact ⟨Nat.le_of_not_lt short, rfl⟩
      · rintro ⟨-, rfl⟩
        rfl
  · next absent => exact iff_of_false (fun same => nomatch same) (fun both => absent both.1)

/-- A path that can be followed at all, whatever stands where. -/
structure Usable (path : Path) : Prop where
  noZero : path.bytes.contains 0 = false
  notEmpty : path.bytes ≠ []
  notLong : path.bytes.length ≤ longestPath

theorem Usable.noZero_mem (usable : Usable path) : 0 ∉ path.bytes := by
  have noZero := usable.noZero
  rwa [Bool.eq_false_iff, Ne, List.contains_iff_mem] at noZero

theorem usable_of_join (leads : Path.leadsDown name = true) (notEmpty : path.bytes ≠ [])
    (usable : Usable (path.join ⟨name⟩)) : Usable path := by
  obtain ⟨noZero, -, notLong⟩ := usable
  have isFront : ∃ back, (path.join ⟨name⟩).bytes = path.bytes ++ back := by
    rcases Path.join_cases path leads with ⟨-, joined⟩ | joined
    · exact ⟨name, by rw [joined]⟩
    · exact ⟨Path.slash :: name, by rw [joined]⟩
  obtain ⟨back, isFront⟩ := isFront
  rw [isFront] at noZero notLong
  rw [List.contains_eq_any_beq, List.any_append, Bool.or_eq_false_iff] at noZero
  rw [List.length_append] at notLong
  exact ⟨by rw [List.contains_eq_any_beq]; exact noZero.1, notEmpty, by omega⟩

theorem locate_eq_ok_iff :
    tree.locate path = .ok place ↔ Usable path ∧ tree.walk [] path.steps = .ok place := by
  unfold locate
  split
  · next zero =>
    exact iff_of_false (fun same => nomatch same) fun both =>
      absurd zero (Bool.eq_false_iff.mp both.1.noZero)
  · next noZero =>
    split
    · next isEmpty =>
      exact iff_of_false (fun same => nomatch same) fun both =>
        both.1.notEmpty (List.isEmpty_iff.mp isEmpty)
    · next notEmpty =>
      split
      · next long =>
        exact iff_of_false (fun same => nomatch same) fun both =>
          absurd both.1.notLong (Nat.not_le_of_lt long)
      · next short =>
        have usable : Usable path :=
          ⟨Bool.eq_false_iff.mpr noZero, fun isEmpty => notEmpty (List.isEmpty_iff.mpr isEmpty),
            Nat.le_of_not_lt short⟩
        exact (and_iff_right usable).symm

theorem foldl_follow_of_walk (walked : tree.walk place steps = .ok there) :
    steps.foldl Step.follow place = there := by
  induction steps generalizing place with
  | nil =>
    cases walked
    rfl
  | cons step rest inductionHypothesis =>
    rw [walk_cons] at walked
    split at walked
    · cases step with
      | stay => exact inductionHypothesis walked
      | up => exact inductionHypothesis walked
      | down name =>
        simp only at walked
        split at walked
        · cases walked
        · exact inductionHypothesis walked
    · cases walked

/-- A path leads to the place that it means, or nowhere. -/
theorem destination_of_locate (located : tree.locate path = .ok place) :
    path.destination = place :=
  foldl_follow_of_walk (locate_eq_ok_iff.mp located).2

/-- The path of a name in a directory leads to the name's place there. -/
theorem locate_join (leads : Path.leadsDown name = true)
    (located : tree.locate (path.join ⟨name⟩) = .ok place) :
    ∃ parent, place = name :: parent ∧ tree.walk [] path.steps = .ok parent ∧
      tree.isDirectory parent = true := by
  obtain ⟨-, walked⟩ := locate_eq_ok_iff.mp located
  rw [Path.steps_join leads, walk_append] at walked
  cases way : tree.walk [] path.steps with
  | error error =>
    rw [way] at walked
    cases walked
  | ok parent =>
    rw [way] at walked
    obtain ⟨present, -, rfl⟩ := walk_down_iff.mp walked
    exact ⟨parent, rfl, rfl, present⟩

theorem lookUp_eq_ok_iff :
    tree.lookUp path = .ok (place, item) ↔
      tree.locate path = .ok place ∧ tree.get? place = some item ∧
        (item = .directory ∨ path.endsInSlash = false) := by
  unfold lookUp
  cases located : tree.locate path with
  | error error => exact iff_of_false (fun same => nomatch same) (fun both => nomatch both.1)
  | ok there =>
    simp only [bind, Except.bind, Except.ok.injEq]
    cases found : tree.get? there with
    | none =>
      refine iff_of_false (fun same => nomatch same) ?_
      rintro ⟨rfl, stands, -⟩
      rw [found] at stands
      cases stands
    | some content =>
      cases content with
      | directory =>
        simp only [Except.ok.injEq, Prod.mk.injEq]
        constructor
        · rintro ⟨rfl, rfl⟩
          exact ⟨rfl, found, Or.inl rfl⟩
        · rintro ⟨rfl, stands, -⟩
          rw [found] at stands
          exact ⟨rfl, Option.some.inj stands⟩
      | file bytes =>
        cases slashed : path.endsInSlash with
        | true =>
          refine iff_of_false (fun same => nomatch same) ?_
          rintro ⟨rfl, stands, isDirectory | noSlash⟩
          · rw [found, isDirectory] at stands
            cases stands
          · cases noSlash
        | false =>
          simp only [Bool.false_eq_true, if_false, Except.ok.injEq, Prod.mk.injEq]
          constructor
          · rintro ⟨rfl, rfl⟩
            exact ⟨rfl, found, Or.inr trivial⟩
          · rintro ⟨rfl, stands, -⟩
            rw [found] at stands
            exact ⟨rfl, Option.some.inj stands⟩

theorem hasAt_iff : tree.hasAt path = true ↔ ∃ place item, tree.lookUp path = .ok (place, item) := by
  unfold hasAt
  split
  · next reached found => exact iff_of_true rfl ⟨reached.1, reached.2, found⟩
  · next error failed =>
    refine iff_of_false (fun same => nomatch same) ?_
    rintro ⟨place, item, found⟩
    rw [failed] at found
    cases found

/-- A path along which a name is found is found itself. -/
theorem hasAt_of_join (leads : Path.leadsDown name = true) (notEmpty : path.bytes ≠ [])
    (present : tree.hasAt (path.join ⟨name⟩) = true) : tree.hasAt path = true := by
  obtain ⟨place, item, found⟩ := hasAt_iff.mp present
  obtain ⟨located, -, -⟩ := lookUp_eq_ok_iff.mp found
  obtain ⟨parent, -, walked, inDirectory⟩ := locate_join leads located
  have usable := usable_of_join leads notEmpty (locate_eq_ok_iff.mp located).1
  have alsoLocated := locate_eq_ok_iff.mpr ⟨usable, walked⟩
  exact hasAt_iff.mpr ⟨parent, .directory, lookUp_eq_ok_iff.mpr
    ⟨alsoLocated, isDirectory_iff.mp inDirectory, Or.inl rfl⟩⟩

theorem exists_lookUp_of_readBytes {content : ByteArray}
    (isRead : tree.readBytes path = .ok content) :
    ∃ place, tree.lookUp path = .ok (place, .file content) := by
  unfold readBytes at isRead
  cases found : tree.lookUp path with
  | error error =>
    rw [found] at isRead
    cases isRead
  | ok reached =>
    obtain ⟨place, item⟩ := reached
    rw [found] at isRead
    cases item with
    | directory => cases isRead
    | file held =>
      cases isRead
      exact ⟨place, rfl⟩

theorem hasAt_of_readBytes {content : ByteArray} (isRead : tree.readBytes path = .ok content) :
    tree.hasAt path = true := by
  obtain ⟨place, found⟩ := exists_lookUp_of_readBytes isRead
  exact hasAt_iff.mpr ⟨place, _, found⟩

/-- Where nothing is found under a name in a directory, nothing stands at its place. -/
theorem get?_eq_none_of_absent (walked : tree.walk [] path.steps = .ok place)
    (leads : Path.leadsDown name = true) (short : name.length ≤ longestName)
    (usable : Usable (path.join ⟨name⟩)) (absent : tree.hasAt (path.join ⟨name⟩) = false) :
    tree.get? (name :: place) = none := by
  cases stands : tree.get? (name :: place) with
  | none => rfl
  | some item =>
    have present := isDirectory_parent stands
    have located : tree.locate (path.join ⟨name⟩) = .ok (name :: place) := by
      refine locate_eq_ok_iff.mpr ⟨usable, ?_⟩
      rw [Path.steps_join leads, walk_append, walked]
      exact walk_down_iff.mpr ⟨present, short, rfl⟩
    have found := lookUp_eq_ok_iff.mpr
      ⟨located, stands, Or.inr (Path.endsInSlash_join leads)⟩
    rw [hasAt_iff.mpr ⟨_, _, found⟩] at absent
    cases absent

theorem hasFileAt_iff :
    tree.hasFileAt path = true ↔
      ∃ place content, tree.lookUp path = .ok (place, .file content) := by
  unfold hasFileAt
  split
  · next place content found => exact iff_of_true rfl ⟨place, content, found⟩
  · next noFile =>
    refine iff_of_false (fun same => nomatch same) ?_
    rintro ⟨place, content, found⟩
    exact noFile place content found

theorem hasDirectoryAt_iff :
    tree.hasDirectoryAt path = true ↔ ∃ place, tree.lookUp path = .ok (place, .directory) := by
  unfold hasDirectoryAt
  split
  · next place found => exact iff_of_true rfl ⟨place, found⟩
  · next noDirectory =>
    refine iff_of_false (fun same => nomatch same) ?_
    rintro ⟨place, found⟩
    exact noDirectory place found

theorem hasAt_of_hasDirectoryAt (present : tree.hasDirectoryAt path = true) :
    tree.hasAt path = true := by
  obtain ⟨place, found⟩ := hasDirectoryAt_iff.mp present
  unfold hasAt
  rw [found]

/-- A directory is listed as what stands in it. -/
theorem list_of_lookUp (found : tree.lookUp path = .ok (place, .directory)) :
    tree.list path = .ok (tree.children place) := by
  unfold list directoryAt
  rw [found]
  rfl

/-- A file found along the path of a name in a directory is listed there. -/
theorem mem_names_children_of_hasFileAt (leads : Path.leadsDown name = true)
    (found : tree.lookUp path = .ok (place, .directory))
    (isFile : tree.hasFileAt (path.join ⟨name⟩) = true) :
    name ∈ (tree.children place).map Prod.fst := by
  obtain ⟨at_, content, fileFound⟩ := hasFileAt_iff.mp isFile
  obtain ⟨fileLocated, stands, -⟩ := lookUp_eq_ok_iff.mp fileFound
  obtain ⟨parent, isChild, walked, -⟩ := locate_join leads fileLocated
  obtain ⟨-, alsoWalked⟩ := locate_eq_ok_iff.mp (lookUp_eq_ok_iff.mp found).1
  rw [walked] at alsoWalked
  cases alsoWalked
  subst isChild
  exact List.mem_map.mpr ⟨_, mem_children_iff.mpr stands, rfl⟩

/-- A text is read from the bytes that store it. -/
theorem readText_of_readBytes {text : String} (isRead : tree.readBytes path = .ok text.toUTF8) :
    tree.readText path = .ok text := by
  unfold readText
  rw [isRead]
  simp only [bind, Except.bind, Text.fromUTF8?_toUTF8]

/-! ### Trees that hold the same -/

/-- The same stands at every place, whatever the order in which it is listed. -/
def SameContent (tree other : Tree) : Prop :=
  ∀ place, tree.get? place = other.get? place

namespace SameContent

theorem refl (tree : Tree) : SameContent tree tree :=
  fun _ => rfl

variable (same : SameContent tree other)
include same

theorem symm : SameContent other tree :=
  fun place => (same place).symm

theorem walk_eq : tree.walk place steps = other.walk place steps := by
  induction steps generalizing place with
  | nil => rfl
  | cons step rest inductionHypothesis =>
    have directories : tree.isDirectory place = other.isDirectory place := by
      unfold isDirectory
      rw [same place]
    have reasons : tree.whyNoDirectory place = other.whyNoDirectory place := by
      unfold whyNoDirectory
      rw [same place]
    rw [walk_cons, walk_cons, directories, reasons]
    cases step <;> simp only [inductionHypothesis]

theorem lookUp_eq (path : Path) : tree.lookUp path = other.lookUp path := by
  have located : tree.locate path = other.locate path := by
    unfold locate
    rw [same.walk_eq]
  unfold lookUp
  rw [located]
  cases other.locate path with
  | error error => rfl
  | ok place => simp only [bind, Except.bind, same place]

theorem hasFileAt_eq (path : Path) : tree.hasFileAt path = other.hasFileAt path := by
  unfold hasFileAt
  rw [same.lookUp_eq]

theorem hasDirectoryAt_eq (path : Path) :
    tree.hasDirectoryAt path = other.hasDirectoryAt path := by
  unfold hasDirectoryAt
  rw [same.lookUp_eq]

theorem readText_eq (path : Path) : tree.readText path = other.readText path := by
  unfold readText readBytes
  rw [same.lookUp_eq]

end SameContent

end IconForge.Files.Tree
