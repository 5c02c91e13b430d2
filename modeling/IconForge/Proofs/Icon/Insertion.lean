import IconForge.Icon
import Mathlib.Data.List.Induction
import Mathlib.Data.List.Sort

/-!
Contract: icons to which drawings are added one after another.

Owns:
- entries in canonical order, which are at most one for each variant, and collections of
  icons that have them so;
- what one insertion changes, in whatever way its place is searched for;
- what an icon holds behind any insertions.

Main statements: `inserts_iff`, `insertAll_new`.

Does not own: where drawings come from.
-/

namespace IconForge

/-- Entries in canonical order, and so at most one for each variant. -/
def InOrder (entries : List Entry) : Prop :=
  entries.Pairwise fun one other => one.variant.rank < other.variant.rank

/-- Icons of names that differ, each with its entries in canonical order. -/
structure Collection.IsCanonical (collection : Collection) : Prop where
  distinct : (collection.map Icon.name).Nodup
  inOrder : ∀ icon ∈ collection, InOrder icon.entries

/-- What a drawing changes among entries: it takes the place of the one that its variant has,
or else comes behind the entries of earlier variants and in front of those of later ones. -/
inductive Inserts (variant : Variant) (drawing : Svg.Node) : List Entry → List Entry → Prop where
  | replaces (front back : List Entry) (old : Svg.Node) :
      Inserts variant drawing (front ++ ⟨variant, old⟩ :: back)
        (front ++ ⟨variant, drawing⟩ :: back)
  | joins {front back : List Entry}
      (earlier : ∀ entry ∈ front, entry.variant.rank < variant.rank)
      (later : ∀ entry ∈ back, variant.rank < entry.variant.rank) :
      Inserts variant drawing (front ++ back) (front ++ ⟨variant, drawing⟩ :: back)

variable {variant : Variant} {drawing : Svg.Node} {entry : Entry}
  {entries changed front back : List Entry} {steps : List (Variant × Svg.Node)}

/-! ### One insertion -/

theorem ne_of_rank_lt {one other : Variant} (before : one.rank < other.rank) : one ≠ other :=
  fun same => Nat.ne_of_lt before (congrArg Variant.rank same)

/-- The entries of earlier variants stay as they are. -/
theorem insertEntry_append (earlier : ∀ entry ∈ front, entry.variant.rank < variant.rank) :
    insertEntry variant drawing (front ++ back) = front ++ insertEntry variant drawing back := by
  induction front with
  | nil => rfl
  | cons first rest inductionHypothesis =>
    rw [List.forall_mem_cons] at earlier
    rw [List.cons_append, insertEntry, if_pos earlier.1, inductionHypothesis earlier.2,
      List.cons_append]

theorem insertEntry_replaces (old : Svg.Node) :
    insertEntry variant drawing (⟨variant, old⟩ :: back) = ⟨variant, drawing⟩ :: back := by
  rw [insertEntry, if_neg (Nat.lt_irrefl _), if_pos rfl]

theorem insertEntry_joins (later : ∀ entry ∈ back, variant.rank < entry.variant.rank) :
    insertEntry variant drawing back = ⟨variant, drawing⟩ :: back := by
  cases back with
  | nil => rfl
  | cons next rest =>
    have isLater := later next List.mem_cons_self
    rw [insertEntry, if_neg (Nat.lt_asymm isLater), if_neg (ne_of_rank_lt isLater).symm]

theorem Inserts.behind (earlier : entry.variant.rank < variant.rank)
    (inserts : Inserts variant drawing entries changed) :
    Inserts variant drawing (entry :: entries) (entry :: changed) := by
  cases inserts with
  | replaces front back old => exact .replaces (entry :: front) back old
  | joins earlierFront later =>
    exact .joins (List.forall_mem_cons.mpr ⟨earlier, earlierFront⟩) later

theorem inserts_insertEntry (ordered : InOrder entries) :
    Inserts variant drawing entries (insertEntry variant drawing entries) := by
  induction entries with
  | nil => exact .joins (List.forall_mem_nil _) (List.forall_mem_nil _)
  | cons entry rest inductionHypothesis =>
    obtain ⟨before, restOrdered⟩ := List.pairwise_cons.mp ordered
    rw [insertEntry]
    split
    · next earlier => exact (inductionHypothesis restOrdered).behind earlier
    · next notEarlier =>
      split
      · next same =>
        subst same
        exact .replaces [] rest entry.drawing
      · next differs =>
        have isLater : variant.rank < entry.variant.rank :=
          Nat.lt_of_le_of_ne (Nat.not_lt.mp notEarlier)
            fun same => differs (Variant.eq_of_rank_eq same.symm)
        refine .joins (List.forall_mem_nil _) (List.forall_mem_cons.mpr ⟨isLater, ?_⟩)
        exact fun other member => Nat.lt_trans isLater (before other member)

/-- Among entries in order there is one way only to insert a drawing, so that it does not
matter how its place is found. -/
theorem inserts_iff (ordered : InOrder entries) :
    Inserts variant drawing entries changed ↔ changed = insertEntry variant drawing entries := by
  constructor
  · intro inserts
    cases inserts with
    | replaces front back old =>
      have earlier := (List.pairwise_append.mp ordered).2.2
      rw [insertEntry_append fun one member => earlier one member _ List.mem_cons_self,
        insertEntry_replaces]
    | joins earlier later => rw [insertEntry_append earlier, insertEntry_joins later]
  · rintro rfl
    exact inserts_insertEntry ordered

theorem Inserts.inOrder (ordered : InOrder entries)
    (inserts : Inserts variant drawing entries changed) : InOrder changed := by
  cases inserts with
  | replaces front back old =>
    obtain ⟨frontOrdered, backOrdered, across⟩ := List.pairwise_append.mp ordered
    obtain ⟨before, restOrdered⟩ := List.pairwise_cons.mp backOrdered
    refine List.pairwise_append.mpr
      ⟨frontOrdered, List.pairwise_cons.mpr ⟨before, restOrdered⟩, ?_⟩
    intro one isOne
    have acrossOne := List.forall_mem_cons.mp (across one isOne)
    exact List.forall_mem_cons.mpr acrossOne
  | joins earlier later =>
    obtain ⟨frontOrdered, backOrdered, across⟩ := List.pairwise_append.mp ordered
    refine List.pairwise_append.mpr ⟨frontOrdered, List.pairwise_cons.mpr ⟨later, backOrdered⟩, ?_⟩
    exact fun one isOne => List.forall_mem_cons.mpr ⟨earlier one isOne, across one isOne⟩

/-- Behind an insertion stand the new drawing and the entries of other variants. -/
theorem Inserts.mem_iff (ordered : InOrder entries)
    (inserts : Inserts variant drawing entries changed) :
    entry ∈ changed ↔ entry = ⟨variant, drawing⟩ ∨ entry ∈ entries ∧ entry.variant ≠ variant := by
  have others {rest : List Entry} (differ : ∀ one ∈ rest, one.variant ≠ variant) :
      entry ∈ rest ↔ entry ∈ rest ∧ entry.variant ≠ variant :=
    ⟨fun member => ⟨member, differ entry member⟩, fun both => both.1⟩
  cases inserts with
  | replaces front back old =>
    obtain ⟨-, backOrdered, across⟩ := List.pairwise_append.mp ordered
    have inFront : ∀ one ∈ front, one.variant ≠ variant :=
      fun one member => ne_of_rank_lt (across one member _ List.mem_cons_self)
    have inBack : ∀ one ∈ back, one.variant ≠ variant :=
      fun one member => (ne_of_rank_lt ((List.pairwise_cons.mp backOrdered).1 one member)).symm
    have notOld : ¬(entry = ⟨variant, old⟩ ∧ entry.variant ≠ variant) := by
      rintro ⟨rfl, differs⟩
      exact differs rfl
    rw [List.mem_append, List.mem_cons, List.mem_append, List.mem_cons, or_and_right,
      or_and_right, ← others inFront, ← others inBack, iff_false_intro notOld, false_or]
    exact or_left_comm
  | @joins front back earlier later =>
    have inFront : ∀ one ∈ front, one.variant ≠ variant :=
      fun one member => ne_of_rank_lt (earlier one member)
    have inBack : ∀ one ∈ back, one.variant ≠ variant :=
      fun one member => (ne_of_rank_lt (later one member)).symm
    rw [List.mem_append, List.mem_cons, List.mem_append, or_and_right, ← others inFront,
      ← others inBack]
    exact or_left_comm

/-! ### Entries in order -/

/-- An icon with entries in order has those drawings that it finds by their variants. -/
theorem get?_eq_some_iff {icon : Icon} (ordered : InOrder icon.entries) :
    icon.get? variant = some drawing ↔ ⟨variant, drawing⟩ ∈ icon.entries := by
  unfold Icon.get?
  generalize icon.entries = entries at ordered
  induction entries with
  | nil => exact iff_of_false nofun List.not_mem_nil
  | cons entry rest inductionHypothesis =>
    obtain ⟨before, restOrdered⟩ := List.pairwise_cons.mp ordered
    rw [List.mem_cons]
    by_cases same : entry.variant = variant
    · subst same
      have notLater : (⟨entry.variant, drawing⟩ : Entry) ∉ rest :=
        fun member => ne_of_rank_lt (before _ member) rfl
      rw [List.find?_cons_of_pos (by simp), or_iff_left notLater, Option.map_some,
        Option.some.injEq]
      constructor
      · rintro rfl
        rfl
      · intro same
        exact congrArg Entry.drawing same.symm
    · have notHere : (⟨variant, drawing⟩ : Entry) ≠ entry :=
        fun isEntry => same (congrArg Entry.variant isEntry.symm)
      rw [List.find?_cons_of_neg (by simp [same]), or_iff_right notHere]
      exact inductionHypothesis restOrdered

/-- Entries in order are given by what is among them. -/
theorem eq_of_inOrder {others : List Entry} (ordered : InOrder entries)
    (alsoOrdered : InOrder others) (same : ∀ entry, entry ∈ entries ↔ entry ∈ others) :
    entries = others := by
  have distinct {list : List Entry} (inOrder : InOrder list) : list.Nodup :=
    inOrder.imp fun before same => ne_of_rank_lt before (congrArg Entry.variant same)
  have permuted := (List.perm_ext_iff_of_nodup (distinct ordered) (distinct alsoOrdered)).mpr same
  exact permuted.eq_of_pairwise
    (fun one other _ _ before after => absurd after (Nat.lt_asymm before)) ordered alsoOrdered

/-! ### Insertions one after another -/

/-- An icon to which drawings have been added in turn. -/
def Icon.insertAll (icon : Icon) (steps : List (Variant × Svg.Node)) : Icon :=
  steps.foldl (fun icon step => icon.insert step.1 step.2) icon

/-- The last drawing of a variant among those that are added in turn. -/
def lastDrawing? (variant : Variant) (steps : List (Variant × Svg.Node)) : Option Svg.Node :=
  ((steps.filter fun step => step.1 = variant).getLast?).map Prod.snd

theorem lastDrawing?_concat (step : Variant × Svg.Node) :
    lastDrawing? variant (steps ++ [step]) =
      if step.1 = variant then some step.2 else lastDrawing? variant steps := by
  unfold lastDrawing?
  rw [List.filter_append]
  by_cases same : step.1 = variant
  · have isStep : [step].filter (fun step => step.1 = variant) = [step] :=
      List.filter_cons_of_pos (decide_eq_true same)
    rw [if_pos same, isStep, List.getLast?_concat]
    rfl
  · have noStep : [step].filter (fun step => step.1 = variant) = [] :=
      List.filter_cons_of_neg (by simp [same])
    rw [if_neg same, noStep, List.append_nil]

theorem exists_lastDrawing?_iff :
    (∃ drawing, lastDrawing? variant steps = some drawing) ↔ variant ∈ steps.map Prod.fst := by
  rw [← Option.isSome_iff_exists, lastDrawing?, Option.isSome_map, List.getLast?_isSome,
    List.mem_map]
  simp only [ne_eq, List.filter_eq_nil_iff, decide_eq_true_eq, not_forall, not_not, exists_prop]

/-- What is kept through a run of insertions, on which every further one relies. -/
structure Holds (steps : List (Variant × Svg.Node)) (icon : Icon) : Prop where
  inOrder : InOrder icon.entries
  mem_iff : ∀ entry, entry ∈ icon.entries ↔ lastDrawing? entry.variant steps = some entry.drawing

theorem Holds.insert {icon : Icon} (holds : Holds steps icon) (step : Variant × Svg.Node) :
    Holds (steps ++ [step]) (icon.insert step.1 step.2) := by
  have inserts : Inserts step.1 step.2 icon.entries (icon.insert step.1 step.2).entries :=
    inserts_insertEntry holds.inOrder
  refine ⟨inserts.inOrder holds.inOrder, fun entry => ?_⟩
  rw [inserts.mem_iff holds.inOrder, holds.mem_iff, lastDrawing?_concat]
  obtain ⟨variant, drawing⟩ := entry
  by_cases same : step.1 = variant
  · rw [if_pos same, Option.some.injEq, Entry.mk.injEq, same]
    simp [eq_comm]
  · rw [if_neg same, Entry.mk.injEq]
    simp [Ne.symm same]

theorem holds_insertAll (name : String) (steps : List (Variant × Svg.Node)) :
    Holds steps ((Icon.new name).insertAll steps) := by
  induction steps using List.reverseRecOn with
  | nil => exact ⟨List.Pairwise.nil, fun entry => iff_of_false List.not_mem_nil nofun⟩
  | append_singleton front last inductionHypothesis =>
    rw [Icon.insertAll, List.foldl_append]
    exact inductionHypothesis.insert last

theorem Icon.eq_of_parts {one other : Icon} (sameName : one.name = other.name)
    (sameEntries : one.entries = other.entries) : one = other := by
  cases one
  cases other
  cases sameName
  cases sameEntries
  rfl

theorem name_insertAll (icon : Icon) (steps : List (Variant × Svg.Node)) :
    (icon.insertAll steps).name = icon.name := by
  induction steps generalizing icon with
  | nil => rfl
  | cons step rest inductionHypothesis => exact inductionHypothesis (icon.insert step.1 step.2)

/-- Drawings that are added to a new icon in any order, with any repetitions, stand in
canonical order, each variant has the drawing that was added last, and no two icons differ
that agree on these. -/
theorem insertAll_new (name : String) (steps others : List (Variant × Svg.Node)) :
    InOrder ((Icon.new name).insertAll steps).entries ∧
      (∀ variant, variant ∈ ((Icon.new name).insertAll steps).entries.map Entry.variant ↔
        variant ∈ steps.map Prod.fst) ∧
      (∀ variant, ((Icon.new name).insertAll steps).get? variant = lastDrawing? variant steps) ∧
      ((Icon.new name).insertAll others = (Icon.new name).insertAll steps ↔
        ∀ variant, lastDrawing? variant others = lastDrawing? variant steps) := by
  have holds := holds_insertAll name steps
  have found (steps : List (Variant × Svg.Node)) (variant : Variant) :
      ((Icon.new name).insertAll steps).get? variant = lastDrawing? variant steps := by
    have holds := holds_insertAll name steps
    ext drawing
    rw [get?_eq_some_iff holds.inOrder, holds.mem_iff]
  refine ⟨holds.inOrder, fun variant => ?_, found steps, fun same variant => ?_, fun same => ?_⟩
  · rw [← exists_lastDrawing?_iff, List.mem_map]
    constructor
    · rintro ⟨entry, member, rfl⟩
      exact ⟨entry.drawing, (holds.mem_iff entry).mp member⟩
    · rintro ⟨drawing, isLast⟩
      exact ⟨⟨variant, drawing⟩, (holds.mem_iff _).mpr isLast, rfl⟩
  · rw [← found others, ← found steps, same]
  · have alsoHolds := holds_insertAll name others
    have sameEntries : ((Icon.new name).insertAll others).entries =
        ((Icon.new name).insertAll steps).entries := by
      refine eq_of_inOrder alsoHolds.inOrder holds.inOrder fun entry => ?_
      rw [alsoHolds.mem_iff, holds.mem_iff, same]
    have sameName : ((Icon.new name).insertAll others).name =
        ((Icon.new name).insertAll steps).name := by
      rw [name_insertAll, name_insertAll]
    exact Icon.eq_of_parts sameName sameEntries

example : (Icon.new "star").insertAll
    [(.duotoneLine, .text "a"), (.light, .text "b"), (.duotoneLine, .text "c")] =
      ⟨"star", [⟨.light, .text "b"⟩, ⟨.duotoneLine, .text "c"⟩]⟩ := rfl

end IconForge
