import Mathlib.Data.List.Basic

/-!
Contract: steps that may fail.

Owns:
- when two steps in a row succeed;
- lists of which every item is read.

Does not own: what the steps are, or why one fails.
-/

namespace IconForge

variable {α β γ ε : Type}

theorem bind_eq_ok_iff {first : Except ε α} {next : α → Except ε β} {value : β} :
    (first >>= next) = .ok value ↔ ∃ found, first = .ok found ∧ next found = .ok value := by
  cases first with
  | error error => exact iff_of_false nofun nofun
  | ok found =>
    constructor
    · exact fun yields => ⟨found, rfl, yields⟩
    · rintro ⟨_, isFound, yields⟩
      cases isFound
      exact yields

theorem map_eq_ok_iff {first : Except ε α} {change : α → β} {value : β} :
    first.map change = .ok value ↔ ∃ found, first = .ok found ∧ change found = value := by
  cases first with
  | error error => exact iff_of_false nofun nofun
  | ok found => simp [Except.map]

/-- A list of which every item is read shows what its items show. -/
theorem mapM_eq_some_of_eq_ok {read : α → Except ε β} {look : α → Option γ} {shape : β → γ}
    (shows : ∀ item value, read item = .ok value → look item = some (shape value))
    {items : List α} {values : List β} (areRead : items.mapM read = .ok values) :
    items.mapM look = some (values.map shape) := by
  induction items generalizing values with
  | nil =>
    cases areRead
    rfl
  | cons item rest inductionHypothesis =>
    rw [List.mapM_cons] at areRead
    obtain ⟨value, isRead, restRead⟩ := bind_eq_ok_iff.mp areRead
    obtain ⟨others, othersRead, together⟩ := bind_eq_ok_iff.mp restRead
    cases together
    rw [List.mapM_cons, shows item value isRead, inductionHypothesis othersRead]
    rfl

/-- A list of items is looked at in full if every look shows something. -/
theorem mapM_eq_some_iff {look : α → Option β} {items : List α} {values : List β} :
    items.mapM look = some values ↔ items.map look = values.map some := by
  induction items generalizing values with
  | nil => cases values <;> simp
  | cons item rest inductionHypothesis =>
    cases values with
    | nil => simp [List.mapM_cons, Option.bind_eq_some_iff]
    | cons value others =>
      simp only [List.mapM_cons, Option.bind_eq_bind, Option.bind_eq_some_iff, Option.pure_def,
        Option.some.injEq, List.cons.injEq, inductionHypothesis, List.map_cons]
      constructor
      · rintro ⟨_, isShown, _, areShown, rfl, rfl⟩
        exact ⟨isShown, areShown⟩
      · rintro ⟨isShown, areShown⟩
        exact ⟨value, isShown, others, areShown, rfl, rfl⟩

/-- A list of items is read if each of them is. -/
theorem exists_mapM_of_forall {read : α → Except ε β} {items : List α}
    (each : ∀ item ∈ items, ∃ value, read item = .ok value) :
    ∃ values, items.mapM read = .ok values := by
  induction items with
  | nil => exact ⟨[], rfl⟩
  | cons item rest inductionHypothesis =>
    rw [List.forall_mem_cons] at each
    obtain ⟨value, isRead⟩ := each.1
    obtain ⟨values, areRead⟩ := inductionHypothesis each.2
    rw [List.mapM_cons, isRead, areRead]
    exact ⟨_, rfl⟩

/-- Where every look at an item shows a value with a property, a list of items shows a list of
such values. -/
theorem exists_map_of_forall {look : α → Option β} {holds : β → Prop} {items : List α}
    (each : ∀ item ∈ items, ∃ value, look item = some value ∧ holds value) :
    ∃ values : List β, items.map look = values.map some ∧ ∀ value ∈ values, holds value := by
  induction items with
  | nil => exact ⟨[], rfl, List.forall_mem_nil _⟩
  | cons item rest inductionHypothesis =>
    rw [List.forall_mem_cons] at each
    obtain ⟨value, isShown, isHeld⟩ := each.1
    obtain ⟨values, areShown, areHeld⟩ := inductionHypothesis each.2
    refine ⟨value :: values, ?_, List.forall_mem_cons.mpr ⟨isHeld, areHeld⟩⟩
    rw [List.map_cons, List.map_cons, isShown, areShown]

end IconForge
