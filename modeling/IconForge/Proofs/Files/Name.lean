import IconForge.Files.Path
import Mathlib.Data.List.TakeWhile

/-!
Contract: names by their bytes.

Owns:
- the order of names as a total order;
- the name that a stem and an extension make, and its cut into the two.

Main statements: `precedes_total`, `cut_eq_some_iff`.

Does not own: the stems and extensions that mean anything.
-/

namespace IconForge.Files.Name

/-! ### The order of names -/

theorem precedes_trans {first second third : Name} (one : precedes first second = true)
    (two : precedes second third = true) : precedes first third = true := by
  induction first generalizing second third with
  | nil => rfl
  | cons a first inductionHypothesis =>
    cases second with
    | nil => cases one
    | cons b second =>
      cases third with
      | nil => cases two
      | cons c third =>
        simp only [precedes, Bool.or_eq_true, Bool.and_eq_true, decide_eq_true_eq,
          beq_iff_eq] at one two ⊢
        rcases one with less | ⟨same, rest⟩
        · rcases two with alsoLess | ⟨also, -⟩
          · exact Or.inl (UInt8.lt_trans less alsoLess)
          · exact Or.inl (also ▸ less)
        · subst same
          rcases two with less | ⟨also, behind⟩
          · exact Or.inl less
          · exact Or.inr ⟨also, inductionHypothesis rest behind⟩

theorem precedes_total (first second : Name) :
    precedes first second = true ∨ precedes second first = true := by
  induction first generalizing second with
  | nil => exact Or.inl rfl
  | cons a first inductionHypothesis =>
    cases second with
    | nil => exact Or.inr rfl
    | cons b second =>
      simp only [precedes, Bool.or_eq_true, Bool.and_eq_true, decide_eq_true_eq, beq_iff_eq]
      rcases Nat.lt_trichotomy a.toNat b.toNat with less | same | greater
      · exact Or.inl (Or.inl less)
      · obtain rfl := UInt8.toNat_inj.mp same
        rcases inductionHypothesis second with before | behind
        · exact Or.inl (Or.inr ⟨rfl, before⟩)
        · exact Or.inr (Or.inr ⟨rfl, behind⟩)
      · exact Or.inr (Or.inl greater)

theorem precedes_antisymm {first second : Name} (before : precedes first second = true)
    (behind : precedes second first = true) : first = second := by
  induction first generalizing second with
  | nil =>
    cases second with
    | nil => rfl
    | cons b second => cases behind
  | cons a first inductionHypothesis =>
    cases second with
    | nil => cases before
    | cons b second =>
      simp only [precedes, Bool.or_eq_true, Bool.and_eq_true, decide_eq_true_eq,
        beq_iff_eq] at before behind
      rcases before with less | ⟨same, rest⟩
      · rcases behind with greater | ⟨same, -⟩
        · exact absurd greater (UInt8.lt_asymm less)
        · exact absurd (same ▸ less) (UInt8.lt_irrefl _)
      · subst same
        rcases behind with less | ⟨-, restBehind⟩
        · exact absurd less (UInt8.lt_irrefl _)
        · rw [inductionHypothesis rest restBehind]

/-! ### Stems and extensions -/

/-- The cut of a name whose last dot is known. -/
theorem cut_append {front ending : Name} (notEmpty : front ≠ []) (noDot : dot ∉ ending) :
    cut (front ++ dot :: ending) = (front, some ending) := by
  have backwards : (front ++ dot :: ending).reverse = ending.reverse ++ dot :: front.reverse := by
    simp
  have noneIsDot : ∀ byte ∈ ending.reverse, (byte != dot) = true := by
    intro byte member
    rw [bne_iff_ne]
    rintro rfl
    exact noDot (List.mem_reverse.mp member)
  have taken : (ending.reverse ++ dot :: front.reverse).takeWhile (· != dot) =
      ending.reverse := by
    rw [List.takeWhile_append_of_pos noneIsDot, List.takeWhile_cons_of_neg (by simp),
      List.append_nil]
  have left : (ending.reverse ++ dot :: front.reverse).dropWhile (· != dot) =
      dot :: front.reverse := by
    rw [List.dropWhile_append_of_pos noneIsDot, List.dropWhile_cons_of_neg (by simp)]
  unfold cut
  rw [backwards, taken, left]
  simp [notEmpty]

/-- A name with an extension is cut at its last dot, which is not its first
character. -/
theorem cut_eq_some_iff {name front ending : Name} :
    name.cut = (front, some ending) ↔
      front ≠ [] ∧ dot ∉ ending ∧ name = front ++ dot :: ending := by
  constructor
  · intro isCut
    have together := List.takeWhile_append_dropWhile (p := (· != dot)) (l := name.reverse)
    unfold cut at isCut
    simp only at isCut
    split at isCut
    · cases isCut
    · next hasFront =>
      cases isCut
      have noDot : dot ∉ name.reverse.takeWhile (· != dot) := by
        intro member
        exact absurd (List.mem_takeWhile_imp member) (by simp)
      cases left : name.reverse.dropWhile (· != dot) with
      | nil => simp [left] at hasFront
      | cons byte rest =>
        have isDot : byte = dot := by
          have notDropped := List.head?_dropWhile_not (· != dot) name.reverse
          rw [left] at notDropped
          simpa using notDropped
        subst isDot
        rw [left] at together hasFront
        refine ⟨by simpa using hasFront, by simpa using noDot, ?_⟩
        have backwards := congrArg List.reverse together
        rw [List.reverse_reverse, List.reverse_append, List.reverse_cons] at backwards
        exact backwards.symm.trans (by simp)
  · rintro ⟨notEmpty, noDot, rfl⟩
    exact cut_append notEmpty noDot

theorem extension?_eq_some_iff {name ending : Name} :
    name.extension? = some ending ↔ name.cut = (name.stem, some ending) :=
  ⟨fun isEnding => Prod.ext rfl isEnding, fun isCut => congrArg Prod.snd isCut⟩

end IconForge.Files.Name
