import IconForge.Text.Case

/-!
Contract: small letters in the upper and lower forms of characters.

Owns:
- the codes of the letters of ASCII;
- that the form of a character is one that the tables give it, or the character itself;
- that the upper form of a character is not empty and holds neither a small letter nor, if
  the character is none, a line feed;
- which characters have a small letter as their lower form: the letter in either form, and
  for `k` the Kelvin sign;
- the lower form of a text of ASCII.

Main statements: `isLower_of_mem_upper`, `lower_of_small`.

Does not own: where characters change their form.
-/

namespace IconForge.Text.Case

variable {c d : Char} {code : Nat} {expansions : List (Nat × List Nat)} {runs : List Run}

/-! ### Codes of letters -/

theorem toNat_of_isAlpha (alpha : c.isAlpha = true) :
    (0x41 ≤ c.toNat ∧ c.toNat ≤ 0x5A) ∨ (0x61 ≤ c.toNat ∧ c.toNat ≤ 0x7A) := by
  rcases Bool.or_eq_true_iff.mp alpha with upperCase | lowerCase
  · obtain ⟨atLeast, atMost⟩ := of_decide_eq_true upperCase
    exact Or.inl ⟨atLeast, atMost⟩
  · obtain ⟨atLeast, atMost⟩ := Bool.and_eq_true_iff.mp lowerCase
    exact Or.inr ⟨of_decide_eq_true atLeast, of_decide_eq_true atMost⟩

theorem isLower_iff : c.isLower = true ↔ 0x61 ≤ c.toNat ∧ c.toNat ≤ 0x7A := by
  change (decide ('a'.val ≤ c.val) && decide (c.val ≤ 'z'.val)) = true ↔ _
  rw [Bool.and_eq_true, decide_eq_true_eq, decide_eq_true_eq, UInt32.le_iff_toNat_le,
    UInt32.le_iff_toNat_le]
  rfl

/-! ### Forms out of the tables -/

/-- A code that is none of a small letter is not one of a character that is. -/
theorem isLower_ofNat (small : (Char.ofNat code).isLower = true) : 0x61 ≤ code ∧ code ≤ 0x7A := by
  obtain ⟨low, high⟩ := isLower_iff.mp small
  by_cases valid : code.isValidChar
  · rw [Char.ofNat, dif_pos valid] at low high
    exact ⟨low, high⟩
  · rw [Char.ofNat, dif_neg valid] at low
    exact absurd low (by decide)

theorem image?_eq_some {run : Run} (image : run.image? code = some d) :
    run.first ≤ code ∧ code ≤ run.last ∧ d = Char.ofNat (code + run.shift).toNat := by
  rw [Run.image?] at image
  split at image
  · next inRun =>
    cases image
    exact ⟨inRun.1, inRun.2.1, rfl⟩
  · cases image

/-- The form of a character is one that the tables give it, or the character itself. -/
theorem formOf_cases (expansions : List (Nat × List Nat)) (runs : List Run) (c : Char) :
    (∃ expansion ∈ expansions, expansion.1 = c.toNat ∧
        formOf expansions runs c = expansion.2.map Char.ofNat) ∨
      (∃ run ∈ runs, ∃ d, run.image? c.toNat = some d ∧ formOf expansions runs c = [d]) ∨
      formOf expansions runs c = [c] := by
  unfold formOf
  split
  · next expansion found =>
    have isCode := List.find?_some found
    exact Or.inl ⟨expansion, List.mem_of_find?_eq_some found, beq_iff_eq.mp isCode, rfl⟩
  · split
    · next image found =>
      obtain ⟨run, member, isImage⟩ := List.exists_of_findSome?_eq_some found
      exact Or.inr (Or.inl ⟨run, member, image, isImage, rfl⟩)
    · exact Or.inr (Or.inr rfl)

/-- What holds of the characters with the codes of ASCII holds of each of them. -/
theorem forall_ascii {p : Char → Prop} (each : ∀ code < 0x80, p (Char.ofNat code))
    (ascii : c.toNat < 0x80) : p c := by
  have here := each c.toNat ascii
  rwa [Char.ofNat_toNat] at here

theorem not_isLower_of_toNat (beyond : ¬c.toNat < 0x80) : c.isLower = false := by
  rw [Bool.eq_false_iff]
  intro small
  have high := (isLower_iff.mp small).2
  omega

/-! ### Upper forms -/

set_option maxRecDepth 4000 in
/-- No character stands for nothing, and none for a small letter, in the table of upper forms. -/
theorem upperTables :
    (∀ expansion ∈ upperExpansions,
      expansion.2 ≠ [] ∧ ∀ code ∈ expansion.2, ¬(0x61 ≤ code ∧ code ≤ 0x7A)) ∧
      ∀ run ∈ upperRuns, (run.last : Int) + run.shift < 0x61 ∨
        (0x7A : Int) < run.first + run.shift := by
  decide

theorem toUpper_of_ascii (ascii : c.toNat < 0x80) : c.toUpper.isLower = false := by
  refine forall_ascii (p := fun c => c.toUpper.isLower = false) ?_ ascii
  decide

theorem upper_ne_nil (c : Char) : upper c ≠ [] := by
  rw [upper]
  split
  · exact List.cons_ne_nil _ _
  · rcases formOf_cases upperExpansions upperRuns c with
      ⟨expansion, member, -, form⟩ | ⟨run, -, d, -, form⟩ | form
    · rw [form]
      exact fun empty => (upperTables.1 expansion member).1 (List.map_eq_nil_iff.mp empty)
    · rw [form]
      exact List.cons_ne_nil _ _
    · rw [form]
      exact List.cons_ne_nil _ _

theorem isLower_of_mem_upper (member : d ∈ upper c) : d.isLower = false := by
  rw [upper] at member
  split at member
  · next ascii =>
    rw [List.mem_singleton.mp member]
    exact toUpper_of_ascii ascii
  · next beyond =>
    rcases formOf_cases upperExpansions upperRuns c with
      ⟨expansion, isExpansion, -, form⟩ | ⟨run, isRun, image, isImage, form⟩ | form
    · rw [form] at member
      obtain ⟨code, isCode, rfl⟩ := List.mem_map.mp member
      rw [Bool.eq_false_iff]
      exact fun small => (upperTables.1 expansion isExpansion).2 code isCode (isLower_ofNat small)
    · rw [form] at member
      obtain ⟨first, last, rfl⟩ := image?_eq_some isImage
      rw [List.mem_singleton.mp member, Bool.eq_false_iff]
      intro small
      have between := isLower_ofNat small
      have outside := upperTables.2 run isRun
      omega
    · rw [form] at member
      rw [List.mem_singleton.mp member]
      exact not_isLower_of_toNat beyond

/-! ### Line ends -/

/-- A code that is not a line feed's is none of a character that is one. -/
theorem lineEnd_ofNat (isFeed : (Char.ofNat code).toNat = 0x0A) : code = 0x0A := by
  by_cases valid : code.isValidChar
  · rw [Char.ofNat, dif_pos valid] at isFeed
    exact isFeed
  · rw [Char.ofNat, dif_neg valid] at isFeed
    cases isFeed

set_option maxRecDepth 4000 in
theorem notControl_upperTables :
    (∀ expansion ∈ upperExpansions, ∀ code ∈ expansion.2, 0x20 ≤ code) ∧
      ∀ run ∈ upperRuns, (0x20 : Int) ≤ run.first + run.shift := by
  decide

/-- No character but the line feed has one in its upper form. -/
theorem eq_lineEnd_of_mem_upper (member : '\n' ∈ upper c) : c = '\n' := by
  rw [upper] at member
  split at member
  · next ascii =>
    refine forall_ascii (p := fun c => '\n' ∈ [c.toUpper] → c = '\n') ?_ ascii member
    decide
  · rcases formOf_cases upperExpansions upperRuns c with
      ⟨expansion, isExpansion, -, form⟩ | ⟨run, isRun, image, isImage, form⟩ | form
    · rw [form] at member
      obtain ⟨code, isCode, isLineEnd⟩ := List.mem_map.mp member
      have isFeed := lineEnd_ofNat (congrArg Char.toNat isLineEnd)
      have notControl := notControl_upperTables.1 expansion isExpansion code isCode
      omega
    · rw [form] at member
      obtain ⟨first, last, rfl⟩ := image?_eq_some isImage
      have isFeed := lineEnd_ofNat (congrArg Char.toNat (List.mem_singleton.mp member)).symm
      have notControl := notControl_upperTables.2 run isRun
      omega
    · rw [form] at member
      exact (List.mem_singleton.mp member).symm

/-! ### Lower forms -/

set_option maxRecDepth 4000 in
/-- Of the characters beyond ASCII, only the Kelvin sign has a small letter as its lower form. -/
theorem lowerTables :
    lowerExpansions = [(0x130, [0x69, 0x307])] ∧
      ∀ run ∈ lowerRuns, (run.last : Int) + run.shift < 0x61 ∨
        (0x7A : Int) < run.first + run.shift ∨
        run.first = 0x212A ∧ run.last = 0x212A ∧ run.shift = 0x6B - 0x212A := by
  decide

/-- The characters that have a small letter as their lower form: the letter in either form,
and for `k` also the Kelvin sign. -/
def capitals (d : Char) : List Char :=
  [d, d.toUpper] ++ if d = 'k' then ['\u212A'] else []

theorem mem_capitals_of_ascii (ascii : c.toNat < 0x80) (small : c.toLower.isLower = true) :
    c ∈ capitals c.toLower := by
  refine forall_ascii (p := fun c => c.toLower.isLower = true → c ∈ capitals c.toLower) ?_
    ascii small
  decide

theorem all_capitals (small : d.isLower = true) :
    (capitals d).all (fun c => lower c == [d] && (!c.isLower || c == d)) = true := by
  have high := (isLower_iff.mp small).2
  have ascii : d.toNat < 0x80 := by omega
  refine forall_ascii (p := fun d => d.isLower = true →
    (capitals d).all (fun c => lower c == [d] && (!c.isLower || c == d)) = true) ?_ ascii small
  decide

theorem lower_of_mem_capitals (small : d.isLower = true) (member : c ∈ capitals d) :
    lower c = [d] := by
  have here := List.all_eq_true.mp (all_capitals small) c member
  exact beq_iff_eq.mp (Bool.and_eq_true_iff.mp here).1

/-- The only small letter among the characters with a small letter as their lower form is
the letter itself. -/
theorem eq_of_mem_capitals (small : d.isLower = true) (member : c ∈ capitals d)
    (alsoSmall : c.isLower = true) : c = d := by
  have here := List.all_eq_true.mp (all_capitals small) c member
  rw [alsoSmall, Bool.not_true, Bool.false_or] at here
  exact beq_iff_eq.mp (Bool.and_eq_true_iff.mp here).2

/-- A lower form of nothing but small letters is a single one. -/
theorem lower_of_small (small : ∀ d ∈ lower c, d.isLower = true) :
    ∃ d, lower c = [d] ∧ c ∈ capitals d := by
  rw [lower] at small ⊢
  split at small
  · next ascii =>
    rw [if_pos ascii]
    exact ⟨c.toLower, rfl, mem_capitals_of_ascii ascii (small _ List.mem_cons_self)⟩
  · next beyond =>
    rw [if_neg beyond]
    rcases formOf_cases lowerExpansions lowerRuns c with
      ⟨expansion, isExpansion, -, form⟩ | ⟨run, isRun, image, isImage, form⟩ | form
    · rw [lowerTables.1, List.mem_singleton] at isExpansion
      rw [form, isExpansion] at small
      exact absurd (small (Char.ofNat 0x307) (by simp)) (by decide)
    · rw [form] at small
      obtain ⟨first, last, rfl⟩ := image?_eq_some isImage
      have isSmall := small _ List.mem_cons_self
      have between := isLower_ofNat isSmall
      rcases lowerTables.2 run isRun with below | above | ⟨isFirst, isLast, isShift⟩
      · omega
      · omega
      · have isKelvin : c.toNat = 0x212A := by omega
        have isImage : (c.toNat + run.shift).toNat = 0x6B := by omega
        rw [form, isImage, ← Char.ofNat_toNat c, isKelvin]
        exact ⟨'k', rfl, by decide⟩
    · rw [form] at small
      exact absurd (small c List.mem_cons_self) (by simp [not_isLower_of_toNat beyond])

/-- In a text of ASCII each character is brought into lower form by itself. -/
theorem lowerAfter_of_ascii (before : List Char) {text : List Char}
    (ascii : ∀ c ∈ text, c.toNat < 0x80) : lowerAfter before text = text.map Char.toLower := by
  induction text generalizing before with
  | nil => rfl
  | cons c rest inductionHypothesis =>
    rw [List.forall_mem_cons] at ascii
    have noSigma : c ≠ 'Σ' := by
      rintro rfl
      exact absurd ascii.1 (by decide)
    rw [lowerAfter, inductionHypothesis _ ascii.2, if_neg noSigma, lower, if_pos ascii.1]
    rfl

end IconForge.Text.Case
