import IconForge.Svg.Tree

/-!
Contract: what collapsing the blanks of a value does.

Owns:
- the collapsed form of a text, character by character;
- that collapsing twice is collapsing once;
- that a text whose collapsed form weighs as much is collapsed already.

Main statements: `collapseBlanks_collapseBlanks`, `collapse_weight`.

Does not own: which values are collapsed.
-/

namespace IconForge.Svg

open IconForge.Text

/-- Words with one space between neighbours. -/
def joinWords : List (List Char) → List Char
  | [] => []
  | [word] => word
  | word :: next :: rest => word ++ ' ' :: joinWords (next :: rest)

/-- A text as its words with one space between neighbours. -/
def collapse (text : List Char) : List Char :=
  joinWords (words text)

theorem toList_collapseBlanks (value : String) :
    (collapseBlanks value).toList = collapse value.toList := by
  unfold collapseBlanks collapse
  induction words value.toList with
  | nil =>
    rw [List.map_nil, String.intercalate_nil]
    rfl
  | cons word others inductionHypothesis =>
    cases others with
    | nil =>
      rw [List.map_cons, List.map_nil, String.intercalate_singleton, String.toList_ofList]
      rfl
    | cons next rest =>
      rw [List.map_cons] at inductionHypothesis
      rw [List.map_cons, List.map_cons, String.intercalate_cons_cons, String.toList_append,
        String.toList_append, String.toList_ofList, inductionHypothesis, joinWords,
        List.append_assoc]
      rfl

/-! ### Character by character -/

theorem joinWords_cons_cons (c : Char) (word : List Char) (others : List (List Char)) :
    joinWords ((c :: word) :: others) = c :: joinWords (word :: others) := by
  cases others <;> rfl

theorem words_blank {c : Char} (rest : List Char) (blank : isBlank c = true) :
    words (c :: rest) = words rest := by
  unfold words
  rw [splitAt, if_pos blank]
  rfl

/-- The first word of a text that starts visibly, and the others. -/
theorem words_visible {c : Char} (rest : List Char) (visible : isBlank c = false) :
    ∃ piece pieces, splitAt isBlank rest = piece :: pieces ∧
      words (c :: rest) = (c :: piece) :: pieces.filter fun piece => !piece.isEmpty := by
  cases pieces : splitAt isBlank rest with
  | nil => exact absurd pieces (splitAt_ne_nil isBlank rest)
  | cons piece others =>
    refine ⟨piece, others, rfl, ?_⟩
    unfold words
    rw [splitAt, visible, pieces]
    rfl

theorem collapse_nil : collapse [] = [] :=
  rfl

theorem collapse_blank {c : Char} (rest : List Char) (blank : isBlank c = true) :
    collapse (c :: rest) = collapse rest := by
  unfold collapse
  rw [words_blank rest blank]

theorem collapse_last {c : Char} (visible : isBlank c = false) : collapse [c] = [c] := by
  obtain ⟨piece, pieces, pieceIs, wordsAre⟩ := words_visible [] visible
  cases pieceIs
  unfold collapse
  rw [wordsAre]
  rfl

theorem collapse_visible {c d : Char} (rest : List Char) (visible : isBlank c = false)
    (nextVisible : isBlank d = false) :
    collapse (c :: d :: rest) = c :: collapse (d :: rest) := by
  obtain ⟨piece, pieces, pieceIs, wordsAre⟩ := words_visible rest nextVisible
  obtain ⟨longer, others, longerIs, allWordsAre⟩ := words_visible (d :: rest) visible
  rw [splitAt, nextVisible, pieceIs] at longerIs
  cases longerIs
  unfold collapse
  rw [allWordsAre, wordsAre, joinWords_cons_cons]

theorem collapse_gap {c d : Char} (rest : List Char) (visible : isBlank c = false)
    (blank : isBlank d = true) :
    collapse (c :: d :: rest) = c :: (if collapse rest = [] then [] else ' ' :: collapse rest) := by
  obtain ⟨piece, pieces, pieceIs, wordsAre⟩ := words_visible (d :: rest) visible
  rw [splitAt, if_pos blank] at pieceIs
  cases pieceIs
  unfold collapse
  rw [wordsAre, joinWords_cons_cons]
  change c :: joinWords ([] :: words rest) = _
  cases found : words rest with
  | nil => rfl
  | cons word others =>
    have notEmpty : word ≠ [] := by
      have member : word ∈ words rest := by
        rw [found]
        exact List.mem_cons_self
      intro isEmpty
      rw [isEmpty] at member
      exact absurd (List.mem_filter.mp member).2 (by decide)
    rw [if_neg]
    · rfl
    · obtain ⟨first, letters, rfl⟩ := List.exists_cons_of_ne_nil notEmpty
      rw [joinWords_cons_cons]
      exact List.cons_ne_nil _ _

theorem collapse_starts {c : Char} (rest : List Char) (visible : isBlank c = false) :
    ∃ tail, collapse (c :: rest) = c :: tail := by
  obtain ⟨piece, pieces, -, wordsAre⟩ := words_visible rest visible
  unfold collapse
  rw [wordsAre, joinWords_cons_cons]
  exact ⟨_, rfl⟩

/-! ### Collapsing twice, and collapsing nothing -/

theorem isBlank_space : isBlank ' ' = true := by
  decide

theorem collapse_collapse (text : List Char) : collapse (collapse text) = collapse text := by
  match text with
  | [] => rfl
  | [c] =>
    by_cases blank : isBlank c = true
    · rw [collapse_blank [] blank]
      rfl
    · rw [collapse_last (Bool.eq_false_iff.mpr blank), collapse_last (Bool.eq_false_iff.mpr blank)]
  | c :: d :: rest =>
    by_cases blank : isBlank c = true
    · rw [collapse_blank (d :: rest) blank, collapse_collapse (d :: rest)]
    · have visible := Bool.eq_false_iff.mpr blank
      by_cases nextBlank : isBlank d = true
      · rw [collapse_gap rest visible nextBlank]
        by_cases nothing : collapse rest = []
        · rw [if_pos nothing, collapse_last visible]
        · rw [if_neg nothing, collapse_gap (collapse rest) visible isBlank_space,
            collapse_collapse rest, if_neg nothing]
      · have nextVisible := Bool.eq_false_iff.mpr nextBlank
        have again := collapse_collapse (d :: rest)
        obtain ⟨tail, starts⟩ := collapse_starts rest nextVisible
        rw [collapse_visible rest visible nextVisible]
        rw [starts] at again ⊢
        rw [collapse_visible tail visible nextVisible, again]

/-- Collapsing a value twice is collapsing it once. -/
theorem collapseBlanks_collapseBlanks (value : String) :
    collapseBlanks (collapseBlanks value) = collapseBlanks value := by
  apply String.toList_inj.mp
  rw [toList_collapseBlanks, toList_collapseBlanks, collapse_collapse]

/-- The sum of the weights of characters. -/
def weigh (weight : Char → Nat) : List Char → Nat
  | [] => 0
  | c :: rest => weight c + weigh weight rest

theorem weigh_cons (weight : Char → Nat) (c : Char) (rest : List Char) :
    weigh weight (c :: rest) = weight c + weigh weight rest := by
  rw [weigh]

theorem weigh_append (weight : Char → Nat) (front back : List Char) :
    weigh weight (front ++ back) = weigh weight front + weigh weight back := by
  induction front with
  | nil => simp [weigh]
  | cons c front inductionHypothesis =>
    rw [List.cons_append, weigh, weigh, inductionHypothesis, Nat.add_assoc]

section Weight

variable {weight : Char → Nat} (space : weight ' ' = 1) (others : ∀ c, c ≠ ' ' → 1 < weight c)

include space others

theorem weight_pos (c : Char) : 0 < weight c := by
  by_cases isSpace : c = ' '
  · rw [isSpace, space]
    exact Nat.zero_lt_one
  · have heavy := others c isSpace
    omega

/-- If a space weighs less than any other character, collapsing makes a text
lighter or leaves it as it is. -/
theorem collapse_weight (text : List Char) :
    weigh weight (collapse text) ≤ weigh weight text ∧
      (weigh weight (collapse text) = weigh weight text → collapse text = text) := by
  match text with
  | [] => exact ⟨Nat.le_refl _, fun _ => rfl⟩
  | [c] =>
    by_cases blank : isBlank c = true
    · have heavy := weight_pos space others c
      rw [collapse_blank [] blank, collapse_nil, weigh_cons]
      exact ⟨Nat.zero_le _, fun same => by rw [weigh] at same; omega⟩
    · rw [collapse_last (Bool.eq_false_iff.mpr blank)]
      exact ⟨Nat.le_refl _, fun _ => rfl⟩
  | c :: d :: rest =>
    have heavy := weight_pos space others c
    obtain ⟨lighter, unchanged⟩ := collapse_weight (d :: rest)
    by_cases blank : isBlank c = true
    · rw [collapse_blank (d :: rest) blank, weigh_cons weight c]
      exact ⟨by omega, fun same => by omega⟩
    · have visible := Bool.eq_false_iff.mpr blank
      by_cases nextBlank : isBlank d = true
      · obtain ⟨restLighter, restUnchanged⟩ := collapse_weight rest
        have nextHeavy := weight_pos space others d
        rw [collapse_gap rest visible nextBlank, weigh_cons weight c, weigh_cons weight c,
          weigh_cons weight d]
        by_cases nothing : collapse rest = []
        · rw [if_pos nothing]
          have noWeight : weigh weight [] = 0 := rfl
          exact ⟨by omega, fun same => by omega⟩
        · rw [if_neg nothing, weigh_cons, space]
          refine ⟨by omega, ?_⟩
          intro same
          have isSpace : d = ' ' := by
            by_cases isSpace : d = ' '
            · exact isSpace
            · have heavier := others d isSpace
              omega
          have sameRest : weigh weight (collapse rest) = weigh weight rest := by
            rw [isSpace, space] at same
            omega
          rw [restUnchanged sameRest, isSpace]
      · rw [collapse_visible rest visible (Bool.eq_false_iff.mpr nextBlank), weigh_cons weight c,
          weigh_cons weight c (d :: rest)]
        refine ⟨by omega, ?_⟩
        intro same
        rw [unchanged (by omega)]

end Weight

end IconForge.Svg
