import IconForge.Proofs.Naming.Pascal

/-!
Contract: the binding identifiers of icon names, and what both identifiers of a name show
of it.

Owns:
- a binding identifier as the name with its words run together, the first one as it is;
- that in lower form a component identifier and a binding identifier are the name without
  its hyphens.

Main statements: `toList_camel`, `isForm_pascal`, `isForm_camel`.

Does not own: which names have the same identifier.
-/

namespace IconForge.Naming

open IconForge.Text

variable {c : Char} {name : String} {text : List Char}

/-! ### Binding identifiers -/

/-- The words of a name run together, the first of which starts in lower form already. -/
theorem joinWords_splitAt (named : isIconName name = true) :
    joinWords (splitAt isWordBreak name.toList) = humps false name.toList := by
  have characters := characters_of_isIconName named
  obtain ⟨c, rest, isName, lower, -⟩ := tail_of_isIconName named
  cases isSplit : splitAt isWordBreak name.toList with
  | nil => exact absurd isSplit (splitAt_ne_nil _ _)
  | cons head words =>
    rw [humps_eq_of_splitAt false characters isSplit, joinWords]
    have isNamed := isNameChar_of_isLower lower
    rw [isName, splitAt, if_neg (Bool.eq_false_iff.mp (lower_of_isNameChar isNamed).2.2)]
      at isSplit
    have startsLow (text : List Char) : uncapitalizeChars (c :: text) = c :: text := by
      rw [uncapitalizeChars, Case.lower, if_pos (toNat_of_isNameChar isNamed),
        (lower_of_isNameChar isNamed).1]
      rfl
    split at isSplit
    · cases isSplit
      rw [startsLow]
      rfl
    · cases isSplit
      rw [startsLow]
      rfl

/-- In names, words end at hyphens only. -/
theorem splitAt_hyphen (characters : ∀ c ∈ text, isNameChar c = true ∨ c = '-') :
    splitAt (· == '-') text = splitAt isWordBreak text := by
  have same : ∀ c ∈ text, (id c == '-') = isWordBreak c := by
    intro c member
    rcases characters c member with named | rfl
    · rw [(lower_of_isNameChar named).2.2]
      exact beq_false_of_ne (ne_hyphen_of_isNameChar named)
    · rfl
  have pieces : splitAt (· == '-') (text.map id) = splitAt isWordBreak text :=
    splitAt_map same fun _ _ _ => rfl
  rwa [List.map_id] at pieces

theorem toList_camel (named : isIconName name = true) :
    (camel name).toList = humps false name.toList := by
  unfold camel
  rw [String.toList_ofList, splitAt_hyphen (characters_of_isIconName named),
    joinWords_splitAt named]

/-! ### Identifiers in lower form -/

theorem toLower_of_isNameChar (named : isNameChar c = true) : c.toUpper.toLower = c := by
  refine forall_isNameChar (p := fun c => c.toUpper.toLower = c) ?_ named
  decide

theorem map_toLower_humps (characters : ∀ c ∈ text, isNameChar c = true ∨ c = '-')
    (atStart : Bool) :
    (humps atStart text).map Char.toLower = text.filter (· != '-') := by
  induction text generalizing atStart with
  | nil => rfl
  | cons c rest inductionHypothesis =>
    rw [List.forall_mem_cons] at characters
    rcases characters.1 with named | rfl
    · have kept : (c != '-') = true := bne_iff_ne.mpr (ne_hyphen_of_isNameChar named)
      rw [humps_of_named named, List.map_cons, inductionHypothesis characters.2,
        List.filter_cons_of_pos (p := (· != '-')) kept]
      cases atStart with
      | false => exact congrArg (· :: _) (lower_of_isNameChar named).1
      | true => exact congrArg (· :: _) (toLower_of_isNameChar named)
    · rw [humps_hyphen, inductionHypothesis characters.2, List.filter_cons_of_neg (by decide)]

/-- Whether an identifier is a form of a name: a letter that is in a class and letters and
digits behind it, which in lower form are the name without its hyphens. -/
structure IsForm (starts : Char → Bool) (name identifier : String) : Prop where
  shape : ∃ c rest, identifier.toList = c :: rest ∧ starts c = true ∧
    rest.all Char.isAlphanum = true
  lower : Case.lowerText identifier.toList = name.toList.filter (· != '-')

theorem isAscii_of_isAlphanum (alphanum : c.isAlphanum = true) : c.toNat < 0x80 := by
  rcases Bool.or_eq_true_iff.mp alphanum with alpha | digit
  · have range := Case.toNat_of_isAlpha alpha
    omega
  · have range := (Char.isDigit_iff_toNat.mp digit).2
    exact Nat.lt_of_le_of_lt range (by decide)

theorem lowerText_humps (characters : ∀ c ∈ text, isNameChar c = true ∨ c = '-')
    (atStart : Bool) :
    Case.lowerText (humps atStart text) = text.filter (· != '-') := by
  have alphanum := List.all_eq_true.mp (all_humps characters atStart)
  rw [Case.lowerText,
    Case.lowerAfter_of_ascii [] fun c member => isAscii_of_isAlphanum (alphanum c member),
    map_toLower_humps characters]

theorem isForm_pascal (named : isIconName name = true) :
    IsForm Char.isUpper name (pascal name) := by
  have characters := characters_of_isIconName named
  obtain ⟨c, rest, isPascal, lower, alphanum⟩ := head_pascal named
  refine ⟨⟨_, rest, isPascal, (upper_of_isLower lower).2.1, alphanum⟩, ?_⟩
  rw [toList_pascal characters, lowerText_humps characters]

theorem isForm_camel (named : isIconName name = true) : IsForm Char.isLower name (camel name) := by
  have characters := characters_of_isIconName named
  have isCamel := toList_camel named
  obtain ⟨c, rest, isName, lower, tail⟩ := tail_of_isIconName named
  refine ⟨⟨c, humps false rest, ?_, lower, all_humps tail.characters false⟩, ?_⟩
  · rw [isCamel, isName, humps_of_named (isNameChar_of_isLower lower)]
    rfl
  · rw [isCamel, lowerText_humps characters]

end IconForge.Naming
