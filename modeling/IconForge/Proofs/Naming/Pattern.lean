import Mathlib.Computability.RegularExpressions
import IconForge.Naming
import IconForge.Proofs.Text.Case

/-!
Contract: icon names as a regular language.

Owns:
- the pattern of icon names, `[a-z][a-z0-9]*(-[a-z0-9]+)*`, as a regular expression;
- the texts that the parts of the pattern match;
- that icon names are exactly the texts which the pattern matches.

Main statement: `isIconName_iff_matches`.

Does not own: what is made of icon names.
-/

namespace IconForge.Naming

open IconForge.Text

/-! ### The pattern -/

/-- The characters from one to another. -/
def charRange (first last : Char) : List Char :=
  (List.range' first.toNat (last.toNat + 1 - first.toNat)).map Char.ofNat

/-- Matches the texts that are a single character out of several. -/
def oneOf (chars : List Char) : RegularExpression Char :=
  chars.foldr (fun c others => .char c + others) 0

/-- `[a-z]` -/
def letterPattern : RegularExpression Char :=
  oneOf (charRange 'a' 'z')

/-- `[a-z0-9]` -/
def wordPattern : RegularExpression Char :=
  oneOf (charRange 'a' 'z' ++ charRange '0' '9')

/-- `[a-z][a-z0-9]*(-[a-z0-9]+)*` -/
def namePattern : RegularExpression Char :=
  letterPattern * wordPattern.star * (.char '-' * (wordPattern * wordPattern.star)).star

variable {c first last separator : Char} {chars text word head : List Char}
  {segments : List (List Char)}

/-! ### What the parts of the pattern match -/

theorem mem_charRange_iff (ascii : last.toNat < 0x80) :
    c ∈ charRange first last ↔ first.toNat ≤ c.toNat ∧ c.toNat ≤ last.toNat := by
  unfold charRange
  rw [List.mem_map]
  constructor
  · rintro ⟨code, member, rfl⟩
    have within := List.mem_range'_1.mp member
    have isCode : (Char.ofNat code).toNat = code := by
      have valid : code.isValidChar := Or.inl (by omega)
      rw [Char.ofNat, dif_pos valid]
      rfl
    omega
  · rintro ⟨above, below⟩
    exact ⟨c.toNat, List.mem_range'_1.mpr (by omega), Char.ofNat_toNat c⟩

theorem mem_letters_iff : c ∈ charRange 'a' 'z' ↔ c.isLower = true := by
  rw [mem_charRange_iff (by decide), Case.isLower_iff]
  exact Iff.rfl

theorem mem_letters_append_digits_iff :
    c ∈ charRange 'a' 'z' ++ charRange '0' '9' ↔ isNameChar c = true := by
  rw [List.mem_append, mem_letters_iff, mem_charRange_iff (by decide), ← Char.isDigit_iff_toNat,
    isNameChar, Bool.or_eq_true]

theorem mem_matches_oneOf :
    word ∈ (oneOf chars).matches' ↔ ∃ c ∈ chars, word = [c] := by
  induction chars with
  | nil => exact iff_of_false (Language.notMem_zero word) (by simp)
  | cons c rest inductionHypothesis =>
    have isSum : (oneOf (c :: rest)).matches' = {[c]} + (oneOf rest).matches' := rfl
    rw [isSum, Language.mem_add, inductionHypothesis, List.exists_mem_cons_iff]
    exact Iff.rfl

/-- `[..]*` matches the texts in which every character is one of the several. -/
theorem mem_matches_star_oneOf :
    word ∈ (oneOf chars).star.matches' ↔ ∀ c ∈ word, c ∈ chars := by
  rw [RegularExpression.matches'_star, Language.mem_kstar]
  constructor
  · rintro ⟨pieces, rfl, each⟩ c member
    obtain ⟨piece, isPiece, held⟩ := List.mem_flatten.mp member
    obtain ⟨d, allowed, rfl⟩ := mem_matches_oneOf.mp (each piece isPiece)
    rwa [List.mem_singleton.mp held]
  · intro all
    refine ⟨word.map fun c => [c],
      (List.flatMap_singleton' word).symm.trans List.flatMap_def, fun piece isPiece => ?_⟩
    obtain ⟨c, member, rfl⟩ := List.mem_map.mp isPiece
    exact mem_matches_oneOf.mpr ⟨c, all c member, rfl⟩

/-- `[..]+` -/
theorem mem_matches_oneOf_mul_star :
    word ∈ (oneOf chars * (oneOf chars).star).matches' ↔ word ≠ [] ∧ ∀ c ∈ word, c ∈ chars := by
  rw [RegularExpression.matches'_mul, Language.mem_mul]
  constructor
  · rintro ⟨front, isFront, back, isBack, rfl⟩
    obtain ⟨c, allowed, rfl⟩ := mem_matches_oneOf.mp isFront
    exact ⟨List.cons_ne_nil _ _,
      List.forall_mem_cons.mpr ⟨allowed, mem_matches_star_oneOf.mp isBack⟩⟩
  · rintro ⟨notEmpty, all⟩
    obtain ⟨c, rest, rfl⟩ := List.exists_cons_of_ne_nil notEmpty
    rw [List.forall_mem_cons] at all
    exact ⟨[c], mem_matches_oneOf.mpr ⟨c, all.1, rfl⟩, rest,
      mem_matches_star_oneOf.mpr all.2, rfl⟩

/-- `(-[..]+)*`, for any pattern behind the hyphen. -/
theorem mem_matches_star_segment {pattern : RegularExpression Char} :
    text ∈ (.char separator * pattern).star.matches' ↔
      ∃ segments : List (List Char), text = segments.flatMap (separator :: ·) ∧
        ∀ segment ∈ segments, segment ∈ pattern.matches' := by
  rw [RegularExpression.matches'_star, Language.mem_kstar]
  constructor
  · rintro ⟨pieces, rfl, each⟩
    induction pieces with
    | nil => exact ⟨[], rfl, List.forall_mem_nil _⟩
    | cons piece rest inductionHypothesis =>
      rw [List.forall_mem_cons] at each
      obtain ⟨segments, isRest, all⟩ := inductionHypothesis each.2
      obtain ⟨front, isSeparator, segment, matched, rfl⟩ := Language.mem_mul.mp each.1
      cases isSeparator
      refine ⟨segment :: segments, ?_, List.forall_mem_cons.mpr ⟨matched, all⟩⟩
      rw [List.flatten_cons, List.flatMap_cons, isRest]
      rfl
  · rintro ⟨segments, rfl, all⟩
    refine ⟨segments.map (separator :: ·), List.flatMap_def, fun piece isPiece => ?_⟩
    obtain ⟨segment, member, rfl⟩ := List.mem_map.mp isPiece
    exact Language.append_mem_mul (a := [separator]) rfl (all segment member)

/-! ### Pieces between hyphens -/

/-- A text has given pieces exactly if it is these with the separator between them, and
none of them holds it. -/
theorem splitAt_eq_iff :
    splitAt (· == separator) text = head :: segments ↔
      text = head ++ segments.flatMap (separator :: ·) ∧
        ∀ piece ∈ head :: segments, separator ∉ piece := by
  constructor
  · intro isSplit
    constructor
    · induction segments generalizing text head with
      | nil =>
        rcases splitAt_eq_cons isSplit with ⟨rfl, -⟩ | ⟨_, rest, _, _, isLater⟩
        · exact (List.append_nil text).symm
        · exact absurd isLater.symm (splitAt_ne_nil _ rest)
      | cons segment others inductionHypothesis =>
        rcases splitAt_eq_cons isSplit with ⟨-, isNil⟩ | ⟨_, rest, separates, rfl, isLater⟩
        · cases isNil
        · cases beq_iff_eq.mp separates
          rw [inductionHypothesis isLater.symm]
          rfl
    · intro piece isPiece member
      rw [← isSplit] at isPiece
      have free := (mem_splitAt isPiece separator member).1
      rw [beq_self_eq_true] at free
      cases free
  · rintro ⟨rfl, free⟩
    have noSeparator {piece : List Char} (isPiece : piece ∈ head :: segments) :
        ∀ c ∈ piece, (c == separator) = false := by
      intro c member
      refine beq_eq_false_iff_ne.mpr ?_
      rintro rfl
      exact free piece isPiece member
    clear free
    induction segments generalizing head with
    | nil =>
      rw [List.flatMap_nil, List.append_nil]
      exact splitAt_of_free (noSeparator List.mem_cons_self)
    | cons segment others inductionHypothesis =>
      have others := inductionHypothesis fun isPiece =>
        noSeparator (List.mem_cons_of_mem _ isPiece)
      have separates : (separator == separator) = true := beq_self_eq_true separator
      rw [List.flatMap_cons, List.cons_append,
        @splitAt_append Char (· == separator) separator separates,
        splitAt_of_free (noSeparator List.mem_cons_self), others]
      rfl

/-! ### Icon names -/

/-- The form of an icon name: a letter and what goes on with it, then further words, each
behind a hyphen. -/
theorem isIconName_iff_form {name : String} :
    isIconName name = true ↔
      ∃ (c : Char) (front : List Char) (segments : List (List Char)),
        name.toList = c :: front ++ segments.flatMap ('-' :: ·) ∧ c.isLower = true ∧
          (∀ d ∈ front, isNameChar d = true) ∧
            ∀ segment ∈ segments, segment ≠ [] ∧ ∀ d ∈ segment, isNameChar d = true := by
  have noHyphen {piece : List Char} (named : ∀ d ∈ piece, isNameChar d = true) :
      '-' ∉ piece := fun member => absurd (named '-' member) (by decide)
  unfold isIconName
  constructor
  · intro named
    split at named
    · cases named
    · next head segments isSplit =>
      cases head with
      | nil => cases named
      | cons c front =>
        simp only [Bool.and_eq_true, List.all_eq_true, Bool.not_eq_true',
          List.isEmpty_eq_false_iff] at named
        obtain ⟨⟨lower, namedFront⟩, namedSegments⟩ := named
        exact ⟨c, front, segments, (splitAt_eq_iff.mp isSplit).1, lower, namedFront, namedSegments⟩
  · rintro ⟨c, front, segments, isName, lower, namedFront, namedSegments⟩
    have namedHead : ∀ d ∈ c :: front, isNameChar d = true :=
      List.forall_mem_cons.mpr ⟨Bool.or_eq_true_iff.mpr (Or.inl lower), namedFront⟩
    have isSplit : splitAt (· == '-') name.toList = (c :: front) :: segments := by
      refine splitAt_eq_iff.mpr ⟨isName, List.forall_mem_cons.mpr ⟨noHyphen namedHead, ?_⟩⟩
      exact fun segment member => noHyphen (namedSegments segment member).2
    rw [isSplit]
    simp only [Bool.and_eq_true, List.all_eq_true, Bool.not_eq_true', List.isEmpty_eq_false_iff]
    exact ⟨⟨lower, namedFront⟩, namedSegments⟩

/-- What stands behind the first letter of a name, as the pattern has it. -/
theorem mem_matches_words :
    word ∈ wordPattern.star.matches' ↔ ∀ c ∈ word, isNameChar c = true := by
  simp only [wordPattern, mem_matches_star_oneOf, mem_letters_append_digits_iff]

theorem mem_matches_segments :
    text ∈ (.char '-' * (wordPattern * wordPattern.star)).star.matches' ↔
      ∃ segments : List (List Char), text = segments.flatMap ('-' :: ·) ∧
        ∀ segment ∈ segments, segment ≠ [] ∧ ∀ c ∈ segment, isNameChar c = true := by
  simp only [mem_matches_star_segment, wordPattern, mem_matches_oneOf_mul_star,
    mem_letters_append_digits_iff]

/-- A text is an icon name exactly if it belongs to the language of the pattern
`[a-z][a-z0-9]*(-[a-z0-9]+)*`. -/
theorem isIconName_iff_matches (name : String) :
    isIconName name = true ↔ name.toList ∈ namePattern.matches' := by
  rw [isIconName_iff_form, namePattern, RegularExpression.matches'_mul,
    RegularExpression.matches'_mul, Language.mem_mul]
  constructor
  · rintro ⟨c, front, segments, isName, lower, namedFront, namedSegments⟩
    have isLetter : [c] ∈ letterPattern.matches' :=
      mem_matches_oneOf.mpr ⟨c, mem_letters_iff.mpr lower, rfl⟩
    have isHead := Language.append_mem_mul isLetter (mem_matches_words.mpr namedFront)
    exact ⟨c :: front, isHead, _, mem_matches_segments.mpr ⟨segments, rfl, namedSegments⟩,
      isName.symm⟩
  · rintro ⟨head, isHead, back, isBack, isName⟩
    obtain ⟨letter, isLetter, front, isFront, rfl⟩ := Language.mem_mul.mp isHead
    obtain ⟨c, member, rfl⟩ := mem_matches_oneOf.mp isLetter
    obtain ⟨segments, rfl, namedSegments⟩ := mem_matches_segments.mp isBack
    exact ⟨c, front, segments, isName.symm, mem_letters_iff.mp member,
      mem_matches_words.mp isFront, namedSegments⟩

end IconForge.Naming
