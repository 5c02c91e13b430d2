import Mathlib.Data.List.Basic
import IconForge.Proofs.Naming

/-!
Contract: the component identifiers of icon names, and what they keep of them.

Owns:
- the shape of an icon name, character by character;
- a component identifier as the name with its words run together;
- when two icon names have the same component identifier: the identifier loses the
  hyphens in front of digits, and nothing else;
- that neither the name nor the identifier ends a line, and that the name needs no escapes
  in a literal.

Main statements: `pascal_eq_iff`, `pascal_eq_iff_of_letters`, `isIdentifier_pascal`.

Does not own: where component identifiers stand.
-/

namespace IconForge.Naming

open IconForge.Text

variable {c : Char} {name other : String} {text : List Char}

/-! ### Characters -/

theorem ne_hyphen_of_isNameChar (named : isNameChar c = true) : c ≠ '-' := by
  rintro rfl
  cases named

/-- A character of names stays as it is in lower form, and stands inside words. -/
theorem lower_of_isNameChar (named : isNameChar c = true) :
    c.toLower = c ∧ c.isUpper = false ∧ isWordBreak c = false := by
  refine forall_isNameChar (p := fun c =>
    c.toLower = c ∧ c.isUpper = false ∧ isWordBreak c = false) ?_ named
  decide

/-- Letters come back from their upper form. -/
theorem upper_of_isLower (lower : c.isLower = true) :
    c.isDigit = false ∧ c.toUpper.isUpper = true ∧ c.toUpper.toLower = c := by
  refine forall_isNameChar (p := fun c => c.isLower = true →
    c.isDigit = false ∧ c.toUpper.isUpper = true ∧ c.toUpper.toLower = c) ?_
    (isNameChar_of_isLower lower) lower
  decide

theorem toUpper_of_isDigit (digit : c.isDigit = true) : c.toUpper = c := by
  refine forall_isNameChar (p := fun c => c.isDigit = true → c.toUpper = c) ?_
    (Bool.or_eq_true_iff.mpr (Or.inr digit)) digit
  decide

/-! ### Icon names by their characters -/

/-- What can follow the first character of an icon name: its characters, and hyphens
that have one of these behind them. -/
inductive NameTail : List Char → Prop
  | done : NameTail []
  | more {c : Char} {rest : List Char} (named : isNameChar c = true) (tail : NameTail rest) :
      NameTail (c :: rest)
  | word {c : Char} {rest : List Char} (named : isNameChar c = true)
      (tail : NameTail (c :: rest)) : NameTail ('-' :: c :: rest)

theorem nameTail_of_splitAt {head : List Char} {segments : List (List Char)}
    (isSplit : splitAt (· == '-') text = head :: segments)
    (namedHead : ∀ c ∈ head, isNameChar c = true)
    (namedSegments : ∀ segment ∈ segments,
      segment ≠ [] ∧ ∀ c ∈ segment, isNameChar c = true) : NameTail text := by
  induction text generalizing head segments with
  | nil => exact .done
  | cons c rest inductionHypothesis =>
    rw [splitAt] at isSplit
    cases pieces : splitAt (· == '-') rest with
    | nil => exact absurd pieces (splitAt_ne_nil _ rest)
    | cons first others =>
      rw [pieces] at isSplit
      split at isSplit
      · next isHyphen =>
        cases isSplit
        rw [List.forall_mem_cons] at namedSegments
        obtain ⟨⟨notEmpty, namedFirst⟩, namedOthers⟩ := namedSegments
        have tail := inductionHypothesis pieces namedFirst namedOthers
        cases beq_iff_eq.mp isHyphen
        cases tail with
        | done =>
          cases pieces
          exact absurd rfl notEmpty
        | more named tail => exact .word named (.more named tail)
        | word named tail =>
          rw [splitAt, if_pos (beq_self_eq_true _)] at pieces
          cases pieces
          exact absurd rfl notEmpty
      · cases isSplit
        rw [List.forall_mem_cons] at namedHead
        exact .more namedHead.1 (inductionHypothesis pieces namedHead.2 namedSegments)

/-- An icon name starts with a lower-case letter, which its tail follows. -/
theorem tail_of_isIconName (named : isIconName name = true) :
    ∃ c rest, name.toList = c :: rest ∧ c.isLower = true ∧ NameTail rest := by
  unfold isIconName at named
  generalize name.toList = text at named ⊢
  split at named
  · cases named
  · next head segments isSplit =>
    cases head with
    | nil => cases named
    | cons c front =>
      simp only [Bool.and_eq_true, List.all_eq_true, Bool.not_eq_true',
        List.isEmpty_eq_false_iff] at named
      obtain ⟨⟨lower, namedFront⟩, namedSegments⟩ := named
      have namedHead : ∀ d ∈ c :: front, isNameChar d = true :=
        List.forall_mem_cons.mpr ⟨isNameChar_of_isLower lower, namedFront⟩
      cases nameTail_of_splitAt isSplit namedHead namedSegments with
      | done => cases isSplit
      | @more first rest namedFirst tail =>
        rw [splitAt, if_neg (by simp [ne_hyphen_of_isNameChar namedFirst])] at isSplit
        split at isSplit
        · cases isSplit
          exact ⟨c, rest, rfl, lower, tail⟩
        · cases isSplit
          exact ⟨c, rest, rfl, lower, tail⟩
      | word =>
        rw [splitAt, if_pos (beq_self_eq_true _)] at isSplit
        cases isSplit

/-! ### Component identifiers -/

/-- Words run together: hyphens are left out, and the characters behind them, with one at
the start, are in upper form. -/
def humps (atStart : Bool) : List Char → List Char
  | [] => []
  | c :: rest =>
    if c = '-' then humps true rest
    else (if atStart then c.toUpper else c) :: humps false rest

/-- A name without the hyphens that have a digit behind them. -/
def dropDigitHyphens : List Char → List Char
  | [] => []
  | c :: rest =>
    if c = '-' ∧ rest.head?.any Char.isDigit = true then dropDigitHyphens rest
    else c :: dropDigitHyphens rest

/-- A text in lower form, with a hyphen in front of each character that has been in upper
form. -/
def spelt (text : List Char) : List Char :=
  text.flatMap fun c => if c.isUpper then ['-', c.toLower] else [c]

theorem lowerText_of_named (named : ∀ c ∈ text, isNameChar c = true) :
    Case.lowerText text = text := by
  rw [Case.lowerText,
    Case.lowerAfter_of_ascii [] fun c member => toNat_of_isNameChar (named c member)]
  exact (List.map_congr_left fun c member => (lower_of_isNameChar (named c member)).1).trans
    (List.map_id _)

/-- Words between hyphens, the first of which need not start in upper form, run
together. -/
theorem humps_eq_of_splitAt (atStart : Bool) {head : List Char} {words : List (List Char)}
    (characters : ∀ c ∈ text, isNameChar c = true ∨ c = '-')
    (isSplit : splitAt isWordBreak text = head :: words) :
    humps atStart text =
      (if atStart then capitalizeChars head else head) ++ words.flatMap capitalizeChars := by
  induction text generalizing atStart head words with
  | nil =>
    cases isSplit
    cases atStart <;> rfl
  | cons c rest inductionHypothesis =>
    rw [List.forall_mem_cons] at characters
    rw [splitAt] at isSplit
    cases pieces : splitAt isWordBreak rest with
    | nil => exact absurd pieces (splitAt_ne_nil _ rest)
    | cons first others =>
      rw [pieces] at isSplit
      rcases characters.1 with named | isHyphen
      · rw [if_neg (Bool.eq_false_iff.mp (lower_of_isNameChar named).2.2)] at isSplit
        cases isSplit
        rw [humps, if_neg (ne_hyphen_of_isNameChar named),
          inductionHypothesis false characters.2 pieces]
        cases atStart with
        | false => rfl
        | true =>
          rw [if_pos rfl, if_pos rfl, capitalizeChars, Case.upper,
            if_pos (toNat_of_isNameChar named)]
          rfl
      · subst isHyphen
        rw [if_pos (by decide)] at isSplit
        cases isSplit
        rw [humps, if_pos rfl, inductionHypothesis true characters.2 pieces]
        cases atStart <;> rfl

theorem flatMap_words {words : List (List Char)}
    (named : ∀ word ∈ words, ∀ c ∈ word, isNameChar c = true) :
    (words.filter fun word => !word.isEmpty).flatMap
        (fun word => capitalizeChars (Case.lowerText word)) =
      words.flatMap capitalizeChars := by
  induction words with
  | nil => rfl
  | cons word rest inductionHypothesis =>
    rw [List.forall_mem_cons] at named
    have others := inductionHypothesis named.2
    cases word with
    | nil => exact others
    | cons c following =>
      rw [List.filter_cons_of_pos (by rfl), List.flatMap_cons, List.flatMap_cons, others,
        lowerText_of_named named.1]

theorem toList_pascal (characters : ∀ c ∈ name.toList, isNameChar c = true ∨ c = '-') :
    (pascal name).toList = humps true name.toList := by
  unfold pascal
  rw [String.toList_ofList]
  cases isSplit : splitAt isWordBreak name.toList with
  | nil => exact absurd isSplit (splitAt_ne_nil _ _)
  | cons head words =>
    have named : ∀ word ∈ head :: words, ∀ c ∈ word, isNameChar c = true := by
      intro word member c inWord
      rw [← isSplit] at member
      obtain ⟨noBreak, inName⟩ := mem_splitAt member c inWord
      rcases characters c inName with isNamed | isHyphen
      · exact isNamed
      · subst isHyphen
        cases noBreak
    simp only [flatMap_words named, List.flatMap_cons]
    exact (humps_eq_of_splitAt true characters isSplit).symm

/-! ### What identifiers keep -/

theorem NameTail.characters (tail : NameTail text) :
    ∀ c ∈ text, isNameChar c = true ∨ c = '-' := by
  induction tail with
  | done => exact List.forall_mem_nil _
  | more named _ inductionHypothesis =>
    exact List.forall_mem_cons.mpr ⟨Or.inl named, inductionHypothesis⟩
  | word _ _ inductionHypothesis =>
    exact List.forall_mem_cons.mpr ⟨Or.inr rfl, inductionHypothesis⟩

theorem characters_of_isIconName (named : isIconName name = true) :
    ∀ c ∈ name.toList, isNameChar c = true ∨ c = '-' := by
  obtain ⟨c, rest, isName, lower, tail⟩ := tail_of_isIconName named
  rw [isName, List.forall_mem_cons]
  exact ⟨Or.inl (isNameChar_of_isLower lower), tail.characters⟩

theorem humps_of_named (named : isNameChar c = true) (atStart : Bool) :
    humps atStart (c :: text) = (if atStart then c.toUpper else c) :: humps false text := by
  rw [humps, if_neg (ne_hyphen_of_isNameChar named)]

theorem humps_hyphen (atStart : Bool) : humps atStart ('-' :: text) = humps true text := by
  rw [humps, if_pos rfl]

theorem dropDigitHyphens_of_named (named : isNameChar c = true) :
    dropDigitHyphens (c :: text) = c :: dropDigitHyphens text := by
  rw [dropDigitHyphens, if_neg fun both => ne_hyphen_of_isNameChar named both.1]

theorem spelt_of_named (named : isNameChar c = true) : spelt (c :: text) = c :: spelt text := by
  unfold spelt
  rw [List.flatMap_cons, (lower_of_isNameChar named).2.1]
  rfl

theorem spelt_upper (upper : c.toUpper.isUpper = true) :
    spelt (c.toUpper :: text) = '-' :: c.toUpper.toLower :: spelt text := by
  unfold spelt
  rw [List.flatMap_cons, if_pos upper]
  rfl

/-- Words run together are spelt as they were, but for hyphens in front of digits. -/
theorem spelt_humps (tail : NameTail text) :
    spelt (humps false text) = dropDigitHyphens text := by
  induction tail with
  | done => rfl
  | more named _ inductionHypothesis =>
    rw [humps_of_named named, dropDigitHyphens_of_named named, ← inductionHypothesis]
    exact spelt_of_named named
  | @word c rest named _ inductionHypothesis =>
    rw [humps_hyphen, humps_of_named named, if_pos rfl]
    rw [humps_of_named named, dropDigitHyphens_of_named named] at inductionHypothesis
    have spelled : c :: spelt (humps false rest) = c :: dropDigitHyphens rest := by
      rw [← inductionHypothesis]
      exact (spelt_of_named named).symm
    rcases Bool.or_eq_true_iff.mp named with lower | digit
    · obtain ⟨noDigit, isUpper, comesBack⟩ := upper_of_isLower lower
      rw [spelt_upper isUpper, comesBack, spelled, dropDigitHyphens,
        if_neg fun both => Bool.eq_false_iff.mp noDigit both.2, dropDigitHyphens_of_named named]
    · rw [toUpper_of_isDigit digit, spelt_of_named named, spelled, dropDigitHyphens,
        if_pos ⟨rfl, digit⟩, dropDigitHyphens_of_named named]

/-- Hyphens in front of digits make no difference where words run together. -/
theorem humps_dropDigitHyphens (tail : NameTail text) :
    humps false (dropDigitHyphens text) = humps false text := by
  induction tail with
  | done => rfl
  | more named _ inductionHypothesis =>
    rw [dropDigitHyphens_of_named named, humps_of_named named, humps_of_named named,
      inductionHypothesis]
  | @word c rest named _ inductionHypothesis =>
    rw [dropDigitHyphens]
    rw [dropDigitHyphens_of_named named, humps_of_named named, humps_of_named named]
      at inductionHypothesis
    have same := (List.cons.inj inductionHypothesis).2
    rcases Bool.or_eq_true_iff.mp named with lower | digit
    · rw [if_neg fun both => Bool.eq_false_iff.mp (upper_of_isLower lower).1 both.2,
        dropDigitHyphens_of_named named, humps_hyphen, humps_hyphen, humps_of_named named,
        humps_of_named named, same]
    · rw [if_pos ⟨rfl, digit⟩, dropDigitHyphens_of_named named, humps_of_named named,
        humps_hyphen, humps_of_named named, same, toUpper_of_isDigit digit]
      rfl

theorem spelt_pascal (named : isIconName name = true) :
    spelt (pascal name).toList = '-' :: dropDigitHyphens name.toList := by
  have characters := characters_of_isIconName named
  obtain ⟨c, rest, isName, lower, tail⟩ := tail_of_isIconName named
  have first := isNameChar_of_isLower lower
  obtain ⟨-, isUpper, comesBack⟩ := upper_of_isLower lower
  rw [toList_pascal characters, isName, humps_of_named first, if_pos rfl, spelt_upper isUpper,
    comesBack, spelt_humps tail, dropDigitHyphens_of_named first]

theorem toList_pascal_dropDigitHyphens (named : isIconName name = true) :
    (pascal name).toList = humps true (dropDigitHyphens name.toList) := by
  have characters := characters_of_isIconName named
  obtain ⟨c, rest, isName, lower, tail⟩ := tail_of_isIconName named
  have first := isNameChar_of_isLower lower
  rw [toList_pascal characters, isName, dropDigitHyphens_of_named first, humps_of_named first,
    humps_of_named first, humps_dropDigitHyphens tail]

/-- Two icon names have the same component identifier exactly if they are the same
without the hyphens in front of digits. -/
theorem pascal_eq_iff (named : isIconName name = true) (alsoNamed : isIconName other = true) :
    pascal name = pascal other ↔
      dropDigitHyphens name.toList = dropDigitHyphens other.toList := by
  constructor
  · intro same
    have spelled := spelt_pascal named
    rw [same, spelt_pascal alsoNamed] at spelled
    exact (List.cons.inj spelled).2.symm
  · intro same
    apply String.toList_inj.mp
    rw [toList_pascal_dropDigitHyphens named, same, toList_pascal_dropDigitHyphens alsoNamed]

theorem dropDigitHyphens_sublist (text : List Char) : (dropDigitHyphens text).Sublist text := by
  induction text with
  | nil => exact List.Sublist.refl _
  | cons c rest inductionHypothesis =>
    rw [dropDigitHyphens]
    split
    · exact inductionHypothesis.cons c
    · exact inductionHypothesis.cons_cons c

/-- Where no digit is left, there has been none, and no hyphen has been dropped. -/
theorem dropDigitHyphens_of_letters (letters : ∀ c ∈ dropDigitHyphens text, c.isDigit = false) :
    dropDigitHyphens text = text := by
  induction text with
  | nil => rfl
  | cons c rest inductionHypothesis =>
    rw [dropDigitHyphens] at letters ⊢
    split at letters
    · next dropped =>
      obtain ⟨-, beforeDigit⟩ := dropped
      have same := inductionHypothesis letters
      rw [same] at letters
      cases rest with
      | nil => cases beforeDigit
      | cons digit following =>
        have noDigit := letters digit List.mem_cons_self
        rw [List.head?_cons, Option.any_some, noDigit] at beforeDigit
        cases beforeDigit
    · next kept =>
      rw [List.forall_mem_cons] at letters
      rw [if_neg kept, inductionHypothesis letters.2]

/-- No other icon name has the component identifier of a name without digits. -/
theorem pascal_eq_iff_of_letters (named : isIconName name = true)
    (alsoNamed : isIconName other = true)
    (letters : ∀ c ∈ other.toList, c.isDigit = false) :
    pascal name = pascal other ↔ name = other := by
  have otherLetters : ∀ c ∈ dropDigitHyphens other.toList, c.isDigit = false :=
    fun c member => letters c ((dropDigitHyphens_sublist _).subset member)
  rw [pascal_eq_iff named alsoNamed]
  constructor
  · intro same
    have nameLetters := otherLetters
    rw [← same] at nameLetters
    rw [dropDigitHyphens_of_letters nameLetters, dropDigitHyphens_of_letters otherLetters] at same
    exact String.toList_inj.mp same
  · rintro rfl
    rfl

/-! ### Identifiers -/

theorem isAlphanum_of_isNameChar (named : isNameChar c = true) :
    c.isAlphanum = true ∧ c.toUpper.isAlphanum = true := by
  refine forall_isNameChar (p := fun c => c.isAlphanum = true ∧ c.toUpper.isAlphanum = true) ?_
    named
  decide

theorem isIdentifierPart_of_isAlphanum (alphanum : c.isAlphanum = true) :
    Script.isIdentifierPart c = true := by
  unfold Script.isIdentifierPart Script.isIdentifierStart
  rcases Bool.or_eq_true_iff.mp alphanum with alpha | digit
  · rw [alpha]
    rfl
  · rw [digit, Bool.or_true]

/-- Words of names that run together are letters and digits. -/
theorem all_humps (characters : ∀ c ∈ text, isNameChar c = true ∨ c = '-') (atStart : Bool) :
    (humps atStart text).all Char.isAlphanum = true := by
  induction text generalizing atStart with
  | nil => rfl
  | cons c rest inductionHypothesis =>
    rw [List.forall_mem_cons] at characters
    have others := inductionHypothesis characters.2
    rcases characters.1 with named | isHyphen
    · obtain ⟨part, upperPart⟩ := isAlphanum_of_isNameChar named
      rw [humps_of_named named, List.all_cons, others, Bool.and_true]
      cases atStart with
      | false => exact part
      | true => exact upperPart
    · subst isHyphen
      rw [humps_hyphen]
      exact others true

/-- A component identifier starts in upper form. -/
theorem head_pascal (named : isIconName name = true) :
    ∃ (c : Char) (rest : List Char), (pascal name).toList = c.toUpper :: rest ∧
      c.isLower = true ∧ rest.all Char.isAlphanum = true := by
  obtain ⟨c, rest, isName, lower, tail⟩ := tail_of_isIconName named
  refine ⟨c, humps false rest, ?_, lower, all_humps tail.characters false⟩
  rw [toList_pascal (characters_of_isIconName named), isName,
    humps_of_named (isNameChar_of_isLower lower), if_pos rfl]

theorem isIdentifierPart_pascal (named : isIconName name = true) :
    ∀ c ∈ (pascal name).toList, Script.isIdentifierPart c = true := by
  have characters := characters_of_isIconName named
  rw [toList_pascal characters]
  exact fun c member =>
    isIdentifierPart_of_isAlphanum (List.all_eq_true.mp (all_humps characters true) c member)

theorem isIdentifier_pascal (named : isIconName name = true) :
    Script.isIdentifier (pascal name) = true := by
  obtain ⟨c, rest, isPascal, lower, parts⟩ := head_pascal named
  unfold Script.isIdentifier
  rw [isPascal]
  exact Bool.and_eq_true_iff.mpr ⟨(isIdentifierStart_of_isLower lower).2,
    List.all_eq_true.mpr fun d member =>
      isIdentifierPart_of_isAlphanum (List.all_eq_true.mp parts d member)⟩

/-! ### Names in lines -/

theorem lineEnd_notMem_name (named : isIconName name = true) : '\n' ∉ name.toList := by
  intro member
  rcases characters_of_isIconName named '\n' member with isNamed | isHyphen
  · cases isNamed
  · cases isHyphen

theorem lineEnd_notMem_pascal (named : isIconName name = true) :
    '\n' ∉ (pascal name).toList := by
  intro member
  cases isIdentifierPart_pascal named '\n' member

/-! ### Names in literals -/

/-- A name needs no escapes in a literal, behind a text that needs none. -/
theorem literalBody_append_name {front : String} (named : isIconName name = true)
    (plain : Script.literalBody front.toList = front.toList) :
    Script.literalBody (front ++ name).toList = (front ++ name).toList := by
  have unescaped : ∀ c ∈ name.toList, Script.escapeChar c = [c] := by
    intro c member
    rcases characters_of_isIconName named c member with isNamed | isHyphen
    · refine forall_isNameChar (p := fun c => Script.escapeChar c = [c]) ?_ isNamed
      decide
    · rw [isHyphen]
      rfl
  unfold Script.literalBody at plain ⊢
  rw [String.toList_append, List.flatMap_append, plain, List.flatMap_congr unescaped,
    List.flatMap_singleton']

end IconForge.Naming
