import IconForge.Proofs.Naming.Camel
import IconForge.Proofs.Text.Case
import IconForge.Script.PropName

/-!
Contract: the attribute keys that have one property name.

Owns:
- the keys that spell a word of small letters: its first letter in either form, the others
  as they are, and nothing but separators behind them;
- that the property name of a key is a word outside the list of fixed ones exactly if the
  key spells it;
- keys in hyphens, and that two of them have the same property name exactly if they are
  written the same in hyphens.

Main statements: `propName_eq_iff`, `propName_inj_iff`.

Does not own: which keys the attributes of an element can have.
-/

namespace IconForge.Naming

open IconForge.Text

variable {c d : Char} {text word ending : List Char} {words : List (List Char)}

/-! ### Words run together as small letters -/

/-- Words that are put together in upper form hold nothing if all of it is small letters. -/
theorem eq_nil_of_flatMap_capitalizeChars
    (small : ∀ d ∈ words.flatMap capitalizeChars, d.isLower = true) :
    ∀ word ∈ words, word = [] := by
  intro word member
  cases word with
  | nil => rfl
  | cons c rest =>
    obtain ⟨d, isHead⟩ := List.exists_mem_of_ne_nil _ (Case.upper_ne_nil c)
    have held : d ∈ words.flatMap capitalizeChars :=
      List.mem_flatMap.mpr ⟨c :: rest, member, List.mem_append_left _ isHead⟩
    have isSmall := small d held
    rw [Case.isLower_of_mem_upper isHead] at isSmall
    cases isSmall

theorem flatMap_capitalizeChars_nil (empty : ∀ word ∈ words, word = []) :
    words.flatMap capitalizeChars = [] := by
  rw [List.flatMap_eq_nil_iff]
  intro word member
  rw [empty word member]
  rfl

/-- Words run together are a word of small letters exactly if the first one is that word,
perhaps with its first letter in the other form, and the others are empty. -/
theorem joinWords_eq_iff (small : ∀ e ∈ d :: ending, e.isLower = true) :
    joinWords words = d :: ending ↔
      ∃ c ∈ Case.capitals d, ∃ later, words = (c :: ending) :: later ∧
        ∀ word ∈ later, word = [] := by
  constructor
  · intro joined
    cases words with
    | nil => cases joined
    | cons first later =>
      rw [joinWords] at joined
      have empty : ∀ word ∈ later, word = [] := by
        apply eq_nil_of_flatMap_capitalizeChars
        intro e member
        apply small e
        rw [← joined]
        exact List.mem_append_right _ member
      rw [flatMap_capitalizeChars_nil empty, List.append_nil] at joined
      cases first with
      | nil => cases joined
      | cons c rest =>
        rw [uncapitalizeChars] at joined
        have lowSmall : ∀ e ∈ Case.lower c, e.isLower = true := by
          intro e member
          apply small e
          rw [← joined]
          exact List.mem_append_left _ member
        obtain ⟨e, isLower, isCapital⟩ := Case.lower_of_small lowSmall
        rw [isLower] at joined
        cases joined
        exact ⟨c, isCapital, later, rfl, empty⟩
  · rintro ⟨c, isCapital, later, rfl, empty⟩
    rw [joinWords, uncapitalizeChars, flatMap_capitalizeChars_nil empty, List.append_nil,
      Case.lower_of_mem_capitals (small d List.mem_cons_self) isCapital]
    rfl

/-! ### Keys that spell a word -/

/-- What stands between the words of a key. -/
def isSeparator (c : Char) : Bool :=
  c == '-' || c == ':'

/-- Whether a key spells a word: the first letter in a form of which it is the lower one,
the rest as it is, and nothing but separators behind it. -/
def spells (word key : String) : Bool :=
  match word.toList with
  | [] => false
  | d :: ending =>
    (Case.capitals d).any fun c =>
      (dropStart? (c :: ending) key.toList).any fun behind => behind.all isSeparator

theorem spells_iff {key : String} :
    spells (String.ofList (d :: ending)) key = true ↔
      ∃ c ∈ Case.capitals d, ∃ behind, key.toList = c :: ending ++ behind ∧
        ∀ e ∈ behind, isSeparator e = true := by
  unfold spells
  rw [String.toList_ofList]
  simp only [List.any_eq_true, Option.any_eq_true, dropStart?_eq_some_iff, List.all_eq_true]

theorem isSeparator_cases (separates : isSeparator c = true) : c = '-' ∨ c = ':' := by
  rwa [isSeparator, Bool.or_eq_true, beq_iff_eq, beq_iff_eq] at separates

theorem not_isSeparator_of_isLower (small : c.isLower = true) : isSeparator c = false := by
  cases separated : isSeparator c with
  | false => rfl
  | true => rcases isSeparator_cases separated with rfl | rfl <;> cases small

/-- A character with a small letter as its lower form separates no words. -/
theorem not_isSeparator_of_mem_capitals (small : d.isLower = true)
    (isCapital : c ∈ Case.capitals d) : isSeparator c = false := by
  have low := Case.lower_of_mem_capitals small isCapital
  cases separated : isSeparator c with
  | false => rfl
  | true =>
    rcases isSeparator_cases separated with rfl | rfl
    · cases low
      cases small
    · cases low
      cases small

theorem attributeCamel_eq_iff {key : String} (small : ∀ e ∈ d :: ending, e.isLower = true) :
    attributeCamel key = String.ofList (d :: ending) ↔
      spells (String.ofList (d :: ending)) key = true := by
  have separatesWith : attributeCamel key =
      String.ofList (joinWords (splitAt isSeparator key.toList)) := rfl
  rw [separatesWith, String.ofList_inj, joinWords_eq_iff small, spells_iff]
  refine exists_congr fun c => and_congr_right fun isCapital => ?_
  rw [splitAt_eq_cons_iff, and_iff_right]
  refine List.forall_mem_cons.mpr
    ⟨not_isSeparator_of_mem_capitals (small d List.mem_cons_self) isCapital, ?_⟩
  exact fun e member => not_isSeparator_of_isLower (small e (List.mem_cons_of_mem _ member))

/-! ### Keys in hyphens -/

def hyphenOf (c : Char) : Char :=
  if c = ':' then '-' else c

/-- A key with hyphens in the place of colons. -/
def withHyphens (key : String) : String :=
  String.ofList (key.toList.map hyphenOf)

theorem hyphenOf_of_isSeparator (separates : isSeparator c = true) : hyphenOf c = '-' := by
  rcases isSeparator_cases separates with rfl | rfl <;> rfl

theorem eq_of_isLower_hyphenOf (small : (hyphenOf c).isLower = true) : hyphenOf c = c := by
  unfold hyphenOf at small ⊢
  split at small
  · cases small
  · next noColon => rw [if_neg noColon]

theorem nameTail_of_isIconName {name : String} (named : isIconName name = true) :
    NameTail name.toList := by
  obtain ⟨c, rest, isName, lower, tail⟩ := tail_of_isIconName named
  rw [isName]
  exact .more (isNameChar_of_isLower lower) tail

theorem NameTail.ne_append_hyphen (tail : NameTail text) (front : List Char) :
    text ≠ front ++ ['-'] := by
  induction tail generalizing front with
  | done => exact (List.append_ne_nil_of_right_ne_nil front (List.cons_ne_nil _ _)).symm
  | more named _ inductionHypothesis =>
    intro isText
    cases front with
    | nil =>
      cases isText
      cases named
    | cons _ others => exact inductionHypothesis others (List.cons.inj isText).2
  | word named _ inductionHypothesis =>
    intro isText
    cases front with
    | nil => cases isText
    | cons _ others => exact inductionHypothesis others (List.cons.inj isText).2

theorem splitAt_withHyphens {key : String} (named : isIconName (withHyphens key) = true) :
    splitAt isWordBreak (withHyphens key).toList = splitAt isSeparator key.toList := by
  have characters := characters_of_isIconName named
  rw [withHyphens, String.toList_ofList, List.forall_mem_map] at characters
  rw [withHyphens, String.toList_ofList]
  apply splitAt_map
  · intro c member
    by_cases isColon : c = ':'
    · subst isColon
      rfl
    · have isChar := characters c member
      rw [hyphenOf, if_neg isColon] at isChar ⊢
      rcases isChar with isNamed | rfl
      · rw [(lower_of_isNameChar isNamed).2.2, isSeparator, beq_false_of_ne isColon,
          beq_false_of_ne (ne_hyphen_of_isNameChar isNamed)]
        rfl
      · rfl
  · rintro c - kept
    rw [hyphenOf, if_neg]
    rintro rfl
    cases kept

/-- The identifier form of a key is the key with its words run together. -/
theorem toList_attributeCamel {key : String} (named : isIconName (withHyphens key) = true) :
    (attributeCamel key).toList = humps false (withHyphens key).toList := by
  have separatesWith : attributeCamel key =
      String.ofList (joinWords (splitAt isSeparator key.toList)) := rfl
  rw [separatesWith, String.toList_ofList, ← splitAt_withHyphens named, joinWords_splitAt named]

end IconForge.Naming

namespace IconForge.Script

open IconForge.Naming

/-! ### The property names of keys -/

theorem mem_of_lookup {pairs : List (String × String)} {key value : String}
    (found : pairs.lookup key = some value) : (key, value) ∈ pairs := by
  obtain ⟨front, back, rfl, -⟩ := List.lookup_eq_some_iff.mp found
  exact List.mem_append_right _ List.mem_cons_self

/-- The property name of a key is a word outside the list of fixed ones exactly if the key
spells it. -/
theorem propName_eq_iff {word key : String} {d : Char} {ending : List Char}
    (isWord : word.toList = d :: ending) (small : ∀ e ∈ d :: ending, e.isLower = true)
    (free : ∀ pair ∈ fixedPropNames, pair.2 ≠ word ∧ spells word pair.1 = false) :
    propName key = word ↔ spells word key = true := by
  have spelled : word = String.ofList (d :: ending) := by rw [← isWord, String.ofList_toList]
  unfold propName
  cases found : fixedPropNames.lookup key with
  | none =>
    rw [Option.getD_none, spelled]
    exact attributeCamel_eq_iff small
  | some fixed =>
    obtain ⟨notFixed, notSpelled⟩ := free (key, fixed) (mem_of_lookup found)
    rw [Option.getD_some, notSpelled]
    exact ⟨fun same => absurd same notFixed, fun absurdity => by cases absurdity⟩

theorem propName_eq_key_iff {key : String} :
    propName key = "key" ↔ spells "key" key = true := by
  have isWord : "key".toList = ['k', 'e', 'y'] := rfl
  have small : ['k', 'e', 'y'].all Char.isLower = true := rfl
  exact propName_eq_iff isWord (List.all_eq_true.mp small) (by decide)

theorem propName_eq_fill_iff {key : String} :
    propName key = "fill" ↔ spells "fill" key = true := by
  have isWord : "fill".toList = ['f', 'i', 'l', 'l'] := rfl
  have small : ['f', 'i', 'l', 'l'].all Char.isLower = true := rfl
  exact propName_eq_iff isWord (List.all_eq_true.mp small) (by decide)

/-! ### Keys with the same property name -/

/-- Whether a key has small letters and digits between single hyphens or colons. -/
def isPlain (key : String) : Bool :=
  isIconName (withHyphens key)

/-- A key with hyphens where its property name has capital letters. -/
def hyphened (key : String) : String :=
  match fixedPropNames.lookup key with
  | some fixed => String.ofList (spelt fixed.toList)
  | none => String.ofList (dropDigitHyphens (withHyphens key).toList)

theorem toList_propName {key : String} (plain : isPlain key = true) :
    (propName key).toList = humps false (hyphened key).toList := by
  unfold propName hyphened
  cases found : fixedPropNames.lookup key with
  | none =>
    simp only [Option.getD_none, String.toList_ofList]
    rw [toList_attributeCamel plain, humps_dropDigitHyphens (nameTail_of_isIconName plain)]
  | some fixed =>
    have comesBack : ∀ pair ∈ fixedPropNames,
        humps false (spelt pair.2.toList) = pair.2.toList := by
      decide
    simp only [Option.getD_some, String.toList_ofList]
    exact (comesBack _ (mem_of_lookup found)).symm

theorem spelt_propName {key : String} (plain : isPlain key = true) :
    spelt (propName key).toList = (hyphened key).toList := by
  unfold propName hyphened
  cases found : fixedPropNames.lookup key with
  | none =>
    simp only [Option.getD_none, String.toList_ofList]
    rw [toList_attributeCamel plain, spelt_humps (nameTail_of_isIconName plain)]
  | some fixed => simp only [Option.getD_some, String.toList_ofList]

/-- Two plain keys have the same property name exactly if they are the same in hyphens. -/
theorem propName_inj_iff {key other : String} (plain : isPlain key = true)
    (alsoPlain : isPlain other = true) :
    propName key = propName other ↔ hyphened key = hyphened other := by
  constructor
  · intro same
    apply String.toList_inj.mp
    rw [← spelt_propName plain, ← spelt_propName alsoPlain, same]
  · intro same
    apply String.toList_inj.mp
    rw [toList_propName plain, toList_propName alsoPlain, same]

/-- The only plain key that spells a word is the word itself. -/
theorem eq_of_spells {word key : String} {d : Char} {ending : List Char}
    (isWord : word.toList = d :: ending) (isSmall : d.isLower = true) (plain : isPlain key = true)
    (spelled : spells word key = true) : key = word := by
  obtain ⟨first, rest, isName, lower, -⟩ := tail_of_isIconName plain
  have tail := nameTail_of_isIconName plain
  rw [← String.ofList_toList (s := word), isWord, spells_iff] at spelled
  obtain ⟨c, isCapital, behind, isKey, separators⟩ := spelled
  rw [withHyphens, String.toList_ofList, isKey, List.cons_append, List.map_cons] at isName tail
  have small : c.isLower = true := by
    obtain ⟨isFirst, -⟩ := List.cons.inj isName
    rw [← isFirst] at lower
    rwa [eq_of_isLower_hyphenOf lower] at lower
  have noneBehind : behind = [] := by
    rcases List.eq_nil_or_concat behind with isNil | ⟨front, separator, rfl⟩
    · exact isNil
    · have isHyphen := hyphenOf_of_isSeparator (separators separator (by simp))
      rw [List.concat_eq_append, ← List.append_assoc, List.map_append, List.map_singleton,
        isHyphen, ← List.cons_append] at tail
      exact absurd rfl (tail.ne_append_hyphen _)
  have sameFirst := Text.Case.eq_of_mem_capitals isSmall isCapital small
  apply String.toList_inj.mp
  rw [isKey, isWord, noneBehind, List.append_nil, sameFirst]

end IconForge.Script
