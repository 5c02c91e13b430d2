import IconForge.Naming
import IconForge.Proofs.Text.Case
import IconForge.Script.Literal

/-!
Contract: names of icons as names of a script.

Owns: that the binding name of an icon is an identifier, with any ending of
characters that identifiers go on with.

Main statement: `isIdentifier_camel_append`.

Does not own: which texts are identifiers.
-/

namespace IconForge.Naming

open IconForge.Text

variable {c : Char} {name : String} {word : List Char}

theorem toNat_of_isNameChar (named : isNameChar c = true) : c.toNat < 0x80 := by
  rcases Bool.or_eq_true_iff.mp named with lower | digit
  · have atMost : c.toNat ≤ 'z'.toNat := of_decide_eq_true (Bool.and_eq_true_iff.mp lower).2
    exact Nat.lt_of_le_of_lt atMost (by decide)
  · have atMost : c.toNat ≤ '9'.toNat := (Char.isDigit_iff_toNat.mp digit).2
    exact Nat.lt_of_le_of_lt atMost (by decide)

/-- What holds of the characters of names that have a code below `0x80` holds of all of
them, since they all have. -/
theorem forall_isNameChar {p : Char → Prop}
    (each : ∀ code < 0x80, isNameChar (Char.ofNat code) = true → p (Char.ofNat code))
    (named : isNameChar c = true) : p c :=
  Case.forall_ascii (p := fun c => isNameChar c = true → p c) each (toNat_of_isNameChar named)
    named

theorem isNameChar_of_isLower (lower : c.isLower = true) : isNameChar c = true :=
  Bool.or_eq_true_iff.mpr (Or.inl lower)

/-- The characters of names, in either form, are such that identifiers go on
with them. -/
theorem isIdentifierPart_of_isNameChar (named : isNameChar c = true) :
    Script.isIdentifierPart c = true ∧ Script.isIdentifierPart c.toUpper = true := by
  refine forall_isNameChar (p := fun c => Script.isIdentifierPart c = true ∧
    Script.isIdentifierPart c.toUpper = true) ?_ named
  decide

theorem isIdentifierStart_of_isLower (lower : c.isLower = true) :
    Script.isIdentifierStart c.toLower = true ∧ Script.isIdentifierStart c.toUpper = true := by
  refine forall_isNameChar (p := fun c => c.isLower = true →
    Script.isIdentifierStart c.toLower = true ∧ Script.isIdentifierStart c.toUpper = true) ?_
    (isNameChar_of_isLower lower) lower
  decide

theorem all_capitalizeChars (named : word.all isNameChar = true) :
    (capitalizeChars word).all Script.isIdentifierPart = true := by
  cases word with
  | nil => rfl
  | cons c rest =>
    rw [List.all_cons, Bool.and_eq_true, List.all_eq_true] at named
    rw [capitalizeChars, Case.upper, if_pos (toNat_of_isNameChar named.1), List.all_append,
      List.all_cons, (isIdentifierPart_of_isNameChar named.1).2, List.all_nil, Bool.true_and,
      Bool.true_and, List.all_eq_true]
    exact fun d member => (isIdentifierPart_of_isNameChar (named.2 d member)).1

/-- The binding name of an icon is an identifier, and stays one with an ending
of its characters. -/
theorem isIdentifier_camel_append (ending : String) (named : isIconName name = true)
    (parts : ending.toList.all Script.isIdentifierPart = true) :
    Script.isIdentifier (camel name ++ ending) = true := by
  unfold isIconName at named
  split at named
  · cases named
  · next head segments isSplit =>
    cases head with
    | nil => cases named
    | cons c rest =>
      simp only [Bool.and_eq_true, List.all_eq_true] at named
      obtain ⟨⟨lower, namedRest⟩, namedSegments⟩ := named
      have isAscii := toNat_of_isNameChar (isNameChar_of_isLower lower)
      have later : (segments.flatMap capitalizeChars).all Script.isIdentifierPart = true := by
        rw [List.all_flatMap, List.all_eq_true]
        exact fun segment member =>
          all_capitalizeChars (List.all_eq_true.mpr (namedSegments segment member).2)
      have following : rest.all Script.isIdentifierPart = true :=
        List.all_eq_true.mpr fun d member =>
          (isIdentifierPart_of_isNameChar (namedRest d member)).1
      unfold Script.isIdentifier camel
      rw [String.toList_append, String.toList_ofList, isSplit, joinWords, uncapitalizeChars,
        Case.lower, if_pos isAscii]
      simp only [List.cons_append, List.nil_append, List.all_append, following, later, parts,
        (isIdentifierStart_of_isLower lower).1, Bool.and_self]

end IconForge.Naming
