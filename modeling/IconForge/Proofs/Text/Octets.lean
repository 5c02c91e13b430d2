import IconForge.Text.Octets
import Mathlib.Data.List.Basic

/-!
Contract: the bytes of texts of ASCII.

Owns:
- the bytes of such a text, one for each character;
- that bytes which are readable as such a text are its bytes, whatever malformed parts
  bytes can have.

Main statements: `octets_of_ascii`, `octets_readable`.

Does not own: the bytes of other characters.
-/

namespace IconForge.Text

variable {text : String} {bytes : List UInt8} {unfinished : Option Unfinished}

/-- The byte of a character of ASCII. -/
def byteOf (c : Char) : UInt8 :=
  .ofNat c.toNat

theorem octets_of_ascii (ascii : ∀ c ∈ text.toList, c.toNat < 0x80) :
    octets text = text.toList.map byteOf := by
  have encoded : octets text = text.toList.flatMap String.utf8EncodeChar := by
    rw [octets, String.toUTF8_eq_toByteArray, ← String.ofList_toList (s := text),
      String.toByteArray_ofList, List.utf8Encode, List.data_toByteArray, String.toList_ofList]
  rw [encoded, ← List.flatMap_pure_eq_map]
  refine List.flatMap_congr fun c member => ?_
  have small : c.val.toNat ≤ 127 := Nat.le_of_lt_succ (ascii c member)
  rw [String.utf8EncodeChar, if_pos small]
  rfl

/-- Whether a character is one of ASCII that is not the first one of all, which stands for
codes that no character has. -/
def IsPlainChar (c : Char) : Prop :=
  0 < c.toNat ∧ c.toNat < 0x80

/-- What begins a character of several bytes ends in one that is not plain. -/
structure Unfinished.Leads (pending : Unfinished) : Prop where
  least : 0x80 ≤ pending.least
  greatest : pending.greatest ≤ 0xBF
  last : pending.missing ≤ 1 → 2 ≤ pending.bits
  next : 2 ≤ pending.bits * 0x40 + (pending.least - 0x80)

theorem Unfinished.leads_of_start {byte : Nat} {pending : Unfinished}
    (starts : start? byte = some pending) : pending.Leads := by
  unfold start? at starts
  repeat' split at starts
  all_goals first
    | exact absurd starts (Option.some_ne_none _).symm
    | obtain rfl := Option.some.inj starts
      constructor <;> simp only <;> omega

theorem not_isPlainChar_ofNat {code : Nat} (beyond : 0x80 ≤ code) :
    ¬IsPlainChar (Char.ofNat code) := by
  rintro ⟨notFirst, ascii⟩
  by_cases valid : code.isValidChar
  · rw [Char.ofNat, dif_pos valid] at ascii
    exact absurd ascii (Nat.not_lt.mpr beyond)
  · rw [Char.ofNat, dif_neg valid] at notFirst
    cases notFirst

theorem not_isPlainChar_replacement : ¬IsPlainChar replacement := by
  rintro ⟨-, ascii⟩
  exact absurd ascii (by decide)

theorem byteOf_ofNat {byte : UInt8} (ascii : byte.toNat < 0x80) :
    byteOf (Char.ofNat byte.toNat) = byte := by
  have valid : byte.toNat.isValidChar := Or.inl (by omega)
  rw [byteOf, Char.ofNat, dif_pos valid]
  exact UInt8.ofNat_toNat

theorem showByte_of_plain {byte : UInt8} (plain : ∀ c ∈ (showByte byte.toNat).1, IsPlainChar c) :
    (byte.toNat < 0x80 ∧ showByte byte.toNat = ([Char.ofNat byte.toNat], none)) ∨
      ∃ pending, pending.Leads ∧ showByte byte.toNat = ([], some pending) := by
  unfold showByte at plain ⊢
  split at plain
  · next ascii =>
    rw [if_pos ascii]
    exact Or.inl ⟨ascii, rfl⟩
  · next beyond =>
    rw [if_neg beyond]
    cases starts : Unfinished.start? byte.toNat with
    | none =>
      rw [starts] at plain
      exact absurd (plain _ List.mem_cons_self) not_isPlainChar_replacement
    | some pending => exact Or.inr ⟨pending, Unfinished.leads_of_start starts, rfl⟩

theorem readableFrom_none (byte : UInt8) (rest : List UInt8) :
    readableFrom none (byte :: rest) =
      (showByte byte.toNat).1 ++ readableFrom (showByte byte.toNat).2 rest := by
  rw [readableFrom]

theorem Unfinished.leads_none : ∀ pending : Unfinished, none = some pending → pending.Leads :=
  fun _ same => absurd same.symm (Option.some_ne_none _)

/-- What is readable as plain characters has begun nothing that takes several bytes. The
induction is on the bytes; what is unfinished in front of them always ends in a character
that is not plain. -/
theorem readableFrom_plain (leads : ∀ pending, unfinished = some pending → pending.Leads)
    (plain : ∀ c ∈ readableFrom unfinished bytes, IsPlainChar c) :
    unfinished = none ∧ (readableFrom unfinished bytes).map byteOf = bytes := by
  induction bytes generalizing unfinished with
  | nil =>
    cases unfinished with
    | none => exact ⟨rfl, rfl⟩
    | some pending => exact absurd (plain _ List.mem_cons_self) not_isPlainChar_replacement
  | cons byte rest inductionHypothesis =>
    have leadsOn {pending : Unfinished} (leads : pending.Leads)
        (plain : ∀ c ∈ readableFrom (some pending) rest, IsPlainChar c) : False :=
      absurd (inductionHypothesis (fun _ same => Option.some.inj same ▸ leads) plain).1
        (Option.some_ne_none pending)
    cases unfinished with
    | none =>
      rw [readableFrom_none] at plain ⊢
      obtain ⟨shownPlain, restPlain⟩ := List.forall_mem_append.mp plain
      refine ⟨rfl, ?_⟩
      rcases showByte_of_plain shownPlain with ⟨ascii, shown⟩ | ⟨pending, leads, shown⟩
      · rw [shown] at restPlain ⊢
        obtain ⟨-, same⟩ := inductionHypothesis Unfinished.leads_none restPlain
        rw [List.map_append, same, List.map_singleton, byteOf_ofNat ascii]
        rfl
      · rw [shown] at restPlain
        exact (leadsOn leads restPlain).elim
    | some pending =>
      obtain ⟨least, greatest, last, next⟩ := leads pending rfl
      rw [readableFrom] at plain
      split at plain
      · next inRange =>
        rw [Bool.and_eq_true, decide_eq_true_eq, decide_eq_true_eq] at inRange
        simp only at plain
        split at plain
        · next isLast =>
          have bits := last isLast
          exact absurd (plain _ List.mem_cons_self) (not_isPlainChar_ofNat (by omega))
        · refine (leadsOn ⟨?_, ?_, ?_, ?_⟩ plain).elim <;> simp only <;> omega
      · exact absurd (plain _ List.mem_cons_self) not_isPlainChar_replacement

/-- Bytes that are readable as plain characters are the bytes of these. -/
theorem octets_readable (plain : ∀ c ∈ (readable bytes).toList, IsPlainChar c) :
    octets (readable bytes) = bytes := by
  cases stored : ofOctets? bytes with
  | some text =>
    rw [readable, stored]
    exact octets_of_ofOctets? stored
  | none =>
    have isReadable : readable bytes = String.ofList (readableFrom none bytes) := by
      rw [readable, stored]
      rfl
    rw [octets_of_ascii fun c member => (plain c member).2]
    rw [isReadable, String.toList_ofList] at plain ⊢
    exact (readableFrom_plain Unfinished.leads_none plain).2

end IconForge.Text
