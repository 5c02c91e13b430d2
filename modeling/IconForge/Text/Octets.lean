/-!
Contract: texts as they are stored, in bytes.

Owns: the bytes of a text, and a readable text for any bytes, in which each
malformed part shows as one replacement character.
-/

namespace IconForge.Text

def octets (text : String) : List UInt8 :=
  text.toUTF8.data.toList

/-- The text that bytes store, if they store one. -/
def ofOctets? (bytes : List UInt8) : Option String :=
  String.fromUTF8? ⟨bytes.toArray⟩

theorem fromUTF8?_toUTF8 (text : String) : String.fromUTF8? text.toUTF8 = some text := by
  rw [String.toUTF8_eq_toByteArray, String.fromUTF8?, dif_pos text.isValidUTF8]
  rfl

theorem ofOctets?_octets (text : String) : ofOctets? (octets text) = some text := by
  have sameBytes : (⟨(octets text).toArray⟩ : ByteArray) = text.toUTF8 := by
    simp [octets]
  rw [ofOctets?, sameBytes, fromUTF8?_toUTF8]

theorem octets_of_ofOctets? {bytes : List UInt8} {text : String}
    (stored : ofOctets? bytes = some text) : octets text = bytes := by
  unfold ofOctets? String.fromUTF8? at stored
  split at stored
  · cases stored
    rfl
  · cases stored

theorem octets_append (front back : String) :
    octets (front ++ back) = octets front ++ octets back := by
  simp [octets, String.toUTF8_eq_toByteArray]

theorem octets_injective {text other : String} (same : octets text = octets other) :
    text = other := by
  have stored := ofOctets?_octets text
  rw [same, ofOctets?_octets] at stored
  exact (Option.some.inj stored).symm

/-- The character that stands for a malformed part. -/
def replacement : Char := '\ufffd'

/-- A character of which some bytes have been read. -/
structure Unfinished where
  bits : Nat
  /-- How many bytes are still to come. -/
  missing : Nat
  least : Nat
  /-- The greatest byte that can come next. -/
  greatest : Nat

namespace Unfinished

/-- What the first byte of a character of several bytes begins. -/
def start? (byte : Nat) : Option Unfinished :=
  if byte < 0xC2 then none
  else if byte < 0xE0 then some ⟨byte - 0xC0, 1, 0x80, 0xBF⟩
  else if byte = 0xE0 then some ⟨0, 2, 0xA0, 0xBF⟩
  else if byte = 0xED then some ⟨0xD, 2, 0x80, 0x9F⟩
  else if byte < 0xF0 then some ⟨byte - 0xE0, 2, 0x80, 0xBF⟩
  else if byte = 0xF0 then some ⟨0, 3, 0x90, 0xBF⟩
  else if byte < 0xF4 then some ⟨byte - 0xF0, 3, 0x80, 0xBF⟩
  else if byte = 0xF4 then some ⟨4, 3, 0x80, 0x8F⟩
  else none

end Unfinished

def showByte (byte : Nat) : List Char × Option Unfinished :=
  if byte < 0x80 then ([Char.ofNat byte], none)
  else
    match Unfinished.start? byte with
    | some unfinished => ([], some unfinished)
    | none => ([replacement], none)

/-- A readable text for bytes, given what is unfinished in front of them. -/
def readableFrom (unfinished : Option Unfinished) : List UInt8 → List Char
  | [] => if unfinished.isSome then [replacement] else []
  | byte :: rest =>
    match unfinished with
    | none =>
      let (shown, unfinished) := showByte byte.toNat
      shown ++ readableFrom unfinished rest
    | some pending =>
      if pending.least ≤ byte.toNat && byte.toNat ≤ pending.greatest then
        let bits := pending.bits * 0x40 + byte.toNat % 0x40
        if pending.missing ≤ 1 then
          Char.ofNat bits :: readableFrom none rest
        else
          readableFrom (some ⟨bits, pending.missing - 1, 0x80, 0xBF⟩) rest
      else
        let (shown, unfinished) := showByte byte.toNat
        replacement :: shown ++ readableFrom unfinished rest

/-- A readable text for bytes: the text they store if they store one, and else
with a replacement character for each longest part that begins no character or
breaks one off. -/
def readable (bytes : List UInt8) : String :=
  (ofOctets? bytes).getD (String.ofList (readableFrom none bytes))

theorem readable_octets (text : String) : readable (octets text) = text := by
  simp [readable, ofOctets?_octets]

end IconForge.Text
