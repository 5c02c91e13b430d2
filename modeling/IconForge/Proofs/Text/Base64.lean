import IconForge.Text.Base64

/-!
Contract: bytes are read back from the signs that they are written with.

Owns:
- the signs, and the number that each stands for;
- reading groups of four signs, of which the last may be filled up;
- that what is written of bytes is read as these bytes.

Main statements: `decode?_encodeBytes`, `decode?_encode`.

Does not own: which bytes store a text.
-/

namespace IconForge.Text.Base64

/-- The sixty-four characters, and the one that fills up the last group. -/
def isSign (c : Char) : Bool :=
  c.isAlphanum || c == '+' || c == '/' || c == '='

/-- The number that a sign stands for. -/
def value? (c : Char) : Option Nat :=
  if c.isUpper then some (c.toNat - 'A'.toNat)
  else if c.isLower then some (c.toNat - 'a'.toNat + 26)
  else if c.isDigit then some (c.toNat - '0'.toNat + 52)
  else if c = '+' then some 62
  else if c = '/' then some 63
  else none

/-- The number that signs stand for together, six bits each. -/
def group? (signs : List Char) : Option Nat :=
  signs.foldlM (fun bits sign => (value? sign).map (bits * 64 + ·)) 0

/-- The bytes of a text in groups of four signs. Only the last group may be filled up, and
the bits that it has to spare have to be zero. -/
def decode? : List Char → Option (List UInt8)
  | [] => some []
  | first :: second :: third :: fourth :: rest =>
    if fourth = '=' then
      if rest ≠ [] then none
      else if third = '=' then do
        let bits ← group? [first, second]
        if bits % 16 = 0 then some [.ofNat (bits / 16)] else none
      else do
        let bits ← group? [first, second, third]
        if bits % 4 = 0 then some [.ofNat (bits / 1024), .ofNat (bits / 4 % 256)] else none
    else do
      let bits ← group? [first, second, third, fourth]
      let following ← decode? rest
      some (.ofNat (bits / 65536) :: .ofNat (bits / 256 % 256) :: .ofNat (bits % 256) :: following)
  | _ => none

/-! ### Signs -/

theorem isSign_digit (value : Nat) : isSign (digit value) = true := by
  have small : ∀ value < 62, isSign (digit value) = true := by decide
  rcases Nat.lt_or_ge value 62 with inRange | beyond
  · exact small value inRange
  · unfold digit
    rw [if_neg (by omega), if_neg (by omega), if_neg (by omega)]
    split
    · rfl
    · rfl

theorem all_encodeBytes (bytes : List UInt8) : (encodeBytes bytes).all isSign = true := by
  have filler : isSign '=' = true := rfl
  fun_induction encodeBytes bytes with
  | case1 => rfl
  | case2 => simp only [List.all_cons, List.all_nil, isSign_digit, filler, Bool.and_self]
  | case3 => simp only [List.all_cons, List.all_nil, isSign_digit, filler, Bool.and_self]
  | case4 a b c rest bits inductionHypothesis =>
    simp only [List.all_cons, isSign_digit, inductionHypothesis, Bool.and_self]

theorem isSign_of_mem_encode {text : String} {c : Char} (member : c ∈ (encode text).toList) :
    isSign c = true := by
  rw [encode, String.toList_ofList] at member
  exact List.all_eq_true.mp (all_encodeBytes (octets text)) c member

theorem value?_digit {value : Nat} (small : value < 64) : value? (digit value) = some value := by
  have all : ∀ value < 64, value? (digit value) = some value := by decide
  exact all value small

theorem digit_ne_filler {value : Nat} (small : value < 64) : digit value ≠ '=' := by
  intro isFiller
  have found := value?_digit small
  rw [isFiller] at found
  cases found

/-! ### Groups -/

theorem group?_one {bits : Nat} (small : bits < 64) : group? [digit bits] = some bits := by
  unfold group?
  rw [List.foldlM_cons, value?_digit small, Option.map_some, Nat.zero_mul, Nat.zero_add]
  rfl

/-- The last sign of a group stands for the lowest six bits. -/
theorem group?_concat {signs : List Char} {bits : Nat} (read : group? signs = some (bits / 64)) :
    group? (signs ++ [digit (bits % 64)]) = some bits := by
  have small : bits % 64 < 64 := Nat.mod_lt bits (by decide)
  unfold group? at read ⊢
  rw [List.foldlM_append, read, Option.bind_eq_bind, Option.bind_some, List.foldlM_cons,
    value?_digit small, Option.map_some, Nat.div_add_mod']
  rfl

theorem group?_two {bits : Nat} (small : bits < 4096) :
    group? [digit (bits / 64), digit (bits % 64)] = some bits :=
  group?_concat (group?_one (by omega))

theorem group?_three {bits : Nat} (small : bits < 262144) :
    group? [digit (bits / 4096), digit (bits / 64 % 64), digit (bits % 64)] = some bits := by
  have front := group?_two (show bits / 64 < 4096 by omega)
  rw [Nat.div_div_eq_div_mul] at front
  exact group?_concat front

theorem group?_four {bits : Nat} (small : bits < 16777216) :
    group? [digit (bits / 262144), digit (bits / 4096 % 64), digit (bits / 64 % 64),
      digit (bits % 64)] = some bits := by
  have front := group?_three (show bits / 64 < 262144 by omega)
  rw [Nat.div_div_eq_div_mul, Nat.div_div_eq_div_mul] at front
  exact group?_concat front

/-- What is written of bytes is read as these bytes. -/
theorem decode?_encodeBytes (bytes : List UInt8) : decode? (encodeBytes bytes) = some bytes := by
  fun_induction encodeBytes bytes with
  | case1 => rfl
  | case2 a bits =>
    have inByte := a.toNat_lt
    have isBits : bits = a.toNat * 16 := rfl
    rw [decode?, if_pos rfl, if_neg (not_not_intro rfl), if_pos rfl, group?_two (by omega)]
    simp only [bind, Option.bind_some]
    rw [if_pos (by omega), show bits / 16 = a.toNat by omega, UInt8.ofNat_toNat]
  | case3 a b bits =>
    have inByte := a.toNat_lt
    have alsoInByte := b.toNat_lt
    have isBits : bits = (a.toNat * 256 + b.toNat) * 4 := rfl
    rw [decode?, if_pos rfl, if_neg (not_not_intro rfl), if_neg (digit_ne_filler (by omega)),
      group?_three (by omega)]
    simp only [bind, Option.bind_some]
    rw [if_pos (by omega), show bits / 1024 = a.toNat by omega,
      show bits / 4 % 256 = b.toNat by omega, UInt8.ofNat_toNat, UInt8.ofNat_toNat]
  | case4 a b c rest bits inductionHypothesis =>
    have inByte := a.toNat_lt
    have alsoInByte := b.toNat_lt
    have lastInByte := c.toNat_lt
    have isBits : bits = (a.toNat * 256 + b.toNat) * 256 + c.toNat := rfl
    rw [decode?, if_neg (digit_ne_filler (by omega)), group?_four (by omega),
      inductionHypothesis]
    simp only [bind, Option.bind_some]
    rw [show bits / 65536 = a.toNat by omega, show bits / 256 % 256 = b.toNat by omega,
      show bits % 256 = c.toNat by omega, UInt8.ofNat_toNat, UInt8.ofNat_toNat, UInt8.ofNat_toNat]

/-- What is written of a text is read as the bytes that store it. -/
theorem decode?_encode (text : String) :
    (decode? (encode text).toList).bind ofOctets? = some text := by
  rw [encode, String.toList_ofList, decode?_encodeBytes, Option.bind_some, ofOctets?_octets]

end IconForge.Text.Base64
