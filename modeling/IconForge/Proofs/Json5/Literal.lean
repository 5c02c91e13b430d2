import IconForge.Json5.Value
import IconForge.Script.Literal

/-!
Contract: the literals and keys of a script read back as JSON5.

Owns:
- the piece that each character of a literal is read as;
- the cut of a literal, and of a key in front of a colon, out of a text;
- what the pieces of a literal and of a key stand for.

Main statements: `cutString?_literalBody`, `textOf_literalPieces`,
`cutWord?_identifier`.

Does not own: tokens and what is put together from them.
-/

namespace IconForge.Json5

open IconForge.Script
open IconForge.Text

/-! ### The pieces of a literal -/

/-- The four digits of a character's escape. -/
def escapeDigits (c : Char) : List Char :=
  (unicodeEscape c).drop 2

/-- The piece that a character of a literal is read as. -/
def literalPiece (c : Char) : Piece :=
  match c with
  | '"' => .escaped '"'
  | '\\' => .escaped '\\'
  | '\x08' => .escaped 'b'
  | '\x0c' => .escaped 'f'
  | '\n' => .escaped 'n'
  | '\r' => .escaped 'r'
  | '\t' => .escaped 't'
  | '\u2028' | '\u2029' => .unit (escapeDigits c)
  | _ => if c.toNat < 0x20 then .unit (escapeDigits c) else .plain c

/-- The pieces of a text's literal. -/
def literalPieces (text : String) : List Piece :=
  text.toList.map literalPiece

/-- The ways in which a character stands in a literal. -/
inductive Written (c : Char) : Prop where
  /-- Behind a backslash, by a letter or as itself. -/
  | short (letter : Char) (text : escapeChar c = ['\\', letter])
      (piece : literalPiece c = .escaped letter) (meaning : escapedChar letter = c)
      (cut : ∀ rest, cutEscape? (letter :: rest) = some (some (.escaped letter), rest))
  /-- By its code. -/
  | code (text : escapeChar c = '\\' :: 'u' :: escapeDigits c)
      (piece : literalPiece c = .unit (escapeDigits c)) (small : c.toNat < 0x10000)
  /-- As it is. -/
  | plain (text : escapeChar c = [c]) (piece : literalPiece c = .plain c) (noQuote : c ≠ '"')
      (noBackslash : c ≠ '\\') (noLineEnd : isLineEnd c = false)

theorem written_control {c : Char} (control : c.toNat < 0x20) : Written c := by
  have forms : c = '\x08' ∨ c = '\x0c' ∨ c = '\n' ∨ c = '\r' ∨ c = '\t' ∨
      (escapeChar c = unicodeEscape c ∧ literalPiece c = .unit (escapeDigits c)) := by
    unfold escapeChar literalPiece
    split <;> simp_all
  rcases forms with rfl | rfl | rfl | rfl | rfl | ⟨text, piece⟩
  · exact .short 'b' rfl rfl rfl fun _ => rfl
  · exact .short 'f' rfl rfl rfl fun _ => rfl
  · exact .short 'n' rfl rfl rfl fun _ => rfl
  · exact .short 'r' rfl rfl rfl fun _ => rfl
  · exact .short 't' rfl rfl rfl fun _ => rfl
  · exact .code text piece (by omega)

/-- Every character is written in one of the three ways. -/
theorem written (c : Char) : Written c := by
  by_cases control : c.toNat < 0x20
  · exact written_control control
  by_cases quote : c = '"'
  · subst quote
    exact .short '"' rfl rfl rfl fun _ => rfl
  by_cases backslash : c = '\\'
  · subst backslash
    exact .short '\\' rfl rfl rfl fun _ => rfl
  by_cases lineSeparator : c = '\u2028'
  · subst lineSeparator
    exact .code rfl rfl (by decide)
  by_cases paragraphSeparator : c = '\u2029'
  · subst paragraphSeparator
    exact .code rfl rfl (by decide)
  have above : ∀ {other : Char}, other.toNat < 0x20 → c ≠ other := by
    rintro other below rfl
    exact control below
  have text : escapeChar c = [c] := by
    unfold escapeChar
    split <;> first | contradiction | exact if_neg control
  have piece : literalPiece c = .plain c := by
    unfold literalPiece
    split <;> first | contradiction | exact if_neg control
  refine .plain text piece quote backslash ?_
  have noNewline : c ≠ '\n' := above (by decide)
  have noReturn : c ≠ '\r' := above (by decide)
  simp [isLineEnd, noNewline, noReturn, lineSeparator, paragraphSeparator]

/-! ### Escapes by code -/

theorem isHexDigit_hexDigit : ∀ value < 16, isHexDigit (hexDigit value) = true := by
  decide

theorem digitValue?_hexDigit : ∀ value < 16, digitValue? 16 (hexDigit value) = some value := by
  decide

theorem cutHex?_escapeDigits (c : Char) (rest : List Char) :
    cutHex? 4 (escapeDigits c ++ rest) = some (escapeDigits c, rest) := by
  have digit (value : Nat) : isHexDigit (hexDigit (value % 16)) = true :=
    isHexDigit_hexDigit _ (Nat.mod_lt _ (by decide))
  simp only [escapeDigits, unicodeEscape, List.drop_succ_cons, List.drop_zero, List.cons_append,
    List.nil_append, cutHex?, digit, if_true, Option.map_some]

theorem readHex_escapeDigits {c : Char} (small : c.toNat < 0x10000) :
    readHex (escapeDigits c) = .ok c.toNat := by
  have digit (value : Nat) : digitValue? 16 (hexDigit (value % 16)) = some (value % 16) :=
    digitValue?_hexDigit _ (Nat.mod_lt _ (by decide))
  have bound : widthBound 32 = 0x100000000 := rfl
  have read : readDigits 16 (widthBound 32) (escapeDigits c) = .ok c.toNat := by
    simp only [readDigits, escapeDigits, unicodeEscape, List.drop_succ_cons, List.drop_zero,
      List.isEmpty_cons, Bool.false_eq_true, if_false, readDigitsFrom, digit]
    rw [if_pos (by omega), if_pos (by omega), if_pos (by omega), if_pos (by omega)]
    exact congrArg Except.ok (by omega)
  rw [readHex, read]

/-- A character's code is neither half of a surrogate pair. -/
theorem isSurrogate_toNat (c : Char) : isTrail c.toNat = false ∧ isLead c.toNat = false := by
  have valid : c.toNat < 0xD800 ∨ (0xDFFF < c.toNat ∧ c.toNat < 0x110000) := c.valid
  unfold isTrail isLead
  simp only [Bool.and_eq_false_iff, decide_eq_false_iff_not]
  omega

/-! ### Literals -/

theorem cutString?_backslash {rest behind : List Char} {piece : Option Piece}
    (cut : cutEscape? rest = some (piece, behind)) :
    cutString? '"' ('\\' :: rest) =
      (cutString? '"' behind).map fun (pieces, after) => (piece.toList ++ pieces, after) := by
  rw [cutString?, if_neg (by decide), if_pos rfl]
  split
  · next cutNone => simp [cut] at cutNone
  · next cutSome =>
    rw [cut] at cutSome
    simp only [Option.some.injEq, Prod.mk.injEq] at cutSome
    rw [cutSome.1, cutSome.2]

theorem cutString?_escapeChar (c : Char) (rest : List Char) :
    cutString? '"' (escapeChar c ++ rest) =
      (cutString? '"' rest).map fun (pieces, behind) => (literalPiece c :: pieces, behind) := by
  rcases written c with ⟨letter, text, piece, -, cut⟩ | ⟨text, piece, -⟩ |
    ⟨text, piece, noQuote, noBackslash, noLineEnd⟩
  · rw [text, piece]
    exact cutString?_backslash (cut rest)
  · have cut : cutEscape? ('u' :: (escapeDigits c ++ rest)) =
        some (some (.unit (escapeDigits c)), rest) := by
      simp only [cutEscape?, cutHex?_escapeDigits]
      rfl
    rw [text, piece]
    exact cutString?_backslash cut
  · rw [text, piece, List.cons_append, List.nil_append, cutString?, if_neg noQuote,
      if_neg noBackslash, if_neg (by simp [noLineEnd])]

/-- The rest of a literal behind its first quote is cut off as its pieces. -/
theorem cutString?_literalBody (text rest : List Char) :
    cutString? '"' (literalBody text ++ '"' :: rest) = some (text.map literalPiece, rest) := by
  induction text with
  | nil =>
    change cutString? '"' ('"' :: rest) = some ([], rest)
    rw [cutString?, if_pos rfl]
  | cons c text inductionHypothesis =>
    have split : literalBody (c :: text) = escapeChar c ++ literalBody text := List.flatMap_cons
    rw [split, List.append_assoc, cutString?_escapeChar, inductionHypothesis]
    rfl

theorem textOf_literalPiece (c : Char) (rest : List Piece) :
    textOf (literalPiece c :: rest) = (textOf rest).map (c :: ·) := by
  rcases written c with ⟨letter, -, piece, meaning, -⟩ | ⟨-, piece, small⟩ | ⟨-, piece, -, -, -⟩
  · rw [piece, textOf, meaning]
    rfl
  · obtain ⟨noTrail, noLead⟩ := isSurrogate_toNat c
    rw [piece, textOf, readHex_escapeDigits small]
    simp only [bind, Except.bind, noTrail, noLead, Bool.false_eq_true, if_false, Char.ofNat_toNat]
    rfl
  · rw [piece, textOf]
    rfl

/-- The pieces of a literal stand for the text that was written. -/
theorem textOf_literalPieces (text : List Char) : textOf (text.map literalPiece) = .ok text := by
  induction text with
  | nil => rfl
  | cons c text inductionHypothesis =>
    rw [List.map_cons, textOf_literalPiece, inductionHypothesis]
    rfl

@[simp] theorem stringOf_literalPieces (text : String) :
    stringOf (literalPieces text) = .ok text := by
  rw [stringOf, literalPieces, textOf_literalPieces]
  exact congrArg Except.ok String.ofList_toList

/-! ### Keys -/

/-- The pieces of an object key. -/
def keyPieces (text : String) : List Piece :=
  if isIdentifier text then plainPieces text else literalPieces text

theorem isWordStart_of_isIdentifierStart {c : Char} (start : isIdentifierStart c = true) :
    isWordStart c = true := by
  simp only [isIdentifierStart, Bool.or_eq_true] at start
  simp only [isWordStart, Bool.or_eq_true]
  rcases start with (letter | underscore) | dollar
  · exact Or.inl (Or.inl (Or.inl letter))
  · exact Or.inl (Or.inr underscore)
  · exact Or.inl (Or.inl (Or.inr dollar))

theorem isWordPart_of_isIdentifierPart {c : Char} (part : isIdentifierPart c = true) :
    isWordPart c = true := by
  simp only [isIdentifierPart, Bool.or_eq_true] at part
  simp only [isWordPart, Bool.or_eq_true]
  rcases part with start | digit
  · exact Or.inl (Or.inl (Or.inl (Or.inl (isWordStart_of_isIdentifierStart start))))
  · exact Or.inl (Or.inl (Or.inl (Or.inr digit)))

theorem ne_backslash_of_isIdentifierPart {c : Char} (part : isIdentifierPart c = true) :
    c ≠ '\\' := by
  rintro rfl
  exact absurd part (by decide)

theorem cutWordPiece?_plain {allowed : Char → Bool} {c : Char} (rest : List Char)
    (isAllowed : allowed c = true) (noBackslash : c ≠ '\\') :
    cutWordPiece? allowed (c :: rest) = some (.plain c, rest) := by
  unfold cutWordPiece?
  split
  · contradiction
  · next equal =>
    injection equal with head
    exact absurd head noBackslash
  · next equal =>
    injection equal with head tail
    rw [← head, ← tail, if_pos isAllowed]

theorem cutWordPiece?_colon (rest : List Char) :
    cutWordPiece? isWordPart (':' :: rest) = none := by
  have noPart : isWordPart ':' = false := by decide +kernel
  unfold cutWordPiece?
  simp [noPart]

/-- A word that a colon follows ends in front of the colon. -/
theorem cutWordRest_identifier {text : List Char} (parts : text.all isIdentifierPart = true)
    (rest : List Char) :
    cutWordRest (text ++ ':' :: rest) = (text.map Piece.plain, ':' :: rest) := by
  induction text with
  | nil =>
    rw [List.nil_append, cutWordRest]
    split
    · rfl
    · next cut => simp [cutWordPiece?_colon] at cut
  | cons c text inductionHypothesis =>
    rw [List.all_cons, Bool.and_eq_true] at parts
    have cutFirst := cutWordPiece?_plain (text ++ ':' :: rest)
      (isWordPart_of_isIdentifierPart parts.1) (ne_backslash_of_isIdentifierPart parts.1)
    rw [List.cons_append, cutWordRest]
    split
    · next cut => simp [cutFirst] at cut
    · next cut =>
      rw [cutFirst] at cut
      simp only [Option.some.injEq, Prod.mk.injEq] at cut
      simp only [← cut.1, ← cut.2, inductionHypothesis parts.2, List.map_cons]

theorem cutWord?_identifier {c : Char} {text : List Char} (start : isIdentifierStart c = true)
    (parts : text.all isIdentifierPart = true) (rest : List Char) :
    cutWord? (c :: text ++ ':' :: rest) =
      some ((c :: text).map Piece.plain, ':' :: rest) := by
  have noBackslash : c ≠ '\\' := by
    rintro rfl
    exact absurd start (by decide)
  rw [cutWord?, List.cons_append, cutWordPiece?_plain _ (isWordStart_of_isIdentifierStart start)
    noBackslash]
  simp only [Option.map_some, cutWordRest_identifier parts, List.map_cons]

theorem textOf_plain (text : List Char) : textOf (text.map Piece.plain) = .ok text := by
  induction text with
  | nil => rfl
  | cons c text inductionHypothesis =>
    rw [List.map_cons, textOf, inductionHypothesis]
    rfl

@[simp] theorem stringOf_plainPieces (text : String) :
    stringOf (plainPieces text) = .ok text := by
  rw [stringOf, plainPieces, textOf_plain]
  exact congrArg Except.ok String.ofList_toList

@[simp] theorem stringOf_keyPieces (text : String) : stringOf (keyPieces text) = .ok text := by
  unfold keyPieces
  split
  · exact stringOf_plainPieces text
  · exact stringOf_literalPieces text

end IconForge.Json5
