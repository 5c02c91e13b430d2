import IconForge.Text.Blank
import IconForge.Text.Letter.Table

/-!
Contract: the tokens of a JSON5 text.

Owns: gaps (blanks and comments), strings and words as lists of pieces, and
the written form of numbers.

Does not own: the values of strings and numbers; a token keeps what is
written.
-/

namespace IconForge.Json5

open IconForge.Text

/-- A piece of a string or a word, as it is written. -/
inductive Piece where
  /-- A character that stands for itself. -/
  | plain (c : Char)
  | escaped (c : Char)
  /-- The digit zero behind a backslash. -/
  | nul
  | byte (digits : List Char)
  /-- Four hexadecimal digits behind `\u`. -/
  | unit (digits : List Char)
deriving DecidableEq, Repr

inductive Token where
  | openList
  | closeList
  | openObject
  | closeObject
  | colon
  | comma
  | string (pieces : List Piece)
  | word (pieces : List Piece)
  | number (text : List Char)
deriving DecidableEq, Repr

/-! ### Character classes -/

def isLineEnd (c : Char) : Bool :=
  c == '\n' || c == '\r' || c == '\u2028' || c == '\u2029'

/-- Characters that may stand between tokens: line ends, three controls, the
byte order mark and the Unicode space separators. -/
def isGap (c : Char) : Bool :=
  isLineEnd c || c == '\t' || c == '\x0b' || c == '\x0c' || c == '\uFEFF' || c == ' ' ||
    c == '\u00A0' || c == '\u1680' || ('\u2000' ≤ c && c ≤ '\u200A') || c == '\u202F' ||
    c == '\u205F' || c == '\u3000'

def isHexDigit (c : Char) : Bool :=
  c.isDigit || ('a' ≤ c && c ≤ 'f') || ('A' ≤ c && c ≤ 'F')

def isWordStart (c : Char) : Bool :=
  c.isAlpha || c == '$' || c == '_' || Letter.letters.contains c

/-- Characters that a word may go on with: those that it may start with,
digits, marks, connectors and joiners. -/
def isWordPart (c : Char) : Bool :=
  isWordStart c || c.isDigit || c == '^' || c == '\x60' || Letter.continuations.contains c

/-! ### Strings and words -/

def cutHex? : Nat → List Char → Option (List Char × List Char)
  | 0, text => some ([], text)
  | _ + 1, [] => none
  | count + 1, c :: rest =>
    if isHexDigit c then
      (cutHex? count rest).map fun (digits, behind) => (c :: digits, behind)
    else
      none

/-- Cuts off what stands behind a backslash in a string. A line end there
continues the string and is no piece of it. -/
def cutEscape? (text : List Char) : Option (Option Piece × List Char) :=
  match text with
  | [] => none
  | c :: rest =>
    if c = 'x' then
      (cutHex? 2 rest).map fun (digits, behind) => (some (.byte digits), behind)
    else if c = 'u' then
      (cutHex? 4 rest).map fun (digits, behind) => (some (.unit digits), behind)
    else if c = '0' then some (some .nul, rest)
    else if c.isDigit then none
    else if c = '\r' ∧ rest.head? = some '\n' then some (none, rest.drop 1)
    else if isLineEnd c then some (none, rest)
    else some (some (.escaped c), rest)

theorem length_le_of_cutHex? {count : Nat} {text digits behind : List Char}
    (cut : cutHex? count text = some (digits, behind)) : behind.length ≤ text.length := by
  induction count generalizing text digits with
  | zero =>
    simp only [cutHex?, Option.some.injEq, Prod.mk.injEq] at cut
    simp [← cut.2]
  | succ count inductionHypothesis =>
    cases text with
    | nil => simp [cutHex?] at cut
    | cons c rest =>
      rw [cutHex?] at cut
      split at cut
      · obtain ⟨inner, innerCut, pairEqual⟩ := Option.map_eq_some_iff.mp cut
        simp only [Prod.mk.injEq] at pairEqual
        have notLonger := inductionHypothesis (innerCut.trans (by rw [← pairEqual.2]))
        rw [List.length_cons]
        omega
      · simp at cut

theorem length_lt_of_cutEscape? {text behind : List Char} {piece : Option Piece}
    (cut : cutEscape? text = some (piece, behind)) : behind.length < text.length := by
  cases text with
  | nil => simp [cutEscape?] at cut
  | cons c rest =>
    rw [List.length_cons]
    simp only [cutEscape?] at cut
    split at cut
    · obtain ⟨inner, innerCut, pairEqual⟩ := Option.map_eq_some_iff.mp cut
      simp only [Prod.mk.injEq] at pairEqual
      have notLonger := length_le_of_cutHex? (show _ = some (inner.1, inner.2) from innerCut)
      rw [pairEqual.2] at notLonger
      omega
    split at cut
    · obtain ⟨inner, innerCut, pairEqual⟩ := Option.map_eq_some_iff.mp cut
      simp only [Prod.mk.injEq] at pairEqual
      have notLonger := length_le_of_cutHex? (show _ = some (inner.1, inner.2) from innerCut)
      rw [pairEqual.2] at notLonger
      omega
    split at cut
    · simp only [Option.some.injEq, Prod.mk.injEq] at cut
      simp [← cut.2]
    split at cut
    · simp at cut
    split at cut
    · simp only [Option.some.injEq, Prod.mk.injEq] at cut
      rw [← cut.2, List.length_drop]
      omega
    split at cut
    · simp only [Option.some.injEq, Prod.mk.injEq] at cut
      simp [← cut.2]
    · simp only [Option.some.injEq, Prod.mk.injEq] at cut
      simp [← cut.2]

def cutString? (quote : Char) (text : List Char) : Option (List Piece × List Char) :=
  match text with
  | [] => none
  | c :: rest =>
    if c = quote then some ([], rest)
    else if c = '\\' then
      match _cut : cutEscape? rest with
      | none => none
      | some (piece, behind) =>
        (cutString? quote behind).map fun (pieces, after) => (piece.toList ++ pieces, after)
    else if isLineEnd c then none
    else (cutString? quote rest).map fun (pieces, after) => (.plain c :: pieces, after)
termination_by text.length
decreasing_by
  · have shorter := length_lt_of_cutEscape? _cut
    rw [List.length_cons]
    omega
  · simp

theorem length_lt_of_cutString? {quote : Char} {text behind : List Char} {pieces : List Piece}
    (cut : cutString? quote text = some (pieces, behind)) : behind.length < text.length := by
  induction lengthEqual : text.length using Nat.strongRecOn generalizing text pieces with
  | ind length inductionHypothesis =>
    cases text with
    | nil => simp [cutString?] at cut
    | cons c rest =>
      rw [List.length_cons] at lengthEqual
      rw [cutString?] at cut
      split at cut
      · simp only [Option.some.injEq, Prod.mk.injEq] at cut
        rw [← cut.2]
        omega
      split at cut
      · split at cut
        · simp at cut
        · next piece middle escapeCut =>
          have shorter := length_lt_of_cutEscape? escapeCut
          obtain ⟨inner, innerCut, pairEqual⟩ := Option.map_eq_some_iff.mp cut
          simp only [Prod.mk.injEq] at pairEqual
          have behindShorter := inductionHypothesis middle.length (by omega)
            (innerCut.trans (by rw [← pairEqual.2])) rfl
          omega
      split at cut
      · simp at cut
      · obtain ⟨inner, innerCut, pairEqual⟩ := Option.map_eq_some_iff.mp cut
        simp only [Prod.mk.injEq] at pairEqual
        have behindShorter := inductionHypothesis rest.length (by omega)
          (innerCut.trans (by rw [← pairEqual.2])) rfl
        omega

/-- Cuts off one piece of a word, of which every character passes a test. -/
def cutWordPiece? (allowed : Char → Bool) (text : List Char) : Option (Piece × List Char) :=
  match text with
  | [] => none
  | '\\' :: 'u' :: rest => (cutHex? 4 rest).map fun (digits, behind) => (.unit digits, behind)
  | c :: rest => if allowed c then some (.plain c, rest) else none

theorem length_lt_of_cutWordPiece? {allowed : Char → Bool} {text behind : List Char}
    {piece : Piece} (cut : cutWordPiece? allowed text = some (piece, behind)) :
    behind.length < text.length := by
  unfold cutWordPiece? at cut
  split at cut
  · simp at cut
  · obtain ⟨inner, innerCut, pairEqual⟩ := Option.map_eq_some_iff.mp cut
    simp only [Prod.mk.injEq] at pairEqual
    have notLonger := length_le_of_cutHex? (show _ = some (inner.1, inner.2) from innerCut)
    rw [pairEqual.2] at notLonger
    simp only [List.length_cons]
    omega
  · split at cut
    · simp only [Option.some.injEq, Prod.mk.injEq] at cut
      simp [← cut.2]
    · simp at cut

/-- Cuts off the rest of a word, which goes on as long as it can. -/
def cutWordRest (text : List Char) : List Piece × List Char :=
  match _cut : cutWordPiece? isWordPart text with
  | none => ([], text)
  | some (piece, behind) =>
    let following := cutWordRest behind
    (piece :: following.1, following.2)
termination_by text.length
decreasing_by exact length_lt_of_cutWordPiece? _cut

theorem length_le_of_cutWordRest (text : List Char) :
    (cutWordRest text).2.length ≤ text.length := by
  induction lengthEqual : text.length using Nat.strongRecOn generalizing text with
  | ind length inductionHypothesis =>
    rw [cutWordRest]
    split
    · simp [lengthEqual]
    · next piece behind cut =>
      have shorter := length_lt_of_cutWordPiece? cut
      have notLonger := inductionHypothesis behind.length (by omega) behind rfl
      simp only
      omega

def cutWord? (text : List Char) : Option (List Piece × List Char) :=
  (cutWordPiece? isWordStart text).map fun (piece, behind) =>
    let following := cutWordRest behind
    (piece :: following.1, following.2)

theorem length_lt_of_cutWord? {text behind : List Char} {pieces : List Piece}
    (cut : cutWord? text = some (pieces, behind)) : behind.length < text.length := by
  obtain ⟨first, firstCut, pairEqual⟩ := Option.map_eq_some_iff.mp cut
  simp only [Prod.mk.injEq] at pairEqual
  have shorter := length_lt_of_cutWordPiece? (show _ = some (first.1, first.2) from firstCut)
  have notLonger := length_le_of_cutWordRest first.2
  rw [← pairEqual.2]
  omega

/-! ### Numbers -/

/-- The digits of an exponent that starts a text, with its letter and sign;
nothing if none starts it. -/
def exponentText (text : List Char) : List Char :=
  match text with
  | [] => []
  | c :: rest =>
    if c = 'e' ∨ c = 'E' then
      let sign := rest.take 1 |>.filter fun c => c == '+' || c == '-'
      let digits := (rest.drop sign.length).takeWhile Char.isDigit
      if digits.isEmpty then [] else c :: sign ++ digits
    else
      []

/-- The whole part that starts a number: a zero, or digits of which the first
is not zero. -/
def wholeText (text : List Char) : List Char :=
  match text with
  | '0' :: _ => ['0']
  | _ => text.takeWhile Char.isDigit

/-- The decimal number without sign that starts a text. -/
def decimalText? (text : List Char) : Option (List Char) :=
  let whole := wholeText text
  match text.drop whole.length with
  | '.' :: rest =>
    let fraction := rest.takeWhile Char.isDigit
    if whole.isEmpty && fraction.isEmpty then none
    else some (whole ++ '.' :: fraction ++ exponentText (rest.drop fraction.length))
  | rest => if whole.isEmpty then none else some (whole ++ exponentText rest)

def unsignedText? (text : List Char) : Option (List Char) :=
  let named := [['I', 'n', 'f', 'i', 'n', 'i', 't', 'y'], ['N', 'a', 'N']]
  let hexDigits := (text.drop 2).takeWhile isHexDigit
  match text with
  | '0' :: x :: _ =>
    if (x = 'x' ∨ x = 'X') ∧ hexDigits ≠ [] then some ('0' :: x :: hexDigits)
    else decimalText? text
  | _ =>
    match named.find? fun name => (dropStart? name text).isSome with
    | some name => some name
    | none => decimalText? text

def numberText? (text : List Char) : Option (List Char) :=
  match text with
  | '+' :: rest => (unsignedText? rest).map ('+' :: ·)
  | '-' :: rest => (unsignedText? rest).map ('-' :: ·)
  | _ => unsignedText? text

/-! ### All tokens of a text -/

def punctuation? (c : Char) : Option Token :=
  match c with
  | '[' => some .openList
  | ']' => some .closeList
  | '\x7b' => some .openObject
  | '\x7d' => some .closeObject
  | ':' => some .colon
  | ',' => some .comma
  | _ => none

/-- What stands behind the comment of which `text` follows the first slash. -/
def cutComment? (text : List Char) : Option (List Char) :=
  match text with
  | '*' :: inside => (cutAt? ['*', '/'] inside).map Prod.snd
  | '/' :: inside => some (inside.dropWhile fun c => !isLineEnd c)
  | _ => none

/-- Cuts off the string, word or number that starts with a character. -/
def cutLong? (first : Char) (rest : List Char) : Option (Token × List Char) :=
  if first = '"' ∨ first = '\'' then
    (cutString? first rest).map fun (pieces, behind) => (.string pieces, behind)
  else if isWordStart first ∨ first = '\\' then
    (cutWord? (first :: rest)).map fun (pieces, behind) => (.word pieces, behind)
  else
    (numberText? (first :: rest)).map fun text => (.number text, rest.drop (text.length - 1))

theorem length_le_of_cutComment? {text behind : List Char}
    (cut : cutComment? text = some behind) : behind.length ≤ text.length := by
  unfold cutComment? at cut
  split at cut
  · obtain ⟨inner, innerCut, pairEqual⟩ := Option.map_eq_some_iff.mp cut
    have notLonger := length_le_of_cutAt? (show _ = some (inner.1, inner.2) from innerCut)
    rw [← pairEqual, List.length_cons]
    omega
  · next inside =>
    have notLonger := (List.dropWhile_sublist (l := inside) fun c => !isLineEnd c).length_le
    simp only [Option.some.injEq] at cut
    rw [← cut, List.length_cons]
    omega
  · simp at cut

theorem length_le_of_cutLong? {first : Char} {rest behind : List Char} {token : Token}
    (cut : cutLong? first rest = some (token, behind)) : behind.length ≤ rest.length := by
  rw [cutLong?] at cut
  split at cut
  · obtain ⟨inner, innerCut, pairEqual⟩ := Option.map_eq_some_iff.mp cut
    simp only [Prod.mk.injEq] at pairEqual
    have shorter := length_lt_of_cutString? (show _ = some (inner.1, inner.2) from innerCut)
    rw [pairEqual.2] at shorter
    omega
  split at cut
  · obtain ⟨inner, innerCut, pairEqual⟩ := Option.map_eq_some_iff.mp cut
    simp only [Prod.mk.injEq] at pairEqual
    have shorter := length_lt_of_cutWord? (show _ = some (inner.1, inner.2) from innerCut)
    rw [pairEqual.2, List.length_cons] at shorter
    omega
  · obtain ⟨text, textCut, pairEqual⟩ := Option.map_eq_some_iff.mp cut
    simp only [Prod.mk.injEq] at pairEqual
    rw [← pairEqual.2, List.length_drop]
    omega

/-- The tokens of a text; none if it holds something that is no token. -/
def tokens? (text : List Char) : Option (List Token) :=
  match text with
  | [] => some []
  | c :: rest =>
    if isGap c then
      tokens? rest
    else if c = '/' then
      match _cut : cutComment? rest with
      | none => none
      | some behind => tokens? behind
    else
      match punctuation? c with
      | some token => (tokens? rest).map (token :: ·)
      | none =>
        match _cut : cutLong? c rest with
        | none => none
        | some (token, behind) => (tokens? behind).map (token :: ·)
termination_by text.length
decreasing_by
  · simp
  · have notLonger := length_le_of_cutComment? _cut
    rw [List.length_cons]
    omega
  · simp
  · have notLonger := length_le_of_cutLong? _cut
    rw [List.length_cons]
    omega

end IconForge.Json5
