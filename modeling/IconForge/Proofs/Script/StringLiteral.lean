import IconForge.Proofs.Json5.Layout
import IconForge.Proofs.Script.MapModule

/-!
Contract: string literals and object keys by the rules of the script's language.

Owns:
- a text as the code units that the language stores of it;
- reading a string literal, with every escape that the language has, and the name of a
  property;
- the ways in which a character stands in a literal that is written;
- that literals and keys are read back, here and as JSON5, and that nothing stands raw in a
  literal which would end it.

Main statement: `literal_key_readBack`.

Does not own: keys that are numbers or computed, and what an object does with its keys.
-/

namespace IconForge.Script.StringLiteral

open IconForge.Script.Reader (Alphabet Breaks breaks_cons cutIdentifier?_append)

/-! ### Code units -/

/-- The code units of a code point: itself, or the two halves of a surrogate pair. -/
def codeUnits (code : Nat) : List Nat :=
  if code < 0x10000 then [code]
  else [0xD800 + (code - 0x10000) / 0x400, 0xDC00 + (code - 0x10000) % 0x400]

/-- A text as the language stores it. -/
def units (text : List Char) : List Nat :=
  text.flatMap fun c => codeUnits c.toNat

variable {c d : Char} {text front back rest : List Char}

theorem toNat_valid (c : Char) : c.toNat < 0xD800 ∨ 0xDFFF < c.toNat ∧ c.toNat < 0x110000 :=
  c.valid

/-- What stands behind the code units of a character does not matter for what it is: the
first half of a pair is the code of no character. -/
theorem eq_of_codeUnits_append {first second : List Nat}
    (same : codeUnits c.toNat ++ first = codeUnits d.toNat ++ second) : c = d ∧ first = second := by
  have validFirst := toNat_valid c
  have validSecond := toNat_valid d
  rw [← Char.toNat_inj]
  unfold codeUnits at same
  split at same
  · split at same
    · simpa using same
    · simp only [List.cons_append, List.nil_append, List.cons.injEq] at same
      omega
  · split at same
    · simp only [List.cons_append, List.nil_append, List.cons.injEq] at same
      omega
    · simp only [List.cons_append, List.nil_append, List.cons.injEq] at same
      obtain ⟨high, low, rest⟩ := same
      exact ⟨by omega, rest⟩

theorem units_cons (c : Char) (rest : List Char) :
    units (c :: rest) = codeUnits c.toNat ++ units rest :=
  List.flatMap_cons

theorem units_singleton (c : Char) : units [c] = codeUnits c.toNat :=
  List.flatMap_singleton ..

theorem codeUnits_ne_nil (code : Nat) : codeUnits code ≠ [] := by
  unfold codeUnits
  split <;> exact List.cons_ne_nil _ _

/-- A text is known by its code units. -/
theorem units_injective : Function.Injective units := by
  intro text other same
  induction text generalizing other with
  | nil =>
    cases other with
    | nil => rfl
    | cons d behind =>
      rw [units_cons] at same
      exact absurd (List.append_eq_nil_iff.mp same.symm).1 (codeUnits_ne_nil _)
  | cons c rest inductionHypothesis =>
    cases other with
    | nil =>
      rw [units_cons] at same
      exact absurd (List.append_eq_nil_iff.mp same).1 (codeUnits_ne_nil _)
    | cons d behind =>
      rw [units_cons, units_cons] at same
      obtain ⟨rfl, sameRest⟩ := eq_of_codeUnits_append same
      rw [inductionHypothesis sameRest]

/-! ### Literals -/

/-- The number that hexadecimal digits stand for. -/
def hexValue (digits : List Char) : Nat :=
  digits.foldl (fun value digit => 16 * value + (Text.digitValue? 16 digit).getD 0) 0

/-- The code point between braces that starts a text. -/
def codePoint? (text : List Char) : Option (List Nat × List Char) :=
  match text with
  | '\x7b' :: inside =>
    let digits := inside.takeWhile Json5.isHexDigit
    match inside.dropWhile Json5.isHexDigit with
    | '\x7d' :: behind =>
      if digits ≠ [] ∧ hexValue digits ≤ 0x10FFFF then some (codeUnits (hexValue digits), behind)
      else none
    | _ => none
  | _ => none

/-- Reads what stands behind a backslash. A line end there stands for nothing, and a digit
other than a single zero is refused. -/
def escape? (text : List Char) : Option (List Nat × List Char) :=
  match text with
  | [] => none
  | c :: rest =>
    if c = 'x' then
      (Json5.cutHex? 2 rest).map fun (digits, behind) => ([hexValue digits], behind)
    else if c = 'u' then
      match Json5.cutHex? 4 rest with
      | some (digits, behind) => some ([hexValue digits], behind)
      | none => codePoint? rest
    else if c = '0' ∧ rest.head?.all (fun d => !d.isDigit) then some ([0], rest)
    else if c.isDigit then none
    else if c = '\r' ∧ rest.head? = some '\n' then some ([], rest.drop 1)
    else if Json5.isLineEnd c then some ([], rest)
    else some (units [Json5.escapedChar c], rest)

theorem length_lt_of_codePoint? {text behind : List Char} {value : List Nat}
    (read : codePoint? text = some (value, behind)) : behind.length < text.length := by
  unfold codePoint? at read
  split at read
  · next inside =>
    have notLonger := (List.dropWhile_sublist (l := inside) Json5.isHexDigit).length_le
    simp only at read
    split at read
    · next after isAfter =>
      split at read
      · cases read
        rw [isAfter, List.length_cons] at notLonger
        rw [List.length_cons]
        omega
      · cases read
    · cases read
  · cases read

theorem length_lt_of_escape? {text behind : List Char} {value : List Nat}
    (read : escape? text = some (value, behind)) : behind.length < text.length := by
  cases text with
  | nil => cases read
  | cons c rest =>
    rw [List.length_cons]
    simp only [escape?] at read
    split at read
    · obtain ⟨⟨digits, after⟩, cut, pair⟩ := Option.map_eq_some_iff.mp read
      cases pair
      exact Nat.lt_succ_of_le (Json5.length_le_of_cutHex? cut)
    split at read
    · split at read
      · next digits after cut =>
        cases read
        exact Nat.lt_succ_of_le (Json5.length_le_of_cutHex? cut)
      · exact Nat.lt_succ_of_lt (length_lt_of_codePoint? read)
    split at read
    · cases read
      exact Nat.lt_succ_self _
    split at read
    · cases read
    split at read
    · cases read
      rw [List.length_drop]
      omega
    split at read
    · cases read
      exact Nat.lt_succ_self _
    · cases read
      exact Nat.lt_succ_self _

/-- Whether a raw character breaks a literal off: a line feed or a carriage return does, and
so do the two line separators in editions that do not allow them there. -/
def breaksOff (separatorsAllowed : Bool) (c : Char) : Bool :=
  Json5.isLineEnd c && !(separatorsAllowed && (c == '\u2028' || c == '\u2029'))

/-- Reads the rest of a literal, behind its first quote: its value, and what stands behind
its last quote. -/
def body? (separatorsAllowed : Bool) (quote : Char) (text : List Char) :
    Option (List Nat × List Char) :=
  match text with
  | [] => none
  | c :: rest =>
    if c = quote then some ([], rest)
    else if c = '\\' then
      match _read : escape? rest with
      | none => none
      | some (value, behind) =>
        (body? separatorsAllowed quote behind).map fun (following, after) =>
          (value ++ following, after)
    else if breaksOff separatorsAllowed c then none
    else
      (body? separatorsAllowed quote rest).map fun (following, after) =>
        (units [c] ++ following, after)
termination_by text.length
decreasing_by
  · have shorter := length_lt_of_escape? _read
    rw [List.length_cons]
    omega
  · simp

/-- Reads the string literal that starts a text. -/
def read? (separatorsAllowed : Bool) (text : List Char) : Option (List Nat × List Char) :=
  match text with
  | '"' :: rest => body? separatorsAllowed '"' rest
  | '\'' :: rest => body? separatorsAllowed '\'' rest
  | _ => none

/-- Reads the name of a property that starts a text: a string literal or an identifier. -/
def propertyName? (alphabet : Alphabet) (separatorsAllowed : Bool) (text : List Char) :
    Option (List Nat × List Char) :=
  match read? separatorsAllowed text with
  | some read => some read
  | none => (alphabet.cutIdentifier? text).map fun (name, behind) => (units name.toList, behind)

/-! ### How characters stand in a literal -/

/-- The characters that are written by a letter behind a backslash. -/
inductive Letter : Char → Char → Prop where
  | quote : Letter '"' '"'
  | backslash : Letter '\\' '\\'
  | backspace : Letter '\x08' 'b'
  | formFeed : Letter '\x0c' 'f'
  | lineFeed : Letter '\n' 'n'
  | carriageReturn : Letter '\r' 'r'
  | tab : Letter '\t' 't'

def letterOf? (c : Char) : Option Char :=
  match c with
  | '"' => some '"'
  | '\\' => some '\\'
  | '\x08' => some 'b'
  | '\x0c' => some 'f'
  | '\n' => some 'n'
  | '\r' => some 'r'
  | '\t' => some 't'
  | _ => none

theorem letter_of_letterOf? {letter : Char} (isLetter : letterOf? c = some letter) :
    Letter c letter := by
  unfold letterOf? at isLetter
  split at isLetter <;> cases isLetter <;> constructor

theorem plain_of_letterless (letterless : letterOf? c = none) : c ≠ '"' ∧ c ≠ '\\' := by
  constructor
  · rintro rfl
    cases letterless
  · rintro rfl
    cases letterless

/-- The ways in which a character stands in a literal. -/
inductive Form (c : Char) : Prop where
  | byLetter (letter : Char) (isLetter : Letter c letter) (written : escapeChar c = ['\\', letter])
  | byCode (letterless : letterOf? c = none) (cause : c.toNat < 0x20 ∨ c = '\u2028' ∨ c = '\u2029')
      (written : escapeChar c = unicodeEscape c)
  | itself (letterless : letterOf? c = none) (noControl : 0x20 ≤ c.toNat)
      (noSeparator : c ≠ '\u2028' ∧ c ≠ '\u2029') (written : escapeChar c = [c])

theorem form (c : Char) : Form c := by
  cases hasLetter : letterOf? c with
  | some letter =>
    have isLetter := letter_of_letterOf? hasLetter
    exact .byLetter letter isLetter (by cases isLetter <;> rfl)
  | none =>
    by_cases isSeparator : c = '\u2028' ∨ c = '\u2029'
    · exact .byCode hasLetter (Or.inr isSeparator) (by rcases isSeparator with rfl | rfl <;> rfl)
    have other : escapeChar c = if c.toNat < 0x20 then unicodeEscape c else [c] := by
      unfold escapeChar
      split <;> first | rfl | exact absurd (Or.inl rfl) isSeparator |
        exact absurd (Or.inr rfl) isSeparator | cases hasLetter
    by_cases control : c.toNat < 0x20
    · exact .byCode hasLetter (Or.inl control) (other.trans (if_pos control))
    · exact .itself hasLetter (by omega) (not_or.mp isSeparator) (other.trans (if_neg control))

/-! ### Literals that are written are read back -/

theorem escape?_letter {letter : Char} (isLetter : Letter c letter) (rest : List Char) :
    escape? (letter :: rest) = some (units [c], rest) := by
  cases isLetter <;> rfl

theorem hexValue_escapeDigits (small : c.toNat < 0x10000) :
    hexValue (Json5.escapeDigits c) = c.toNat := by
  have digit (value : Nat) : Text.digitValue? 16 (hexDigit (value % 16)) = some (value % 16) :=
    Json5.digitValue?_hexDigit _ (Nat.mod_lt _ (by decide))
  simp only [hexValue, Json5.escapeDigits, unicodeEscape, List.drop_succ_cons, List.drop_zero,
    List.foldl_cons, List.foldl_nil, digit, Option.getD_some]
  omega

theorem escape?_code (small : c.toNat < 0x10000) (rest : List Char) :
    escape? ('u' :: (Json5.escapeDigits c ++ rest)) = some (units [c], rest) := by
  have noByte : ¬('u' : Char) = 'x' := by decide
  have isUnit : units [c] = [c.toNat] := by
    rw [units_singleton, codeUnits, if_pos small]
  simp only [escape?, if_neg noByte, if_true, Json5.cutHex?_escapeDigits,
    hexValue_escapeDigits small, isUnit]

variable {separatorsAllowed : Bool}

theorem body?_backslash {value : List Nat} {behind : List Char}
    (read : escape? rest = some (value, behind)) :
    body? separatorsAllowed '"' ('\\' :: rest) =
      (body? separatorsAllowed '"' behind).map fun (following, after) =>
        (value ++ following, after) := by
  rw [body?, if_neg (by decide), if_pos rfl]
  split
  · next readNone =>
    rw [read] at readNone
    cases readNone
  · next readSome =>
    rw [read] at readSome
    cases readSome
    rfl

theorem body?_escapeChar (c : Char) (rest : List Char) :
    body? separatorsAllowed '"' (escapeChar c ++ rest) =
      (body? separatorsAllowed '"' rest).map fun (following, after) =>
        (units [c] ++ following, after) := by
  cases form c with
  | byLetter letter isLetter written =>
    rw [written]
    exact body?_backslash (escape?_letter isLetter rest)
  | byCode letterless cause written =>
    have small : c.toNat < 0x10000 := by
      rcases cause with control | rfl | rfl
      · omega
      · decide
      · decide
    rw [written]
    exact body?_backslash (escape?_code small rest)
  | itself letterless noControl noSeparator written =>
    obtain ⟨noQuote, noBackslash⟩ := plain_of_letterless letterless
    have staysIn : breaksOff separatorsAllowed c = false := by
      have noLineEnd : Json5.isLineEnd c = false := by
        have above (other : Char) (below : other.toNat < 0x20) : c ≠ other := by
          rintro rfl
          omega
        simp [Json5.isLineEnd, above '\n' (by decide), above '\r' (by decide), noSeparator.1,
          noSeparator.2]
      rw [breaksOff, noLineEnd, Bool.false_and]
    rw [written, List.singleton_append, body?, if_neg noQuote, if_neg noBackslash,
      if_neg (Bool.eq_false_iff.mp staysIn)]

theorem body?_literalBody (text rest : List Char) :
    body? separatorsAllowed '"' (literalBody text ++ '"' :: rest) = some (units text, rest) := by
  induction text with
  | nil =>
    change body? separatorsAllowed '"' ('"' :: rest) = some ([], rest)
    rw [body?, if_pos rfl]
  | cons c text inductionHypothesis =>
    have split : literalBody (c :: text) = escapeChar c ++ literalBody text := List.flatMap_cons
    rw [split, List.append_assoc, body?_escapeChar, inductionHypothesis, units_singleton,
      units_cons]
    rfl

theorem toList_literal (text : String) :
    (literal text).toList = '"' :: (literalBody text.toList ++ ['"']) :=
  String.toList_ofList

/-- A literal is read back in front of anything. -/
theorem read?_literal (text : String) (rest : List Char) :
    read? separatorsAllowed ((literal text).toList ++ rest) = some (units text.toList, rest) := by
  rw [toList_literal, List.cons_append, List.append_assoc, List.singleton_append]
  exact body?_literalBody text.toList rest

/-- No identifier starts with a quote. -/
theorem read?_identifier {name : String} (identifier : isIdentifier name = true)
    (rest : List Char) : read? separatorsAllowed (name.toList ++ rest) = none := by
  unfold isIdentifier at identifier
  split at identifier
  · cases identifier
  · next c following isName =>
    have start := (Bool.and_eq_true_iff.mp identifier).1
    rw [isName, List.cons_append]
    unfold read?
    split
    · next isQuote =>
      cases isQuote
      cases start
    · next isQuote =>
      cases isQuote
      cases start
    · rfl

/-- A key is read back in front of a colon. -/
theorem propertyName?_key (alphabet : Alphabet) (name : String) (rest : List Char) :
    propertyName? alphabet separatorsAllowed ((key name).toList ++ ':' :: rest) =
      some (units name.toList, ':' :: rest) := by
  unfold key
  split
  · next identifier =>
    rw [propertyName?, read?_identifier identifier,
      cutIdentifier?_append (alphabet.isIdentifier_of_ascii identifier)
        (breaks_cons alphabet (by decide) rest)]
    rfl
  · rw [propertyName?, read?_literal]

/-! ### Nothing ends a literal early -/

/-- Whether a backslash at the end of a text escapes what stands behind it: one that is not
itself behind such a backslash does. -/
def isEscaping (text : List Char) : Bool :=
  text.foldl (fun escaping c => !escaping && c == '\\') false

/-- What may stand between the quotes of a literal: no raw control characters and line
separators, and a quote or a last backslash only if it is escaped. -/
structure IsBody (body : List Char) : Prop where
  raw : ∀ c ∈ body, 0x20 ≤ c.toNat ∧ c ≠ '\u2028' ∧ c ≠ '\u2029'
  quotes : ∀ front back, body = front ++ '"' :: back → isEscaping front = true
  ending : isEscaping body = false

theorem isEscaping_append (ending : isEscaping front = false) :
    isEscaping (front ++ back) = isEscaping back := by
  unfold isEscaping at ending ⊢
  rw [List.foldl_append, ending]

namespace IsBody

theorem nil : IsBody [] where
  raw := List.forall_mem_nil _
  quotes _ _ split := absurd split.symm (by simp)
  ending := rfl

theorem append (isFront : IsBody front) (isBack : IsBody back) : IsBody (front ++ back) where
  raw := List.forall_mem_append.mpr ⟨isFront.raw, isBack.raw⟩
  quotes before behind split := by
    rcases List.append_eq_append_iff.mp split with ⟨middle, rfl, isSplit⟩ | ⟨middle, isSplit, rest⟩
    · rw [isEscaping_append isFront.ending]
      exact isBack.quotes middle behind isSplit
    · cases middle with
      | nil =>
        rw [List.nil_append] at rest
        have starts := isBack.quotes [] behind rest.symm
        cases starts
      | cons first middle =>
        cases rest
        exact isFront.quotes before middle isSplit
  ending := (isEscaping_append isFront.ending).trans isBack.ending

/-- A text without quotes and backslashes. -/
theorem of_plain (raw : ∀ c ∈ text, 0x20 ≤ c.toNat ∧ c ≠ '\u2028' ∧ c ≠ '\u2029')
    (plain : ∀ c ∈ text, c ≠ '"' ∧ c ≠ '\\') : IsBody text := by
  refine ⟨raw, ?_, ?_⟩
  · rintro front back rfl
    exact absurd rfl (plain '"' (by simp)).1
  · clear raw
    induction text with
    | nil => rfl
    | cons c rest inductionHypothesis =>
      rw [List.forall_mem_cons] at plain
      have here : isEscaping [c] = false := beq_eq_false_iff_ne.mpr plain.1.2
      exact (isEscaping_append here).trans (inductionHypothesis plain.2)

/-- A character behind a backslash. -/
theorem of_escaped (raw : 0x20 ≤ c.toNat ∧ c ≠ '\u2028' ∧ c ≠ '\u2029') :
    IsBody ['\\', c] where
  raw := List.forall_mem_cons.mpr ⟨by decide, List.forall_mem_singleton.mpr raw⟩
  quotes front back split := by
    cases front with
    | nil => cases split
    | cons first front =>
      obtain ⟨rfl, behind⟩ := List.cons.inj split
      cases front with
      | nil => rfl
      | cons second front => exact absurd (List.cons.inj behind).2 (by simp)
  ending := rfl

theorem of_unicodeEscape (c : Char) : IsBody (unicodeEscape c) := by
  have graphic : ∀ value < 16, 0x20 ≤ (hexDigit value).toNat ∧ (hexDigit value).toNat < 0x80 ∧
      hexDigit value ≠ '"' ∧ hexDigit value ≠ '\\' := by
    decide
  have digits : ∀ d ∈ Json5.escapeDigits c, ∃ value < 16, d = hexDigit value := by
    intro d member
    simp only [Json5.escapeDigits, unicodeEscape, List.drop_succ_cons, List.drop_zero,
      List.mem_cons, List.not_mem_nil, or_false] at member
    rcases member with rfl | rfl | rfl | rfl <;>
      exact ⟨_, Nat.mod_lt _ (by decide), rfl⟩
  have marks : IsBody ['\\', 'u'] := of_escaped (by decide)
  refine marks.append (of_plain ?_ ?_)
  · intro d member
    obtain ⟨value, small, rfl⟩ := digits d member
    obtain ⟨above, below, -⟩ := graphic value small
    have apart (separator : Char) (high : 0x80 ≤ separator.toNat) :
        hexDigit value ≠ separator := by
      rintro rfl
      omega
    exact ⟨above, apart _ (by decide), apart _ (by decide)⟩
  · intro d member
    obtain ⟨value, small, rfl⟩ := digits d member
    exact (graphic value small).2.2

theorem of_escapeChar (c : Char) : IsBody (escapeChar c) := by
  cases form c with
  | byLetter letter isLetter written =>
    rw [written]
    apply of_escaped
    cases isLetter <;> decide
  | byCode _ _ written =>
    rw [written]
    exact of_unicodeEscape c
  | itself letterless noControl noSeparator written =>
    rw [written]
    exact of_plain (List.forall_mem_singleton.mpr ⟨noControl, noSeparator⟩)
      (List.forall_mem_singleton.mpr (plain_of_letterless letterless))

theorem of_literalBody (text : List Char) : IsBody (literalBody text) := by
  induction text with
  | nil => exact nil
  | cons c rest inductionHypothesis => exact (of_escapeChar c).append inductionHypothesis

end IsBody

/-! ### Separators replaced afterwards -/

/-- A character as it stands in a literal of JSON, which lets line separators stand raw. -/
def jsonEscapeChar (c : Char) : List Char :=
  match letterOf? c with
  | some letter => ['\\', letter]
  | none => if c.toNat < 0x20 then unicodeEscape c else [c]

def jsonLiteral (text : List Char) : List Char :=
  '"' :: (text.flatMap jsonEscapeChar ++ ['"'])

def replaceChar (c : Char) (replacement text : List Char) : List Char :=
  text.flatMap fun d => if d = c then replacement else [d]

theorem replaceChar_of_not_mem (absent : c ∉ text) (replacement : List Char) :
    replaceChar c replacement text = text := by
  have unchanged : ∀ d ∈ text, (if d = c then replacement else [d]) = [d] := by
    intro d member
    refine if_neg ?_
    rintro rfl
    exact absent member
  exact (List.flatMap_congr unchanged).trans (List.flatMap_singleton' text)

/-- What JSON writes for other characters holds no separators. -/
theorem replaceChar_jsonEscapeChar (c : Char) :
    replaceChar '\u2029' (unicodeEscape '\u2029')
      (replaceChar '\u2028' (unicodeEscape '\u2028') (jsonEscapeChar c)) = escapeChar c := by
  have raw := (IsBody.of_escapeChar c).raw
  have noSeparators : replaceChar '\u2029' (unicodeEscape '\u2029')
      (replaceChar '\u2028' (unicodeEscape '\u2028') (escapeChar c)) = escapeChar c := by
    rw [replaceChar_of_not_mem fun member => (raw _ member).2.1 rfl,
      replaceChar_of_not_mem fun member => (raw _ member).2.2 rfl]
  unfold jsonEscapeChar
  cases form c with
  | byLetter letter isLetter written =>
    have hasLetter : letterOf? c = some letter := by cases isLetter <;> rfl
    rw [hasLetter]
    rw [written] at noSeparators ⊢
    exact noSeparators
  | byCode letterless cause written =>
    rw [letterless]
    rcases cause with control | rfl | rfl
    · rw [if_pos control, ← written]
      exact noSeparators
    · rfl
    · rfl
  | itself letterless noControl noSeparator written =>
    rw [letterless, if_neg (by omega), ← written]
    exact noSeparators

/-- The literal of a text is its literal in JSON with all line separators replaced, wherever
they stand in it. -/
theorem literal_eq_replaced (text : String) :
    (literal text).toList =
      replaceChar '\u2029' (unicodeEscape '\u2029')
        (replaceChar '\u2028' (unicodeEscape '\u2028') (jsonLiteral text.toList)) := by
  have eachReplaced := List.flatMap_congr (l := text.toList) fun c _ =>
    replaceChar_jsonEscapeChar c
  rw [toList_literal, literalBody, ← eachReplaced]
  simp only [jsonLiteral, replaceChar, List.flatMap_cons, List.flatMap_append, List.flatMap_assoc]
  rfl

/-! ### Main statement -/

/-- The value of a whole JSON5 text, if it has one. -/
def json5Value? (text : String) : Option Json5.Value :=
  (Json5.Term.parse? text.toList).bind fun term => term.value.toOption

theorem json5Value?_literal (text : String) :
    json5Value? (literal text) = some (.scalar (.string text)) := by
  rw [json5Value?, Json5.parse?_of_reads (Json5.reads_literal text), Option.bind_some,
    Json5.Term.value, Json5.stringOf_literalPieces]
  rfl

/-- An object with a single member, the key and the text of which are written. -/
def objectText (name value : String) : String :=
  "\x7b" ++ key name ++ ": " ++ literal value ++ "\x7d"

theorem json5Value?_objectText (name value : String) :
    json5Value? (objectText name value) = some (.object [(name, .scalar (.string value))]) := by
  have reads := Json5.reads_object_open "\x7b" "\x7d" name rfl Json5.readsMembers_nil
    (Json5.reads_literal value) rfl
  have isText : "\x7b" ++ "" ++ ((key name ++ ": ") ++ literal value) ++ "\x7d" =
      objectText name value := by
    simp only [objectText, String.append_empty, String.append_assoc]
  rw [isText] at reads
  rw [json5Value?, Json5.parse?_of_reads reads]
  simp only [Option.bind_some, List.nil_append, Json5.Term.value, Json5.Term.memberValues,
    Json5.stringOf_keyPieces, Json5.stringOf_literalPieces]
  rfl

/-- What is written for a text between two quotes holds no raw control character, no line
separator and no quote that is not escaped. It is read back as the text and nothing is left
of it, as JSON5 and in a script, whatever stands behind it there. What is written for a key
is read back as the key. -/
theorem literal_key_readBack (alphabet : Alphabet) (separatorsAllowed : Bool) (text : String) :
    (∃ body, (literal text).toList = '"' :: (body ++ ['"']) ∧ IsBody body) ∧
      json5Value? (literal text) = some (.scalar (.string text)) ∧
      (∀ rest, read? separatorsAllowed ((literal text).toList ++ rest) =
        some (units text.toList, rest)) ∧
      (∀ value, json5Value? (objectText text value) =
        some (.object [(text, .scalar (.string value))])) ∧
      ∀ rest, propertyName? alphabet separatorsAllowed ((key text).toList ++ ':' :: rest) =
        some (units text.toList, ':' :: rest) :=
  ⟨⟨_, toList_literal text, .of_literalBody _⟩, json5Value?_literal text, read?_literal text,
    json5Value?_objectText text, propertyName?_key alphabet text⟩

end IconForge.Script.StringLiteral
