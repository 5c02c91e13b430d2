import IconForge.Yaml.Scalar
import IconForge.Proofs.Yaml.Scan
import Mathlib.Algebra.Group.Nat.Defs

/-!
Contract: texts of documents as they are written.

Owns:
- the ways in which a text is written between double quotes on one line;
- plain words, with a colon behind them or with the lines that follow.

Main statements: `readDouble?_of_quotes`, `exists_quotes`, `readPlain?_key`, `readPlain?_word`.

Does not own: what a text stands for.
-/

namespace IconForge.Yaml

/-- Whether a character may stand in a line: a document may hold it, and it ends no line. -/
def isInLine (c : Char) : Bool :=
  isAllowed c && !isBreak c && c != '\r' && c != '\x85'

/-! ### Texts in double quotes -/

/-- The code that hexadecimal digits make up. -/
def codeOf? (digits : List Char) : Option Nat :=
  (digits.mapM hexValue?).map fun values => values.foldl (fun code digit => code * 16 + digit) 0

/-- Whether a line between double quotes stands for a text. Each character is written as
itself, by the letter that stands for it behind a backslash, or by its code. -/
inductive Quotes : List Char → List Char → Prop
  | nil : Quotes [] []
  | plain {c : Char} {body value : List Char} (inLine : isInLine c = true) (noQuote : c ≠ '"')
      (noEscape : c ≠ '\\') (more : Quotes body value) : Quotes (c :: body) (c :: value)
  | letter {letter c : Char} {body value : List Char} (stands : escaped? letter = some c)
      (more : Quotes body value) : Quotes ('\\' :: letter :: body) (c :: value)
  | code {letter c : Char} {digits body value : List Char}
      (length : codeLength? letter = some digits.length)
      (stands : codeOf? digits = some c.toNat)
      (more : Quotes body value) : Quotes ('\\' :: letter :: (digits ++ body)) (c :: value)

section Quoted

variable {body value rest digits : List Char} {values : List Nat} {space : Space} {letter c : Char}

theorem text_addGap (unbroken : space.hasBreak = false) :
    (space.addGap c).text = space.text ++ [c] ∧ (space.addGap c).hasBreak = false := by
  cases space with
  | none => exact ⟨rfl, rfl⟩
  | gaps chars => exact ⟨rfl, rfl⟩
  | breaks first more => cases unbroken

theorem letter_of_escaped? (stands : escaped? letter = some c) :
    isBreak letter = false ∧ codeLength? letter = none := by
  unfold escaped? at stands
  split at stands <;> first | exact ⟨by decide, rfl⟩ | cases stands

theorem letter_of_codeLength? {length : Nat} (isCode : codeLength? letter = some length) :
    isBreak letter = false ∧ length ≠ 0 := by
  unfold codeLength? at isCode
  split at isCode <;> first | (cases isCode; exact ⟨by decide, by decide⟩) | cases isCode

/-- A code is read digit by digit. -/
theorem readDouble?_code (read : List Char) (reached : Nat) (notEmpty : digits ≠ [])
    (areDigits : digits.mapM hexValue? = some values) :
    readDouble? read .none (.code digits.length reached) (digits ++ rest) =
      (ofCode? (values.foldl (fun code digit => code * 16 + digit) reached)).bind fun char =>
        readDouble? (read ++ [char]) .none .outside rest := by
  induction digits generalizing reached values with
  | nil => exact absurd rfl notEmpty
  | cons digit others inductionHypothesis =>
    obtain ⟨first, isFirst, remaining, areRemaining, rfl⟩ :
        ∃ first, hexValue? digit = some first ∧
          ∃ remaining, others.mapM hexValue? = some remaining ∧ values = first :: remaining := by
      rw [List.mapM_cons] at areDigits
      cases isFirst : hexValue? digit with
      | none =>
        rw [isFirst] at areDigits
        cases areDigits
      | some first =>
        cases areRemaining : others.mapM hexValue? with
        | none =>
          rw [isFirst, areRemaining] at areDigits
          cases areDigits
        | some remaining =>
          rw [isFirst, areRemaining] at areDigits
          cases areDigits
          exact ⟨first, rfl, remaining, rfl, rfl⟩
    rw [List.cons_append, readDouble?]
    simp only [isFirst, Option.bind_some, List.length_cons]
    cases others with
    | nil =>
      cases areRemaining
      rfl
    | cons next behind =>
      rw [if_neg (by simp), Nat.add_sub_cancel,
        inductionHypothesis _ (List.cons_ne_nil _ _) areRemaining]
      rfl

theorem ofCode?_toNat (c : Char) : ofCode? c.toNat = some c := by
  unfold ofCode?
  rw [if_pos (show c.toNat.isValidChar from c.valid), Char.ofNat_toNat]

/-- A text in double quotes is read up to the closing one as what its line stands for. -/
theorem readDouble?_of_quotes (quotes : Quotes body value) (read : List Char)
    (unbroken : space.hasBreak = false) (rest : List Char) :
    readDouble? read space .outside (body ++ '"' :: rest) =
      some (read ++ space.text ++ value, rest) := by
  induction quotes generalizing read space with
  | nil =>
    rw [List.nil_append, readDouble?, List.append_nil]
    rfl
  | @plain c body value inLine noQuote noEscape more inductionHypothesis =>
    rw [List.cons_append, readDouble?]
    simp only [beq_eq_false_iff_ne.mpr noQuote, beq_eq_false_iff_ne.mpr noEscape,
      Bool.false_eq_true, if_false]
    split
    · obtain ⟨isText, stillUnbroken⟩ := text_addGap (c := c) unbroken
      rw [inductionHypothesis read stillUnbroken, isText]
      simp
    · have noBreak : isBreak c = false := by
        unfold isInLine at inLine
        simp only [Bool.and_eq_true, Bool.not_eq_true'] at inLine
        exact inLine.1.1.2
      rw [noBreak, if_neg Bool.false_ne_true, inductionHypothesis _ rfl]
      simp [Space.text]
  | @letter letter c body value stands more inductionHypothesis =>
    obtain ⟨noBreak, noCode⟩ := letter_of_escaped? stands
    rw [List.cons_append, List.cons_append, readDouble?]
    simp only [beq_self_eq_true, if_true]
    rw [if_neg (by decide), readDouble?]
    simp only [noBreak, noCode, stands, Bool.false_eq_true, if_false, Option.bind_some]
    rw [inductionHypothesis _ rfl]
    simp [Space.text]
  | @code letter c digits body value length stands more inductionHypothesis =>
    obtain ⟨noBreak, notEmpty⟩ := letter_of_codeLength? length
    unfold codeOf? at stands
    obtain ⟨values, areDigits, isCode⟩ := Option.map_eq_some_iff.mp stands
    rw [List.cons_append, List.cons_append, List.append_assoc, readDouble?]
    simp only [beq_self_eq_true, if_true]
    rw [if_neg (by decide), readDouble?]
    simp only [noBreak, length, Bool.false_eq_true, if_false]
    rw [readDouble?_code _ 0 (List.ne_nil_of_length_pos (Nat.pos_of_ne_zero notEmpty)) areDigits,
      isCode, ofCode?_toNat, Option.bind_some, inductionHypothesis _ rfl]
    simp [Space.text]

/-! ### Writing any text -/

def hexDigit (digit : Nat) : Char :=
  Char.ofNat (if digit < 10 then 0x30 + digit else 0x57 + digit)

/-- The last hexadecimal digits of a code. -/
def hexDigits : Nat → Nat → List Char
  | 0, _ => []
  | count + 1, code => hexDigits count (code / 16) ++ [hexDigit (code % 16)]

theorem hexValue?_hexDigit : ∀ digit < 16, hexValue? (hexDigit digit) = some digit := by
  decide

theorem length_hexDigits (count code : Nat) : (hexDigits count code).length = count := by
  induction count generalizing code with
  | zero => rfl
  | succ count inductionHypothesis =>
    rw [hexDigits, List.length_append, inductionHypothesis, List.length_singleton]

/-- As many digits as a code has make it up. -/
theorem codeOf?_hexDigits {count code : Nat} (enough : code < 16 ^ count) :
    codeOf? (hexDigits count code) = some code := by
  induction count generalizing code with
  | zero =>
    rw [Nat.pow_zero, Nat.lt_one_iff] at enough
    rw [enough]
    rfl
  | succ count inductionHypothesis =>
    have front := inductionHypothesis (Nat.div_lt_of_lt_mul (Nat.pow_succ' ▸ enough))
    obtain ⟨values, areDigits, isCode⟩ := Option.map_eq_some_iff.mp front
    have last := hexValue?_hexDigit (code % 16) (Nat.mod_lt _ (by decide))
    unfold codeOf?
    rw [hexDigits, List.mapM_append, areDigits, List.mapM_cons, last]
    simp only [Option.bind_eq_bind, Option.bind_some, List.mapM_nil, Option.pure_def,
      Option.map_some, List.foldl_append, List.foldl_cons, List.foldl_nil]
    rw [isCode, Nat.div_add_mod']

/-- Every text can be written between double quotes. -/
theorem exists_quotes (value : List Char) : ∃ body, Quotes body value := by
  induction value with
  | nil => exact ⟨[], .nil⟩
  | cons c rest inductionHypothesis =>
    obtain ⟨body, more⟩ := inductionHypothesis
    by_cases isPlain : isInLine c = true ∧ c ≠ '"' ∧ c ≠ '\\'
    · exact ⟨c :: body, .plain isPlain.1 isPlain.2.1 isPlain.2.2 more⟩
    · have isShort : c.toNat < 16 ^ 8 := c.val.toNat_lt
      have length : codeLength? 'U' = some (hexDigits 8 c.toNat).length := by
        rw [length_hexDigits]
        rfl
      exact ⟨_, .code length (codeOf?_hexDigits isShort) more⟩

end Quoted

/-! ### Plain words -/

/-- Whether a character belongs to plain words like the names of keys. -/
def isWordChar (c : Char) : Bool :=
  c.isAlpha || c == '_'

section Words

variable {word behind margin rest : List Char} {indent column : Nat} {read : List Char}

theorem isWordChar_eq_false {c : Char} (isWord : isWordChar c = true) :
    isGap c = false ∧ isBreak c = false ∧ c ≠ '#' ∧ c ≠ ':' := by
  have differs {other : Char} (noWord : isWordChar other = false) : c ≠ other := by
    rintro rfl
    rw [isWord] at noWord
    cases noWord
  unfold isGap isBreak
  simp only [Bool.or_eq_false_iff, beq_eq_false_iff_ne]
  exact ⟨⟨differs (by decide), differs (by decide)⟩,
    ⟨⟨differs (by decide), differs (by decide)⟩, differs (by decide)⟩,
    differs (by decide), differs (by decide)⟩

theorem readPlain?_wordChar {c : Char} (isWord : isWordChar c = true) :
    readPlain? false indent read .none column (c :: rest) =
      readPlain? false indent (read ++ [c]) .none (column + 1) rest := by
  obtain ⟨noGap, noBreak, noComment, noColon⟩ := isWordChar_eq_false isWord
  rw [readPlain?]
  simp [noGap, noBreak, noColon, Space.hasBreak, Space.text]

theorem readPlain?_wordChars (isWord : ∀ c ∈ word, isWordChar c = true) :
    readPlain? false indent read .none column (word ++ rest) =
      readPlain? false indent (read ++ word) .none (column + word.length) rest := by
  induction word generalizing read column with
  | nil => simp
  | cons c others inductionHypothesis =>
    rw [List.forall_mem_cons] at isWord
    rw [List.cons_append, readPlain?_wordChar isWord.1, inductionHypothesis isWord.2,
      List.append_assoc, List.singleton_append, List.length_cons, Nat.add_right_comm,
      Nat.add_assoc]

/-- A word ends in front of a colon behind which there is a gap or a break. -/
theorem readPlain?_key (isWord : ∀ c ∈ word, isWordChar c = true)
    (ends : endsWord behind = true) :
    readPlain? false indent [] .none column (word ++ ':' :: behind) =
      some ⟨word, ':' :: behind, false⟩ := by
  rw [readPlain?_wordChars isWord, List.nil_append, readPlain?]
  simp [ends, isGap, isBreak, Space.hasBreak]

/-- Whether a character stands between lines: it is a blank or ends a line. -/
def IsMargin (margin : List Char) : Prop :=
  ∀ c ∈ margin, c = ' ' ∨ c = '\n'

/-- Whether a plain word ends in front of a text that starts in a column: the text starts
with a comment, or in front of the word's lines, or it is empty. -/
def EndsPlain (indent column : Nat) (rest : List Char) : Prop :=
  ∀ c more, rest = c :: more →
    isGap c = false ∧ isBreak c = false ∧ (c = '#' ∨ column < indent)

theorem endsPlain_nil : EndsPlain indent column [] := by
  intro c more isCons
  cases isCons

theorem readPlain?_margin (first : Option Char) (more : List Char) (isMargin : IsMargin margin)
    (ends : EndsPlain indent (columnBehind column margin) rest) :
    readPlain? false indent read (.breaks first more) column (margin ++ rest) =
      some ⟨read, rest, true⟩ := by
  induction margin generalizing column more with
  | nil =>
    cases rest with
    | nil => rfl
    | cons c behind =>
      obtain ⟨noGap, noBreak, rfl | isOutside⟩ := ends c behind rfl
      · rw [List.nil_append, readPlain?]
        simp [isGap, isBreak, Space.hasBreak]
      · have leaves : column < indent := isOutside
        rw [List.nil_append, readPlain?]
        simp [noGap, noBreak, leaves, Space.hasBreak]
  | cons c others inductionHypothesis =>
    rw [IsMargin, List.forall_mem_cons] at isMargin
    rcases isMargin with ⟨rfl | rfl, isMargin⟩
    · rw [List.cons_append, readPlain?]
      exact inductionHypothesis more isMargin ends
    · rw [List.cons_append, readPlain?]
      exact inductionHypothesis (more ++ ['\n']) isMargin ends

/-- A word on the last line ends with the text. -/
theorem readPlain?_last (isWord : ∀ c ∈ word, isWordChar c = true) :
    readPlain? false indent [] .none column word = some ⟨word, [], false⟩ := by
  have reads : readPlain? false indent [] .none column (word ++ []) =
      readPlain? false indent ([] ++ word) .none (column + word.length) [] :=
    readPlain?_wordChars isWord
  rw [List.append_nil] at reads
  rw [reads]
  rfl

/-- A word on any other line ends in front of what comes next. -/
theorem readPlain?_word (isWord : ∀ c ∈ word, isWordChar c = true) (isMargin : IsMargin margin)
    (ends : EndsPlain indent (columnBehind 0 margin) rest) :
    readPlain? false indent [] .none column (word ++ '\n' :: (margin ++ rest)) =
      some ⟨word, rest, true⟩ := by
  rw [readPlain?_wordChars isWord, List.nil_append, readPlain?]
  exact readPlain?_margin (some '\n') [] isMargin ends

end Words

end IconForge.Yaml
