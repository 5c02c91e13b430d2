import IconForge.Proofs.Text.Case
import IconForge.Proofs.Yaml.Records

/-!
Contract: texts that hold one record of lines.

Owns:
- pages: the fields of a record, with lines that say nothing between them and around them;
- that a document may hold every character of a page;
- the tokens of a page.

Main statements: `isPrinted_page`, `kinds_tokensOf_page`.

Does not own: what the fields of a record stand for.
-/

namespace IconForge.Yaml

/-- A text of lines that hold the fields of a record, all in one column, and lines that say
nothing. It may hold no field at all. -/
structure Page where
  column : Nat
  entries : List PageEntry
  after : List Filler

namespace Page

def lines (page : Page) : List (List Char) :=
  page.entries.flatMap (PageEntry.lines page.column) ++ fillerLines page.after

def chars (page : Page) : List Char :=
  List.intercalate ['\n'] page.lines

def kinds (page : Page) : List TokenKind :=
  match page.entries with
  | [] => [.textEnd]
  | first :: more =>
    .recordStart :: ((first :: more).flatMap PageEntry.kinds ++ [.linesEnd, .textEnd])

end Page

/-! ### Characters -/

/-- Whether each character of a text stands in a line or ends one. -/
def IsPrinted (text : List Char) : Prop :=
  ∀ c ∈ text, isInLine c = true ∨ c = '\n'

section Printed

variable {text front back digits body value : List Char} {c : Char} {lines : List (List Char)}

theorem isPrinted_append (front back : List Char) :
    IsPrinted (front ++ back) ↔ IsPrinted front ∧ IsPrinted back :=
  List.forall_mem_append

theorem isPrinted_cons (c : Char) (text : List Char) :
    IsPrinted (c :: text) ↔ (isInLine c = true ∨ c = '\n') ∧ IsPrinted text :=
  List.forall_mem_cons

theorem isPrinted_nil : IsPrinted [] :=
  fun _ member => absurd member List.not_mem_nil

theorem isPrinted_of_isInLine (inLine : ∀ c ∈ text, isInLine c = true) : IsPrinted text :=
  fun c member => Or.inl (inLine c member)

theorem isInLine_of_ascii (least : 0x20 ≤ c.toNat) (greatest : c.toNat ≤ 0x7E) :
    isInLine c = true := by
  have differs {other : Char} (outside : other.toNat < 0x20 ∨ 0x7E < other.toNat) : c ≠ other := by
    rintro rfl
    omega
  unfold isInLine isAllowed isBreak
  simp only [Bool.and_eq_true, Bool.or_eq_true, Bool.not_eq_true', Bool.or_eq_false_iff,
    decide_eq_true_eq, beq_eq_false_iff_ne, bne_iff_ne]
  exact ⟨⟨⟨Or.inl (Or.inl (Or.inl (Or.inr ⟨least, greatest⟩))),
    ⟨differs (by decide), differs (by decide)⟩, differs (by decide)⟩, differs (by decide)⟩,
    differs (by decide)⟩

theorem isInLine_of_isWordChar (isWord : isWordChar c = true) : isInLine c = true := by
  unfold isWordChar at isWord
  rw [Bool.or_eq_true, beq_iff_eq] at isWord
  rcases isWord with alpha | rfl
  · have range := Text.Case.toNat_of_isAlpha alpha
    exact isInLine_of_ascii (by omega) (by omega)
  · decide

theorem isInLine_of_hexValue? {digit : Nat} (isDigit : hexValue? c = some digit) :
    isInLine c = true := by
  unfold hexValue? at isDigit
  split at isDigit
  · next decimal =>
    have atLeast := (Char.isDigit_iff_toNat.mp decimal).1
    have atMost : c.toNat ≤ '9'.toNat := (Char.isDigit_iff_toNat.mp decimal).2
    exact isInLine_of_ascii (Nat.le_trans (by decide) atLeast) (Nat.le_trans atMost (by decide))
  · split at isDigit
    · next small =>
      obtain ⟨(atLeast : 'a'.toNat ≤ c.toNat), (atMost : c.toNat ≤ 'f'.toNat)⟩ := small
      exact isInLine_of_ascii (Nat.le_trans (by decide) atLeast) (Nat.le_trans atMost (by decide))
    · split at isDigit
      · next capital =>
        obtain ⟨(atLeast : 'A'.toNat ≤ c.toNat), (atMost : c.toNat ≤ 'F'.toNat)⟩ := capital
        exact isInLine_of_ascii (Nat.le_trans (by decide) atLeast)
          (Nat.le_trans atMost (by decide))
      · cases isDigit

theorem isPrinted_blanks (count : Nat) : IsPrinted (blanks count) := by
  intro c member
  rw [List.eq_of_mem_replicate member]
  exact Or.inl (by decide)

theorem isPrinted_word (word : Word) : IsPrinted word.chars :=
  isPrinted_of_isInLine fun c member => isInLine_of_isWordChar (word.isWord c member)

theorem isPrinted_filler (filler : Filler) : IsPrinted filler.line := by
  rw [Filler.line, isPrinted_append]
  refine ⟨isPrinted_blanks _, ?_⟩
  cases isComment : filler.comment with
  | none => exact isPrinted_nil
  | some text =>
    exact (isPrinted_cons _ _).mpr
      ⟨Or.inl (by decide), isPrinted_of_isInLine (filler.inLine text isComment)⟩

theorem isInLine_of_codeOf? {code : Nat} (isCode : codeOf? digits = some code) :
    ∀ c ∈ digits, isInLine c = true := by
  unfold codeOf? at isCode
  obtain ⟨values, areDigits, -⟩ := Option.map_eq_some_iff.mp isCode
  clear isCode
  induction digits generalizing values with
  | nil => exact fun c member => absurd member List.not_mem_nil
  | cons first others inductionHypothesis =>
    rw [List.mapM_cons] at areDigits
    obtain ⟨digit, isDigit, rest⟩ := Option.bind_eq_some_iff.mp areDigits
    obtain ⟨remaining, areRemaining, -⟩ := Option.bind_eq_some_iff.mp rest
    exact List.forall_mem_cons.mpr
      ⟨isInLine_of_hexValue? isDigit, inductionHypothesis remaining areRemaining⟩

theorem isInLine_of_quotes (quotes : Quotes body value) : ∀ c ∈ body, isInLine c = true := by
  have escape : isInLine '\\' = true := by decide
  induction quotes with
  | nil => exact fun c member => absurd member List.not_mem_nil
  | plain inLine noQuote noEscape more inductionHypothesis =>
    exact List.forall_mem_cons.mpr ⟨inLine, inductionHypothesis⟩
  | @letter letter c body value stands more inductionHypothesis =>
    have isLetter : isInLine letter = true := by
      unfold escaped? at stands
      split at stands <;> first | decide | cases stands
    exact List.forall_mem_cons.mpr
      ⟨escape, List.forall_mem_cons.mpr ⟨isLetter, inductionHypothesis⟩⟩
  | @code letter c digits body value length stands more inductionHypothesis =>
    have isLetter : isInLine letter = true := by
      unfold codeLength? at length
      split at length <;> first | decide | cases length
    exact List.forall_mem_cons.mpr ⟨escape, List.forall_mem_cons.mpr ⟨isLetter,
      List.forall_mem_append.mpr ⟨isInLine_of_codeOf? stands, inductionHypothesis⟩⟩⟩

theorem isPrinted_quoted (quoted : Quoted) : IsPrinted quoted.chars := by
  have quote : isInLine '"' = true := by decide
  refine isPrinted_of_isInLine (List.forall_mem_cons.mpr
    ⟨quote, List.forall_mem_append.mpr ⟨isInLine_of_quotes quoted.quotes, ?_⟩⟩)
  intro c member
  rw [List.mem_singleton.mp member]
  exact quote

theorem isPrinted_space {space : List Char} (isSpace : IsSpace space) : IsPrinted space := by
  intro c member
  rcases isSpace c member with rfl | rfl | rfl
  · exact Or.inl (by decide)
  · exact Or.inl (by decide)
  · exact Or.inr rfl

theorem isPrinted_bracketItem (item : BracketItem) : IsPrinted item.chars := by
  rw [BracketItem.chars, isPrinted_append, isPrinted_append]
  exact ⟨isPrinted_space item.beforeIsSpace, isPrinted_quoted _, isPrinted_space item.afterIsSpace⟩

theorem isPrinted_flatMap {α : Type} {items : List α} {part : α → List Char}
    (each : ∀ item, IsPrinted (part item)) : IsPrinted (items.flatMap part) := by
  intro c member
  obtain ⟨item, -, inPart⟩ := List.mem_flatMap.mp member
  exact each item c inPart

theorem isPrinted_brackets (brackets : Brackets) : IsPrinted brackets.chars := by
  rw [Brackets.chars, isPrinted_cons, isPrinted_append]
  refine ⟨Or.inl (by decide), ?_, (isPrinted_cons _ _).mpr ⟨Or.inl (by decide), isPrinted_nil⟩⟩
  cases brackets with
  | empty space isSpace => exact isPrinted_space isSpace
  | items first more =>
    rw [Brackets.inner, isPrinted_append]
    exact ⟨isPrinted_bracketItem first, isPrinted_flatMap fun item =>
      (isPrinted_cons _ _).mpr ⟨Or.inl (by decide), isPrinted_bracketItem item⟩⟩

theorem isPrinted_blanks_append (count : Nat) (back : List Char) :
    IsPrinted (blanks count ++ back) ↔ IsPrinted back := by
  rw [isPrinted_append]
  exact and_iff_right (isPrinted_blanks count)

theorem isPrinted_fillers (fillers : List Filler) :
    ∀ line ∈ fillerLines fillers, IsPrinted line := by
  intro line member
  obtain ⟨filler, -, rfl⟩ := List.mem_map.mp member
  exact isPrinted_filler filler

theorem isPrinted_item (column : Nat) (item : Item) :
    ∀ line ∈ item.lines column, IsPrinted line := by
  rw [Item.lines, List.forall_mem_append]
  refine ⟨isPrinted_fillers _, fun line member => ?_⟩
  rw [List.mem_singleton.mp member, isPrinted_blanks_append, isPrinted_cons,
    isPrinted_blanks_append]
  exact ⟨Or.inl (by decide), isPrinted_quoted _⟩

theorem isPrinted_parts {α : Type} {parts : List α} {lines : α → List (List Char)}
    (each : ∀ part, ∀ line ∈ lines part, IsPrinted line) :
    ∀ line ∈ parts.flatMap lines, IsPrinted line := by
  intro line member
  obtain ⟨part, -, inPart⟩ := List.mem_flatMap.mp member
  exact each part line inPart

theorem isPrinted_writing (column : Nat) (writing : Writing) :
    IsPrinted writing.head ∧ ∀ line ∈ writing.below column, IsPrinted line := by
  have nothing : ∀ line ∈ ([] : List (List Char)), IsPrinted line :=
    fun line member => absurd member List.not_mem_nil
  cases writing with
  | quoted gap text => exact ⟨(isPrinted_blanks_append _ _).mpr (isPrinted_quoted text), nothing⟩
  | word gap text => exact ⟨(isPrinted_blanks_append _ _).mpr (isPrinted_word text), nothing⟩
  | brackets gap list =>
    exact ⟨(isPrinted_blanks_append _ _).mpr (isPrinted_brackets list), nothing⟩
  | lines further first more => exact ⟨isPrinted_nil, isPrinted_parts (isPrinted_item _)⟩

theorem isPrinted_key (column : Nat) (name : Word) {behind : List Char}
    (isBehind : IsPrinted behind) :
    IsPrinted (blanks column ++ (name.chars ++ ':' :: behind)) := by
  rw [isPrinted_blanks_append, isPrinted_append, isPrinted_cons]
  exact ⟨isPrinted_word name, Or.inl (by decide), isBehind⟩

theorem isPrinted_field (column : Nat) (field : Field) :
    ∀ line ∈ field.lines column, IsPrinted line := by
  obtain ⟨isHead, isBelow⟩ := isPrinted_writing column field.writing
  rw [Field.lines, List.forall_mem_append, List.forall_mem_cons]
  exact ⟨isPrinted_fillers _, isPrinted_key column field.name isHead, isBelow⟩

theorem isPrinted_entry (column : Nat) (entry : PageEntry) :
    ∀ line ∈ entry.lines column, IsPrinted line := by
  cases entry with
  | field simple => exact isPrinted_field column simple
  | record fillers name further first more =>
    rw [PageEntry.lines, List.forall_mem_append, List.forall_mem_cons]
    exact ⟨isPrinted_fillers _, isPrinted_key column name isPrinted_nil,
      isPrinted_parts (isPrinted_field _)⟩

/-- Lines that stand one below another are the first line with the others behind it. -/
theorem intercalate_lines (line : List Char) (more : List (List Char)) :
    List.intercalate ['\n'] (line :: more) = line ++ following more := by
  induction more generalizing line with
  | nil => simp [List.intercalate]
  | cons next others inductionHypothesis =>
    rw [List.intercalate_cons_cons, inductionHypothesis, following_cons]
    simp

theorem isPrinted_page (page : Page) : IsPrinted page.chars := by
  have each : ∀ line ∈ page.lines, IsPrinted line := by
    rw [Page.lines, List.forall_mem_append]
    exact ⟨isPrinted_parts (isPrinted_entry _), isPrinted_fillers _⟩
  rw [Page.chars]
  cases isLines : page.lines with
  | nil => exact isPrinted_nil
  | cons line more =>
    rw [isLines, List.forall_mem_cons] at each
    rw [intercalate_lines, isPrinted_append]
    refine ⟨each.1, fun c member => ?_⟩
    obtain ⟨next, inMore, inLine⟩ := List.mem_flatMap.mp member
    rcases List.mem_cons.mp inLine with rfl | inNext
    · exact Or.inr rfl
    · exact each.2 next inMore c inNext

theorem isAllowed_of_isPrinted (printed : IsPrinted text) : text.all isAllowed = true := by
  rw [List.all_eq_true]
  intro c member
  rcases printed c member with inLine | rfl
  · unfold isInLine at inLine
    simp only [Bool.and_eq_true] at inLine
    exact inLine.1.1.1
  · decide

theorem unifyBreaks_of_isPrinted (printed : IsPrinted text) : unifyBreaks text = text := by
  have kept {c : Char} (isPrinted : isInLine c = true ∨ c = '\n') : c ≠ '\r' ∧ c ≠ '\x85' := by
    constructor <;> rintro rfl <;> revert isPrinted <;> decide
  induction text using unifyBreaks.induct with
  | case1 => rfl
  | case2 rest inductionHypothesis =>
    exact absurd rfl (kept (printed '\r' List.mem_cons_self)).1
  | case3 c rest notPair inductionHypothesis =>
    obtain ⟨here, behind⟩ := (isPrinted_cons c rest).mp printed
    rw [unifyBreaks, inductionHypothesis behind, if_neg]
    · simp [kept here]
    · exact notPair

end Printed

/-! ### Tokens -/

section Tokens

open Scan

variable {lines : List (List Char)} {column : Nat}

/-- A text of such lines does not start with a mark of byte order. -/
theorem head?_intercalate_lines (recedes : Recedes column lines) :
    (List.intercalate ['\n'] lines).head? ≠ some orderMark := by
  have blanksFirst (count : Nat) (back : List Char) (isBack : back.head? ≠ some orderMark) :
      (blanks count ++ back).head? ≠ some orderMark := by
    cases count with
    | zero => exact isBack
    | succ count => exact fun same => absurd (Option.some.inj same) (by decide)
  obtain ⟨fillers, rest, rfl, atRest⟩ := recedes
  cases fillers with
  | nil =>
    cases rest with
    | nil => exact (Option.some_ne_none _).symm
    | cons line more =>
      obtain ⟨count, c, word, rfl, -, starts⟩ := atRest line rfl
      rw [fillerLines, List.map_nil, List.nil_append, intercalate_lines, List.append_assoc]
      exact blanksFirst count _ fun same => starts.noOrderMark (Option.some.inj same)
  | cons filler others =>
    rw [fillerLines, List.map_cons, List.cons_append, intercalate_lines, Filler.line,
      List.append_assoc]
    refine blanksFirst filler.indentation _ ?_
    cases filler.comment with
    | some text => exact fun same => absurd (Option.some.inj same) (by decide)
    | none =>
      rcases following_cases (others.map Filler.line ++ rest) with isEnd | ⟨behind, isBehind⟩
      · rw [isEnd]
        exact (Option.some_ne_none _).symm
      · rw [isBehind]
        exact fun same => absurd (Option.some.inj same) (by decide)

theorem at_start (recedes : Recedes column lines) :
    (start (List.intercalate ['\n'] lines)).At lines column [] [] := by
  have noOrderMark := head?_intercalate_lines recedes
  have isStart : start (List.intercalate ['\n'] lines) =
      ⟨List.intercalate ['\n'] lines, Mark.start, [], [], none, [], true⟩ := by
    unfold start
    simp [beq_eq_false_iff_ne.mpr noOrderMark]
  rw [isStart]
  refine ⟨?_, rfl, undemanded_none, rfl, rfl⟩
  cases lines with
  | nil => exact precedes_of_rest rfl
  | cons line more =>
    refine ⟨['\n'], ?_, ?_, fun _ => ⟨rfl, rfl⟩⟩
    · rw [intercalate_lines]
      rfl
    · exact List.forall_mem_cons.mpr ⟨Or.inr rfl, fun _ member => absurd member List.not_mem_nil⟩

/-- The tokens of a page. -/
theorem kinds_tokensOf_page (page : Page) :
    (tokensOf page.chars).map Token.kind = page.kinds := by
  have recedes : Recedes page.column page.lines := by
    rw [Page.lines]
    cases page.entries with
    | nil => exact recedes_fillers _ _
    | cons first more =>
      rw [List.flatMap_cons, List.append_assoc]
      exact recedes_entry _ first _
  have here := at_start recedes
  rw [← Page.chars] at here
  obtain ⟨behind, finished, reads, ends, isEnd, areKinds⟩ : ∃ behind finished,
      Reads (start page.chars) behind ∧ behind.next? = some finished ∧
        finished.kinds.getLast? = some .textEnd ∧ finished.kinds = page.kinds := by
    rw [Page.lines] at here
    unfold Page.kinds
    cases isEntries : page.entries with
    | nil =>
      rw [isEntries] at here
      obtain ⟨finished, ends, areKinds⟩ := here.next?_end
      exact ⟨_, finished, .refl _, ends, areKinds ▸ List.getLast?_concat, areKinds⟩
    | cons first more =>
      rw [isEntries] at here
      obtain ⟨behind, reads, isBehind⟩ :=
        exists_reads_parts (recedes_entry page.column) At.exists_reads_entry here
          (.first nofun) (recedes_fillers page.column page.after)
      obtain ⟨finished, ends, areKinds⟩ := isBehind.next?_end
      refine ⟨behind, finished, reads, ends, areKinds ▸ List.getLast?_concat, ?_⟩
      simpa using areKinds
  rw [tokensOf_of_reads (by rw [unifyBreaks_of_isPrinted (isPrinted_page page)]; exact reads) ends
    isEnd]
  exact areKinds

end Tokens

end IconForge.Yaml
