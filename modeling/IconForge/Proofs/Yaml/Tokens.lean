import IconForge.Proofs.Yaml.Lines

/-!
Contract: the tokens of a line that says something.

Owns:
- a key, with the colon behind it;
- texts in quotes and words behind a colon;
- items of lists of lines.

Main statements: `At.exists_reads_key`, `Inside.exists_reads_quoted`,
`Inside.exists_reads_word`, `At.exists_reads_item`.

Does not own: lists in brackets, nor how lines are put together.
-/

namespace IconForge.Yaml

/-! ### Words -/

/-- A plain word that may be a key. -/
structure Word where
  chars : List Char
  isWord : ∀ c ∈ chars, isWordChar c = true
  notEmpty : chars ≠ []
  short : chars.length ≤ longestKey

def Word.text (word : Word) : String :=
  String.ofList word.chars

/-- A text between double quotes, and what it stands for. -/
structure Quoted where
  body : List Char
  value : List Char
  quotes : Quotes body value

def Quoted.chars (quoted : Quoted) : List Char :=
  '"' :: (quoted.body ++ ['"'])

def Quoted.text (quoted : Quoted) : String :=
  String.ofList quoted.value

section Words

variable {c other : Char} {rest : List Char}

theorem ne_of_isWordChar (isWord : isWordChar c = true) (noWord : isWordChar other = false) :
    c ≠ other := by
  rintro rfl
  rw [isWord] at noWord
  cases noWord

theorem startsToken_of_isWordChar (isWord : isWordChar c = true) : StartsToken c where
  noBreak := (isWordChar_eq_false isWord).2.1
  noBlank := ne_of_isWordChar isWord (by decide)
  noTab := ne_of_isWordChar isWord (by decide)
  noComment := ne_of_isWordChar isWord (by decide)
  noOrderMark := ne_of_isWordChar isWord (by decide)

theorem startsDocumentMark_eq_false (noDash : c ≠ '-') (noDot : c ≠ '.') :
    startsDocumentMark (c :: rest) = false := by
  unfold startsDocumentMark
  split
  · next same => exact absurd (List.cons.inj same).1 noDash
  · next same => exact absurd (List.cons.inj same).1 noDot
  · rfl

end Words

namespace Scan

variable {scan after : Scan} {lines more : List (List Char)} {fillers : List Filler} {c : Char}
  {word : Word} {rest behind text : List Char} {column gap : Nat} {columns outer : List Nat}
  {told opening : List TokenKind} {kind : TokenKind} {brackets : List (Option Candidate)}

theorem Reads.single (reads : scan.next? = some after) (areKinds : after.kinds = told ++ [kind])
    (notEnd : kind ≠ .textEnd) (shorter : after.rest.length < scan.rest.length) :
    Reads scan after := by
  refine .step reads shorter ?_ (.refl after)
  rw [areKinds, List.getLast?_concat]
  exact fun isEnd => notEnd (Option.some.inj isEnd)

theorem startsPlain_of_isWordChar (isWord : isWordChar c = true) (inBrackets : Bool) :
    startsPlain inBrackets (c :: rest) = true := by
  have noMark : (isGap c || isBracketMark c ||
      ['-', '?', ':', '#', '&', '*', '!', '|', '>', '\'', '"', '%', '@', '\x60'].contains c) =
        false := by
    rw [Bool.eq_false_iff]
    intro isMark
    simp only [isGap, isBracketMark, Bool.or_eq_true, beq_iff_eq, List.contains_iff_mem,
      List.mem_cons, List.not_mem_nil, or_false] at isMark
    rcases isMark with ((rfl | rfl) | (((rfl | rfl) | rfl) | rfl) | rfl) | rfl | rfl | rfl | rfl |
      rfl | rfl | rfl | rfl | rfl | rfl | rfl | rfl | rfl | rfl <;> exact absurd isWord (by decide)
  unfold startsPlain
  simp only [noMark, Bool.not_false, Bool.true_or]

/-- A character of a word starts a plain text. -/
theorem readToken?_word (isRest : scan.rest = c :: rest) (isWord : isWordChar c = true) :
    scan.readToken? = scan.readPlainText? := by
  have differs {other : Char} (noWord : isWordChar other = false) : (c == other) = false :=
    beq_eq_false_iff_ne.mpr (ne_of_isWordChar isWord noWord)
  have noMark : startsDocumentMark (c :: rest) = false :=
    startsDocumentMark_eq_false (ne_of_isWordChar isWord (by decide))
      (ne_of_isWordChar isWord (by decide))
  unfold readToken?
  rw [isRest]
  simp only [noMark, differs (show isWordChar '%' = false by decide), Bool.and_false,
    Bool.false_eq_true, if_false]
  split <;> first
    | exact absurd isWord (by decide)
    | simp only [differs (show isWordChar '-' = false by decide),
        differs (show isWordChar '?' = false by decide),
        differs (show isWordChar ':' = false by decide),
        differs (show isWordChar '|' = false by decide),
        differs (show isWordChar '>' = false by decide), Bool.false_and, Bool.false_eq_true,
        if_false, startsPlain_of_isWordChar isWord, if_true]

/-! ### Keys -/

/-- A scan in front of a value: it stands further inside than all that is open, and
nothing may be a key. -/
structure Inside (scan : Scan) (text : List Char) (columns : List Nat) (told : List TokenKind) :
    Prop extends scan.Stands [] text columns told where
  candidate : scan.candidate = none
  deeper : scan.leastColumn ≤ scan.mark.column

/-- What is told in front of a part of a list or a record in a column: its first part
opens it. -/
inductive Opens (kind : TokenKind) (column : Nat) (outer : List Nat) :
    List Nat → List TokenKind → Prop
  | first (inside : ∀ first, outer.head? = some first → first < column) :
      Opens kind column outer outer [kind]
  | later : Opens kind column outer (column :: outer) []

theorem leastColumn_of_cons (isColumns : scan.columns = column :: outer) :
    scan.leastColumn = column + 1 := by
  unfold leastColumn
  rw [isColumns]

theorem leastColumn_le (isColumns : scan.columns = columns)
    (inside : ∀ first, columns.head? = some first → first < column) :
    scan.leastColumn ≤ column := by
  unfold leastColumn
  rw [isColumns]
  cases columns with
  | nil => exact Nat.zero_le column
  | cons first others => exact inside first rfl

theorem unbroken_word (word : Word) : ∀ c ∈ word.chars, isBreak c = false :=
  fun c member => (isWordChar_eq_false (word.isWord c member)).2.1

/-- A scan at the colon of a key. -/
structure AtColon (scan : Scan) (text : List Char) (column : Nat) (columns : List Nat)
    (told : List TokenKind) (word : Word) : Prop where
  rest : scan.rest = ':' :: text
  outside : scan.outer = []
  opened : scan.columns = columns
  told : ∃ front token, scan.tokens = front ++ [token] ∧ front.map Token.kind = told ∧
    token.kind = .text true word.text ∧
    ∃ demanded start, scan.candidate = some ⟨front.length, start, demanded⟩ ∧
      start.column = column ∧ start.line = scan.mark.line ∧
      scan.mark.column = column + word.chars.length ∧
      scan.mark.index = start.index + word.chars.length

/-- Where a key may start, what comes next may be one. -/
theorem markCandidate?_of_isFree (free : scan.IsFree) (allowsKey : scan.allowsKey = true) :
    scan.markCandidate? = some { scan with
      candidate := some ⟨scan.tokens.length, scan.mark,
        !scan.inBrackets && scan.columns.head? == some scan.mark.column⟩ } := by
  rw [markCandidate?, if_pos allowsKey, dropCandidate?_of_isFree free]
  rfl

theorem Starts.readWord (fresh : scan.Starts (word.chars ++ ':' :: rest) column columns told)
    (ends : endsWord rest = true) :
    ∃ after, scan.readToken? = some after ∧ after.AtColon rest column columns told word := by
  obtain ⟨c, others, isChars⟩ := List.exists_cons_of_ne_nil word.notEmpty
  have isWord : isWordChar c = true := word.isWord c (isChars ▸ List.mem_cons_self)
  have isRest : scan.rest = c :: (others ++ ':' :: rest) := by
    rw [fresh.rest, isChars, List.cons_append]
  have marked := markCandidate?_of_isFree (isFree_of_outside fresh.brackets fresh.undemanded)
    fresh.allowsKey
  have isPlain : readPlain? scan.inBrackets scan.leastColumn [] .none scan.mark.column scan.rest =
      some ⟨word.chars, ':' :: rest, false⟩ := by
    rw [inBrackets_eq_false fresh.brackets, fresh.rest]
    exact readPlain?_key word.isWord ends
  rw [readToken?_word isRest isWord, readPlainText?, marked]
  simp only [Option.bind_eq_bind, Option.bind_some, isPlain]
  have isMark : (scan.emit (.text true word.text) (':' :: rest)).mark =
      scan.mark.afterAll word.chars :=
    mark_emit fresh.rest
  refine ⟨_, rfl, rfl, fresh.brackets, fresh.opened, scan.tokens, _, rfl, fresh.told, rfl, _, _,
    rfl, fresh.column, ?_⟩
  refine ⟨(congrArg Mark.line isMark).trans (line_afterAll (unbroken_word word)) |>.symm,
    (congrArg Mark.column isMark).trans ?_,
    (congrArg Mark.index isMark).trans (index_afterAll _ _)⟩
  rw [column_afterAll, columnBehind_of_unbroken (unbroken_word word), fresh.column]

theorem skip_self (isRest : scan.rest = c :: rest) (starts : StartsToken c) :
    scan.skip = scan := by
  have skipped : skipSpace scan.inBrackets scan.allowsKey false scan.rest =
      (scan.allowsKey, scan.rest) := by
    rw [isRest]
    exact skipSpace_token starts _ _
  unfold skip
  rw [skipped]
  simp only [moveTo_self]

section Indent

variable {position : Nat} {start : Mark}

@[simp] theorem rest_indent : (scan.indent kind position start).rest = scan.rest := by
  unfold indent
  split <;> rfl

@[simp] theorem mark_indent : (scan.indent kind position start).mark = scan.mark := by
  unfold indent
  split <;> rfl

@[simp] theorem candidate_indent :
    (scan.indent kind position start).candidate = scan.candidate := by
  unfold indent
  split <;> rfl

@[simp] theorem outer_indent : (scan.indent kind position start).outer = scan.outer := by
  unfold indent
  split <;> rfl

@[simp] theorem allowsKey_indent :
    (scan.indent kind position start).allowsKey = scan.allowsKey := by
  unfold indent
  split <;> rfl

end Indent

/-- Where the first part of a list or a record stands, the token that opens it comes in
front of that part; any other part opens nothing. -/
theorem kinds_indent {front back : List Token} {start : Mark}
    (opens : Opens kind column outer columns opening) (outside : scan.outer = [])
    (isColumns : scan.columns = columns) (isStart : start.column = column)
    (areTokens : scan.tokens = front ++ back) :
    (scan.indent kind front.length start).columns = column :: outer ∧
      (scan.indent kind front.length start).kinds =
        front.map Token.kind ++ opening ++ back.map Token.kind := by
  unfold indent kinds
  rw [inBrackets_eq_false outside, Bool.false_or, isStart]
  cases opens with
  | first inside =>
    have fits : scan.leastColumn ≤ column := leastColumn_le isColumns inside
    rw [if_neg (by simpa using fits)]
    simp [areTokens, isColumns]
  | later =>
    rw [leastColumn_of_cons isColumns, if_pos (by simp)]
    simp [areTokens, isColumns]

/-- At the colon of a key the scan reads a value: nothing is stale, and nothing that is open
ends there. -/
theorem AtColon.next?_eq (here : scan.AtColon text column columns told word)
    (opens : Opens .recordStart column outer columns opening) (ends : endsWord text = true) :
    scan.next? = scan.readValue? text := by
  obtain ⟨front, token, -, -, -, demanded, start, isCandidate, isColumn, isLine, markColumn,
    markIndex⟩ := here.told
  have kept : scan.dropStale? = some scan := by
    have notStale : isStale scan.mark ⟨front.length, start, demanded⟩ = false := by
      have near := word.short
      unfold isStale
      simp only [Bool.or_eq_false_iff, decide_eq_false_iff_not]
      omega
    refine dropStale?_of_outside here.outside ?_
    rw [isCandidate, refresh?]
    simp [notStale]
  have within : columnsWithin (scan.mark.column + 1) scan.columns = scan.columns := by
    rw [here.opened]
    refine columnsWithin_of_fits fun first isFirst => ?_
    cases opens with
    | first inside =>
      have before := inside first isFirst
      omega
    | later =>
      cases isFirst
      omega
  unfold next?
  rw [skip_self here.rest ⟨by decide, by decide, by decide, by decide, by decide⟩, kept]
  simp only [Option.bind_eq_bind, Option.bind_some]
  rw [here.rest, if_neg (by simp), unindent_of_within within, readToken?, here.rest]
  simp [startsDocumentMark, ends]

/-- Behind the colon stands the value of the key, which is put in front of its word. -/
theorem AtColon.readValue (here : scan.AtColon text column columns told word)
    (opens : Opens .recordStart column outer columns opening) :
    ∃ after, scan.readValue? text = some after ∧
      after.Inside text (column :: outer)
        (told ++ opening ++ [.key, .text true word.text] ++ [.value]) ∧
      after.allowsKey = false := by
  obtain ⟨front, token, areTokens, isFront, isToken, demanded, start, isCandidate, isColumn, -,
    markColumn, -⟩ := here.told
  obtain ⟨keyed, isKeyed⟩ : ∃ keyed : Scan, keyed = { scan with
      candidate := none
      allowsKey := false
      tokens := front ++ [(⟨.key, start, start⟩ : Token), token] } := ⟨_, rfl⟩
  have isValue : scan.readValue? text =
      some ((keyed.indent .recordStart front.length start).emit .value text) := by
    rw [readValue?, isCandidate, isKeyed]
    simp [areTokens]
  have isRest : (keyed.indent .recordStart front.length start).rest = [':'] ++ text := by
    rw [rest_indent, isKeyed]
    exact here.rest
  have isBehind : keyed.tokens = front ++ [⟨.key, start, start⟩, token] := by
    rw [isKeyed]
  obtain ⟨isColumns, areKinds⟩ := kinds_indent opens (isKeyed ▸ here.outside)
    (isKeyed ▸ here.opened) isColumn isBehind
  refine ⟨_, isValue, ⟨⟨rfl, ?_, ?_, isColumns, ?_⟩, ?_, ?_⟩, ?_⟩
  · rw [outer_emit, outer_indent, isKeyed]
    exact here.outside
  · rw [candidate_emit, candidate_indent, isKeyed]
    exact undemanded_none
  · rw [kinds_emit, areKinds, isFront, List.map_cons, List.map_singleton, isToken]
  · rw [candidate_emit, candidate_indent, isKeyed]
  · rw [leastColumn_of_cons (columns_emit.trans isColumns), mark_emit isRest, mark_indent, isKeyed,
      column_afterAll]
    show column + 1 ≤ scan.mark.column + 1
    omega
  · rw [allowsKey_emit, allowsKey_indent, isKeyed]

/-- A key is read with the colon behind it. -/
theorem At.exists_reads_key
    (here : scan.At
      (fillerLines fillers ++ (blanks column ++ (word.chars ++ ':' :: behind)) :: more)
      column columns told)
    (opens : Opens .recordStart column outer columns opening)
    (ends : endsWord (behind ++ following more) = true) :
    ∃ reached, Reads scan reached ∧
      reached.Inside (behind ++ following more) (column :: outer)
        (told ++ opening ++ [.key, .text true word.text] ++ [.value]) ∧
      reached.allowsKey = false := by
  obtain ⟨c, others, isChars⟩ := List.exists_cons_of_ne_nil word.notEmpty
  have starts := startsToken_of_isWordChar (word.isWord c (isChars ▸ List.mem_cons_self))
  rw [isChars, List.cons_append] at here
  obtain ⟨fresh, next, isFresh, notLonger⟩ := here.next? starts
  have isText : c :: (others ++ ':' :: behind) ++ following more =
      word.chars ++ ':' :: (behind ++ following more) := by
    rw [isChars]
    simp
  rw [isText] at isFresh notLonger
  obtain ⟨colon, readsWord, atColon⟩ := isFresh.readWord ends
  obtain ⟨front, token, areTokens, areKinds, isToken, -⟩ := atColon.told
  obtain ⟨reached, readsColon, inside, noKey⟩ := atColon.readValue opens
  have first : Reads scan colon := by
    have told : colon.kinds = told ++ [.text true word.text] := by
      rw [kinds, areTokens, List.map_append, areKinds, List.map_singleton, isToken]
    refine .single (next.trans readsWord) told (by simp) ?_
    rw [atColon.rest]
    rw [List.length_append] at notLonger
    have notEmpty := List.length_pos_of_ne_nil word.notEmpty
    omega
  have second : Reads colon reached := by
    refine .single ((atColon.next?_eq opens ends).trans readsColon) inside.told (by simp) ?_
    rw [inside.rest, atColon.rest]
    exact Nat.lt_succ_self _
  exact ⟨reached, first.trans second, inside, noKey⟩

/-! ### Texts -/

theorem columnsWithin_of_leastColumn {limit : Nat} (inside : scan.leastColumn ≤ limit) :
    columnsWithin limit scan.columns = scan.columns := by
  refine columnsWithin_of_fits fun first isFirst => ?_
  obtain ⟨others, isColumns⟩ : ∃ others, scan.columns = first :: others :=
    List.head?_eq_some_iff.mp isFirst
  rw [leastColumn_of_cons isColumns] at inside
  exact inside

theorem skipSpace_blanks (starts : StartsToken c) (allowsKey : Bool) :
    skipSpace false allowsKey false (blanks gap ++ c :: rest) = (allowsKey, c :: rest) := by
  induction gap with
  | zero => exact skipSpace_token starts false allowsKey
  | succ count inductionHypothesis =>
    rw [blanks, List.replicate_succ, List.cons_append, skipSpace]
    exact inductionHypothesis

/-- Blanks in front of a value are skipped. -/
theorem Inside.next? (inside : scan.Inside (blanks gap ++ c :: rest) columns told)
    (starts : StartsToken c) :
    ∃ fresh : Scan, scan.next? = fresh.readToken? ∧ fresh.Inside (c :: rest) columns told ∧
      fresh.allowsKey = scan.allowsKey ∧ (c :: rest).length ≤ scan.rest.length := by
  have skipped : skipSpace false scan.allowsKey false (blanks gap ++ c :: rest) =
      (scan.allowsKey, c :: rest) :=
    skipSpace_blanks starts scan.allowsKey
  rw [← inside.rest] at skipped
  have skips := skip_eq (inBrackets_eq_false inside.brackets) skipped inside.rest
  have isDeeper : scan.skip.leastColumn ≤ scan.skip.mark.column := by
    have deeper := inside.deeper
    have unbroken : ∀ c ∈ blanks gap, isBreak c = false := by
      intro c member
      rw [List.eq_of_mem_replicate member]
      rfl
    rw [skips]
    show scan.leastColumn ≤ (scan.mark.afterAll (blanks gap)).column
    rw [column_afterAll, columnBehind_of_unbroken unbroken]
    omega
  have drops : scan.skip.dropStale? = some scan.skip := by
    refine dropStale?_of_outside inside.brackets ?_
    rw [candidate_skip, inside.candidate]
    rfl
  refine ⟨scan.skip, ?_, ?_, ?_, ?_⟩
  · unfold Scan.next?
    rw [drops]
    simp only [Option.bind_eq_bind, Option.bind_some]
    rw [if_neg (by rw [skips]; exact Bool.false_ne_true), unindent_of_within
      (columnsWithin_of_leastColumn (Nat.le_succ_of_le isDeeper))]
  · refine ⟨⟨?_, inside.brackets, inside.undemanded, inside.opened, inside.told⟩,
      inside.candidate, isDeeper⟩
    rw [skips]
  · rw [skips]
  · rw [inside.rest, List.length_append]
    exact Nat.le_add_left _ _

/-- What has no place where a key has to be may be one or not. -/
theorem exists_markCandidate? (free : scan.IsFree)
    (undemanded : (!scan.inBrackets && scan.columns.head? == some scan.mark.column) = false) :
    ∃ candidate, (∀ present, candidate = some present → present.demanded = false) ∧
      scan.markCandidate? = some { scan with candidate := candidate } := by
  by_cases allowsKey : scan.allowsKey = true
  · refine ⟨_, ?_, markCandidate?_of_isFree free allowsKey⟩
    intro present isPresent
    cases isPresent
    exact undemanded
  · refine ⟨scan.candidate, free.candidate, ?_⟩
    rw [markCandidate?, if_neg allowsKey]

theorem Stands.readQuoted (quoted : Quoted)
    (stands : scan.Stands brackets (quoted.chars ++ rest) columns told)
    (free : ∀ candidate ∈ brackets, candidate = none)
    (undemanded : (!scan.inBrackets && scan.columns.head? == some scan.mark.column) = false) :
    ∃ after, scan.readToken? = some after ∧
      after.Stands brackets rest columns (told ++ [.text false quoted.text]) := by
  have isRest : scan.rest = '"' :: (quoted.body ++ '"' :: rest) := by
    rw [stands.rest, Quoted.chars]
    simp
  obtain ⟨candidate, isUndemanded, marked⟩ := exists_markCandidate?
    ⟨stands.brackets ▸ free, stands.undemanded⟩ undemanded
  have isValue : readDouble? [] .none .outside (quoted.body ++ '"' :: rest) =
      some (quoted.value, rest) :=
    readDouble?_of_quotes quoted.quotes [] rfl rest
  have reads : scan.readToken? =
      scan.readQuoted? (readDouble? [] .none .outside (quoted.body ++ '"' :: rest)) := by
    rw [readToken?, isRest]
    simp [startsDocumentMark]
  rw [reads, readQuoted?, marked, isValue]
  refine ⟨_, rfl, rfl, stands.brackets, isUndemanded, stands.opened, ?_⟩
  rw [kinds_emit]
  exact congrArg (· ++ [TokenKind.text false quoted.text]) stands.told

/-- A text behind a colon, or in an item, is read with the blanks in front of it. -/
theorem Inside.exists_reads_quoted {quoted : Quoted}
    (inside : scan.Inside (blanks gap ++ (quoted.chars ++ rest)) columns told) :
    ∃ reached, Reads scan reached ∧
      reached.Stands [] rest columns (told ++ [.text false quoted.text]) := by
  have starts : StartsToken '"' := ⟨by decide, by decide, by decide, by decide, by decide⟩
  obtain ⟨fresh, next, isFresh, -, notLonger⟩ :=
    (show scan.Inside (blanks gap ++ '"' :: ((quoted.body ++ ['"']) ++ rest)) columns told from
      inside).next? starts
  have undemanded :
      (!fresh.inBrackets && fresh.columns.head? == some fresh.mark.column) = false := by
    rw [Bool.and_eq_false_iff, beq_eq_false_iff_ne]
    refine Or.inr fun isHead => ?_
    obtain ⟨others, isColumns⟩ := List.head?_eq_some_iff.mp isHead
    have deeper := isFresh.deeper
    rw [leastColumn_of_cons isColumns] at deeper
    omega
  obtain ⟨reached, reads, stands⟩ := Stands.readQuoted quoted isFresh.toStands
    (fun _ member => absurd member List.not_mem_nil) undemanded
  refine ⟨reached, .single (next.trans reads) stands.told (by simp) ?_, stands⟩
  rw [stands.rest]
  simp at notLonger
  omega

/-! ### Words behind a colon -/

/-- Lines that stand no further inside than a column, at least where they say something
first. -/
def Recedes (column : Nat) (lines : List (List Char)) : Prop :=
  ∃ fillers rest, lines = fillerLines fillers ++ rest ∧
    ∀ line, rest.head? = some line →
      ∃ count c word, line = blanks count ++ c :: word ∧ count ≤ column ∧ StartsToken c

/-- In front of such lines a word that stands further inside ends. -/
theorem Recedes.exists_margin (recedes : Recedes column lines) :
    following lines = [] ∨ ∃ margin rest, following lines = '\n' :: (margin ++ rest) ∧
      IsMargin margin ∧ EndsPlain (column + 1) (columnBehind 0 margin) rest := by
  obtain ⟨fillers, rest, rfl, atRest⟩ := recedes
  induction fillers with
  | nil =>
    cases rest with
    | nil => exact Or.inl rfl
    | cons line others =>
      obtain ⟨count, c, word, rfl, notDeeper, starts⟩ := atRest line rfl
      refine Or.inr ⟨blanks count, c :: (word ++ following others), by simp [fillerLines],
        isMargin_blanks count, ?_⟩
      intro first behind isRest
      obtain ⟨rfl, -⟩ := List.cons.inj isRest
      have isColumn : columnBehind 0 (blanks count) = count := columnBehind_line 0 count []
      refine ⟨?_, starts.noBreak, Or.inr ?_⟩
      · simp [isGap, starts.noBlank, starts.noTab]
      · rw [isColumn]
        exact Nat.lt_succ_of_le notDeeper
  | cons filler others inductionHypothesis =>
    cases isComment : filler.comment with
    | some text =>
      refine Or.inr ⟨blanks filler.indentation,
        '#' :: (text ++ following (fillerLines others ++ rest)),
        by simp [fillerLines, Filler.line, isComment], isMargin_blanks _, ?_⟩
      intro first behind isRest
      obtain ⟨rfl, -⟩ := List.cons.inj isRest
      exact ⟨by decide, by decide, Or.inl rfl⟩
    | none =>
      have parts : following (fillerLines (filler :: others) ++ rest) =
          '\n' :: (blanks filler.indentation ++ following (fillerLines others ++ rest)) := by
        simp [fillerLines, Filler.line, isComment]
      refine Or.inr ?_
      rcases inductionHypothesis with isEnd | ⟨margin, behind, isFollowing, isMargin, ends⟩
      · refine ⟨blanks filler.indentation, [], ?_, isMargin_blanks _, endsPlain_nil⟩
        rw [parts, isEnd]
      · refine ⟨blanks filler.indentation ++ '\n' :: margin, behind, ?_, ?_, ?_⟩
        · rw [parts, isFollowing]
          simp
        · exact List.forall_mem_append.mpr
            ⟨isMargin_blanks _, List.forall_mem_cons.mpr ⟨Or.inr rfl, isMargin⟩⟩
        · rw [columnBehind_append]
          exact ends

/-- A word in front of such lines is read with the margin behind it. -/
theorem Recedes.exists_readPlain? (recedes : Recedes column more) (word : Word) (start : Nat) :
    ∃ margin rest, following more = margin ++ rest ∧ IsMargin margin ∧
      (margin ≠ [] → ∀ before, columnBehind before margin = columnBehind 0 margin) ∧
      readPlain? false (column + 1) [] .none start (word.chars ++ following more) =
        some ⟨word.chars, rest, !margin.isEmpty⟩ := by
  rcases recedes.exists_margin with isEnd | ⟨margin, rest, isFollowing, isMargin, ends⟩
  · refine ⟨[], [], isEnd, fun _ member => absurd member List.not_mem_nil,
      fun notEmpty => absurd rfl notEmpty, ?_⟩
    rw [isEnd, List.append_nil]
    exact readPlain?_last word.isWord
  · refine ⟨'\n' :: margin, rest, isFollowing, List.forall_mem_cons.mpr ⟨Or.inr rfl, isMargin⟩,
      fun _ _ => rfl, ?_⟩
    rw [isFollowing]
    exact readPlain?_word word.isWord isMargin ends

/-- A word behind a colon is read up to what comes next. -/
theorem Inside.exists_reads_word
    (inside : scan.Inside (blanks gap ++ (word.chars ++ following more)) (column :: outer) told)
    (noKey : scan.allowsKey = false) (recedes : Recedes column more) :
    ∃ reached, Reads scan reached ∧
      reached.At more column (column :: outer) (told ++ [.text true word.text]) := by
  obtain ⟨c, others, isChars⟩ := List.exists_cons_of_ne_nil word.notEmpty
  have isWord : isWordChar c = true := word.isWord c (isChars ▸ List.mem_cons_self)
  rw [isChars, List.cons_append] at inside
  obtain ⟨fresh, next, isFresh, stillNoKey, notLonger⟩ :=
    inside.next? (startsToken_of_isWordChar isWord)
  have marked : fresh.markCandidate? = some fresh := by
    rw [markCandidate?, if_neg (by simp [stillNoKey, noKey])]
  obtain ⟨margin, rest, isFollowing, isMargin, fromStart, isPlain⟩ :=
    recedes.exists_readPlain? word fresh.mark.column
  have isRest : fresh.rest = word.chars ++ following more := by
    rw [isFresh.rest, isChars]
    rfl
  rw [← inBrackets_eq_false isFresh.brackets, ← leastColumn_of_cons isFresh.opened, ← isRest]
    at isPlain
  obtain ⟨reached, isReached⟩ : ∃ reached : Scan, reached =
      { fresh with allowsKey := !margin.isEmpty }.emit (.text true word.text) rest := ⟨_, rfl⟩
  have reads : fresh.readToken? = some reached := by
    rw [readToken?_word isFresh.rest isWord, readPlainText?, marked, isReached]
    simp only [Option.bind_eq_bind, Option.bind_some, isPlain]
    rfl
  have parts : fresh.rest = (word.chars ++ margin) ++ rest := by
    rw [isRest, isFollowing, List.append_assoc]
  have stands : reached.Stands [] rest (column :: outer) (told ++ [.text true word.text]) := by
    rw [isReached]
    refine ⟨rfl, isFresh.brackets, isFresh.undemanded, isFresh.opened, ?_⟩
    rw [kinds_emit]
    exact congrArg (· ++ [TokenKind.text true word.text]) isFresh.told
  have precedes : reached.Precedes more := by
    refine ⟨margin, ?_, isMargin, fun notEmpty => ⟨?_, ?_⟩⟩
    · rw [stands.rest, isFollowing]
    · rw [isReached, allowsKey_emit]
      simpa using notEmpty
    · have isMark : (fresh.emit (.text true word.text) rest).mark =
          fresh.mark.afterAll (word.chars ++ margin) :=
        mark_emit parts
      rw [isReached]
      refine (congrArg Mark.column isMark).trans ?_
      rw [column_afterAll, columnBehind_append, fromStart notEmpty]
  refine ⟨reached, .single (next.trans reads) stands.told (by simp) ?_,
    stands.at_of_precedes precedes fun first isFirst => ?_⟩
  · have isLonger := congrArg List.length parts
    have notEmpty := List.length_pos_of_ne_nil word.notEmpty
    rw [← isFresh.rest, isLonger, List.length_append, List.length_append] at notLonger
    rw [stands.rest]
    omega
  · cases isFirst
    exact Nat.le_refl _

/-! ### Items of lists of lines -/

/-- A part of a list or a record starts where it stands, with the list or the record open. -/
theorem Starts.indent (starts : scan.Starts text column columns told)
    (opens : Opens kind column outer columns opening) :
    (scan.indent kind scan.tokens.length scan.mark).Starts text column (column :: outer)
      (told ++ opening) := by
  obtain ⟨isColumns, areKinds⟩ := kinds_indent opens starts.brackets starts.opened starts.column
    (List.append_nil scan.tokens).symm
  rw [List.map_nil, List.append_nil] at areKinds
  refine ⟨⟨?_, ?_, ?_, isColumns, ?_⟩, ?_, ?_⟩
  · rw [rest_indent, starts.rest]
  · rw [outer_indent, starts.brackets]
  · rw [candidate_indent]
    exact starts.undemanded
  · rw [areKinds, ← starts.told, kinds]
  · rw [mark_indent, starts.column]
  · rw [allowsKey_indent, starts.allowsKey]

/-- The mark of an item leaves the scan in front of what the item is. -/
theorem Starts.readItem (starts : scan.Starts ('-' :: text) column columns told)
    (opens : Opens .listStart column outer columns opening) :
    ∃ item, scan.readItem? text = some item ∧
      item.Inside text (column :: outer) (told ++ opening ++ [.item]) := by
  have indented := starts.indent opens
  have cleared := dropCandidate?_of_isFree
    (isFree_of_outside indented.brackets indented.undemanded)
  have isRest : (scan.indent .listStart scan.tokens.length scan.mark).rest = ['-'] ++ text :=
    indented.rest
  rw [readItem?, if_neg (by simp [starts.allowsKey])]
  simp only [cleared, Option.bind_eq_bind, Option.bind_some]
  refine ⟨_, rfl, ⟨rfl, indented.brackets, undemanded_none, indented.opened, ?_⟩, rfl, ?_⟩
  · rw [kinds_emit]
    exact congrArg (· ++ [TokenKind.item]) indented.told
  · have isMark : ((scan.indent .listStart scan.tokens.length scan.mark).emit .item text).mark =
        (scan.indent .listStart scan.tokens.length scan.mark).mark.afterAll ['-'] :=
      mark_emit isRest
    have isColumn := (congrArg Mark.column isMark).trans (column_afterAll _ _)
    rw [indented.column] at isColumn
    exact Nat.le_trans (Nat.le_of_eq (leastColumn_of_cons indented.opened))
      (Nat.le_of_eq isColumn.symm)

/-- An item of a list is read with its text. -/
theorem At.exists_reads_item {quoted : Quoted}
    (here : scan.At
      (fillerLines fillers ++ (blanks column ++ '-' :: (blanks (gap + 1) ++ quoted.chars)) :: more)
      column columns told)
    (opens : Opens .listStart column outer columns opening) :
    ∃ reached, Reads scan reached ∧
      reached.At more column (column :: outer)
        (told ++ opening ++ [.item] ++ [.text false quoted.text]) := by
  have starts : StartsToken '-' := ⟨by decide, by decide, by decide, by decide, by decide⟩
  obtain ⟨fresh, next, isFresh, notLonger⟩ := here.next? starts
  have isRest : fresh.rest =
      ['-'] ++ (blanks (gap + 1) ++ (quoted.chars ++ following more)) := by
    rw [isFresh.rest]
    simp
  have isItem : fresh.readToken? =
      fresh.readItem? (blanks (gap + 1) ++ (quoted.chars ++ following more)) := by
    have ends : endsWord (blanks (gap + 1) ++ (quoted.chars ++ following more)) = true := rfl
    have noMark : startsDocumentMark
        ('-' :: (blanks (gap + 1) ++ (quoted.chars ++ following more))) = false := rfl
    rw [readToken?, isRest, List.singleton_append]
    simp [noMark, ends]
  have atItem : fresh.Starts ('-' :: (blanks (gap + 1) ++ (quoted.chars ++ following more)))
      column columns told :=
    ⟨⟨isRest, isFresh.brackets, isFresh.undemanded, isFresh.opened, isFresh.told⟩, isFresh.column,
      isFresh.allowsKey⟩
  obtain ⟨item, reads, inside⟩ := atItem.readItem opens
  have first : Reads scan item := by
    refine .single (next.trans (isItem.trans reads)) inside.told (by simp) ?_
    have isLonger := congrArg List.length isRest
    rw [isFresh.rest] at isLonger
    rw [inside.rest]
    simp only [List.singleton_append, List.length_cons] at isLonger notLonger ⊢
    omega
  obtain ⟨reached, second, stands⟩ := inside.exists_reads_quoted
  exact ⟨reached, first.trans second, stands.at fun first isFirst =>
    Nat.le_of_eq (Option.some.inj isFirst).symm⟩

end Scan

end IconForge.Yaml
