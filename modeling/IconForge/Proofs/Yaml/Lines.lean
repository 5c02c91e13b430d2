import IconForge.Proofs.Yaml.Scalar

/-!
Contract: the lines of a document between which nothing is said, and what comes behind
them.

Owns:
- lines that say nothing: blank ones and comments;
- scans in front of lines, at the end of the line before or in the margin;
- what is open in front of the next line, and what its indentation closes;
- the end of a text.

Main statements: `Precedes.leadsTo`, `At.next?`, `At.outward`, `At.next?_end`.

Does not own: the tokens of lines that say something.
-/

namespace IconForge.Yaml

/-! ### Lines -/

def blanks (count : Nat) : List Char :=
  List.replicate count ' '

/-- A line that says nothing: a blank one, or a comment behind blanks. A tab is no indentation,
and may not stand there. -/
structure Filler where
  indentation : Nat
  comment : Option (List Char)
  inLine : ∀ text, comment = some text → ∀ c ∈ text, isInLine c = true

def Filler.line (filler : Filler) : List Char :=
  blanks filler.indentation ++ (filler.comment.map fun text => '#' :: text).getD []

def fillerLines (fillers : List Filler) : List (List Char) :=
  fillers.map Filler.line

/-- Lines as they follow another one: each of them stands behind a line end. -/
def following (lines : List (List Char)) : List Char :=
  lines.flatMap fun line => '\n' :: line

/-- Whether a character starts a token, so that it is not skipped. -/
structure StartsToken (c : Char) : Prop where
  noBreak : isBreak c = false
  noBlank : c ≠ ' '
  noTab : c ≠ '\t'
  noComment : c ≠ '#'
  noOrderMark : c ≠ Scan.orderMark

section Lines

variable {lines more : List (List Char)} {line margin rest text : List Char} {c : Char}
  {column indentation : Nat}

@[simp] theorem following_nil : following [] = [] := rfl

@[simp] theorem following_cons (line : List Char) (more : List (List Char)) :
    following (line :: more) = '\n' :: (line ++ following more) := rfl

@[simp] theorem following_append (lines more : List (List Char)) :
    following (lines ++ more) = following lines ++ following more :=
  List.flatMap_append

theorem following_cases (lines : List (List Char)) :
    following lines = [] ∨ ∃ rest, following lines = '\n' :: rest := by
  cases lines with
  | nil => exact Or.inl rfl
  | cons line more => exact Or.inr ⟨_, rfl⟩

theorem isMargin_blanks (count : Nat) : IsMargin (blanks count) :=
  fun _ member => Or.inl (List.eq_of_mem_replicate member)

theorem columnBehind_line (column count : Nat) (front : List Char) :
    columnBehind column (front ++ '\n' :: blanks count) = count := by
  have unbroken : ∀ c ∈ blanks count, isBreak c = false := by
    intro c member
    rw [List.eq_of_mem_replicate member]
    rfl
  have step : columnBehind (columnBehind column front) ('\n' :: blanks count) =
      columnBehind 0 (blanks count) := rfl
  rw [columnBehind_append, step, columnBehind_of_unbroken unbroken, blanks, List.length_replicate]
  omega

/-! ### What is skipped -/

theorem skipSpace_margin (isMargin : IsMargin margin) :
    Scan.skipSpace false true false (margin ++ rest) = Scan.skipSpace false true false rest := by
  induction margin with
  | nil => rfl
  | cons c others inductionHypothesis =>
    rw [IsMargin, List.forall_mem_cons] at isMargin
    rcases isMargin with ⟨rfl | rfl, isMargin⟩
    · exact inductionHypothesis isMargin
    · exact inductionHypothesis isMargin

theorem skipSpace_comment (inLine : ∀ c ∈ text, isInLine c = true) (lines : List (List Char)) :
    Scan.skipSpace false true true (text ++ following lines) =
      Scan.skipSpace false true false (following lines) := by
  induction text with
  | nil =>
    cases lines with
    | nil => rfl
    | cons line more => rfl
  | cons c others inductionHypothesis =>
    rw [List.forall_mem_cons] at inLine
    have noBreak : isBreak c = false := by
      have isInside := inLine.1
      unfold isInLine at isInside
      simp only [Bool.and_eq_true, Bool.not_eq_true'] at isInside
      exact isInside.1.1.2
    rw [List.cons_append, Scan.skipSpace, noBreak, if_neg Bool.false_ne_true, if_pos rfl]
    exact inductionHypothesis inLine.2

/-- Lines that say nothing are skipped. -/
theorem skipSpace_fillers (fillers : List Filler) (lines : List (List Char)) :
    Scan.skipSpace false true false (following (fillerLines fillers ++ lines)) =
      Scan.skipSpace false true false (following lines) := by
  induction fillers with
  | nil => rfl
  | cons filler others inductionHypothesis =>
    have lineEnd : IsMargin ('\n' :: blanks filler.indentation) :=
      List.forall_mem_cons.mpr ⟨Or.inr rfl, isMargin_blanks _⟩
    have parts : following (fillerLines (filler :: others) ++ lines) =
        ('\n' :: blanks filler.indentation) ++
          ((filler.comment.map fun text => '#' :: text).getD [] ++
            following (fillerLines others ++ lines)) := by
      simp [fillerLines, Filler.line]
    rw [parts, skipSpace_margin lineEnd]
    cases isComment : filler.comment with
    | none => exact inductionHypothesis
    | some text =>
      exact (skipSpace_comment (filler.inLine text isComment) _).trans inductionHypothesis

theorem skipSpace_token (starts : StartsToken c) (inBrackets allowsKey : Bool) :
    Scan.skipSpace inBrackets allowsKey false (c :: rest) = (allowsKey, c :: rest) := by
  rw [Scan.skipSpace]
  simp [starts.noBreak, starts.noBlank, starts.noTab, starts.noComment]

end Lines

namespace Scan

/-! ### In front of lines -/

/-- A scan in front of lines. It stands at the end of the line before, or has come into
the margin, and then a key may start. -/
def Precedes (scan : Scan) (lines : List (List Char)) : Prop :=
  ∃ margin, following lines = margin ++ scan.rest ∧ IsMargin margin ∧
    (margin ≠ [] → scan.allowsKey = true ∧ scan.mark.column = columnBehind 0 margin)

/-- A scan that comes to a text in a column, where a key may start, when it skips what
says nothing. -/
structure LeadsTo (scan : Scan) (column : Nat) (text : List Char) : Prop where
  rest : scan.skip.rest = text
  column : scan.skip.mark.column = column
  allowsKey : scan.skip.allowsKey = true
  shorter : text.length ≤ scan.rest.length

variable {scan : Scan} {lines more : List (List Char)} {fillers : List Filler} {c : Char}
  {word passed text margin : List Char} {column limit : Nat} {columns outer : List Nat}
  {told : List TokenKind}

theorem skip_eq {inBrackets allowsKey : Bool} (brackets : scan.inBrackets = inBrackets)
    (skipped : skipSpace inBrackets scan.allowsKey false scan.rest = (allowsKey, text))
    (parts : scan.rest = passed ++ text) :
    scan.skip =
      { scan with rest := text, mark := scan.mark.afterAll passed, allowsKey := allowsKey } := by
  unfold skip
  rw [brackets, skipped]
  simp only
  rw [moveTo_eq parts]

theorem inBrackets_eq_false (outside : scan.outer = []) : scan.inBrackets = false := by
  rw [inBrackets, outside]
  rfl

theorem precedes_of_rest (atEnd : scan.rest = following lines) : scan.Precedes lines :=
  ⟨[], atEnd.symm, fun _ member => absurd member List.not_mem_nil, fun notEmpty =>
    absurd rfl notEmpty⟩

/-- In front of lines, the same is skipped wherever in the margin a scan stands. -/
theorem Precedes.skipSpace_eq (precedes : scan.Precedes lines) (notEmpty : lines ≠ []) :
    skipSpace false scan.allowsKey false scan.rest =
      skipSpace false true false (following lines) := by
  obtain ⟨margin, parts, isMargin, inMargin⟩ := precedes
  cases margin with
  | nil =>
    obtain ⟨line, others, rfl⟩ := List.exists_cons_of_ne_nil notEmpty
    rw [List.nil_append] at parts
    rw [← parts, following_cons, skipSpace, skipSpace]
    simp [isBreak]
  | cons c behind =>
    rw [parts, skipSpace_margin isMargin, (inMargin (List.cons_ne_nil _ _)).1]

/-- A scan in front of a line stands before the line's first character: a margin that
reached further would hold that character. -/
theorem exists_passed {front : List Char} (isMargin : IsMargin margin) (starts : StartsToken c)
    (parts : front ++ c :: text = margin ++ scan.rest) :
    ∃ passed, front = margin ++ passed ∧ scan.rest = passed ++ c :: text := by
  rcases List.append_eq_append_iff.mp parts with
    ⟨back, isMarginBack, isTarget⟩ | ⟨passed, isFront, isRest⟩
  · cases back with
    | nil => exact ⟨[], by simpa using isMarginBack.symm, by simpa using isTarget.symm⟩
    | cons first others =>
      obtain ⟨rfl, -⟩ := List.cons_eq_cons.mp isTarget
      have inside : c ∈ margin := by
        rw [isMarginBack]
        exact List.mem_append_right _ List.mem_cons_self
      rcases isMargin c inside with rfl | rfl
      · exact absurd rfl starts.noBlank
      · exact absurd starts.noBreak (by decide)
  · exact ⟨passed, isFront, isRest⟩

/-- Fillers in front of a line are skipped, and so is the line's indentation. -/
theorem Precedes.leadsTo (precedes : scan.Precedes
      (fillerLines fillers ++ (blanks column ++ c :: word) :: more))
    (outside : scan.outer = []) (starts : StartsToken c) :
    scan.LeadsTo column (c :: word ++ following more) := by
  have skipped : skipSpace false scan.allowsKey false scan.rest =
      (true, c :: (word ++ following more)) := by
    have lineStart : IsMargin ('\n' :: blanks column) :=
      List.forall_mem_cons.mpr ⟨Or.inr rfl, isMargin_blanks column⟩
    have line : following ((blanks column ++ c :: word) :: more) =
        ('\n' :: blanks column) ++ c :: (word ++ following more) := by
      simp
    rw [precedes.skipSpace_eq (List.append_ne_nil_of_right_ne_nil _ (List.cons_ne_nil _ _)),
      skipSpace_fillers, line, skipSpace_margin lineStart, skipSpace_token starts]
  have target : following (fillerLines fillers ++ (blanks column ++ c :: word) :: more) =
      (following (fillerLines fillers) ++ '\n' :: blanks column) ++
        c :: (word ++ following more) := by
    simp
  obtain ⟨margin, parts, isMargin, inMargin⟩ := precedes
  obtain ⟨passed, isFront, isRest⟩ := exists_passed isMargin starts (target ▸ parts)
  have skips := skip_eq (inBrackets_eq_false outside) skipped isRest
  have isColumn : (scan.mark.afterAll passed).column = column := by
    have whole := columnBehind_line 0 column (following (fillerLines fillers))
    rw [isFront] at whole
    rw [column_afterAll]
    by_cases isEmpty : margin = []
    · rw [isEmpty, List.nil_append] at isFront
      rw [← isFront]
      exact columnBehind_line _ _ _
    · rw [(inMargin isEmpty).2, ← columnBehind_append]
      exact whole
  constructor
  · rw [skips]
    rfl
  · rw [skips]
    exact isColumn
  · rw [skips]
  · rw [isRest, List.cons_append, List.length_append]
    exact Nat.le_add_left _ _

/-- Where nothing is said any more, everything is skipped. -/
theorem Precedes.skipSpace_end (precedes : scan.Precedes (fillerLines fillers)) :
    ∃ allowsKey, skipSpace false scan.allowsKey false scan.rest = (allowsKey, []) := by
  cases fillers with
  | nil =>
    obtain ⟨margin, parts, -, -⟩ := precedes
    have nothing : scan.rest = [] := (List.append_eq_nil_iff.mp parts.symm).2
    rw [nothing]
    exact ⟨scan.allowsKey, rfl⟩
  | cons filler others =>
    have skipped := skipSpace_fillers (filler :: others) []
    rw [List.append_nil] at skipped
    rw [precedes.skipSpace_eq (List.cons_ne_nil _ _), skipped]
    exact ⟨true, rfl⟩

/-! ### What is open -/

theorem length_columnsWithin_le (limit : Nat) (columns : List Nat) :
    (columnsWithin limit columns).length ≤ columns.length :=
  (List.dropWhile_sublist _).length_le

theorem columnsWithin_of_lt {first : Nat} (inside : first < limit) (columns : List Nat) :
    columnsWithin limit (first :: columns) = first :: columns :=
  List.dropWhile_cons_of_neg (by simpa using inside)

theorem columnsWithin_of_fits (fits : ∀ first, columns.head? = some first → first < limit) :
    columnsWithin limit columns = columns := by
  cases columns with
  | nil => rfl
  | cons first outer => exact columnsWithin_of_lt (fits first rfl) outer

theorem columnsWithin_cons_of_le {first : Nat} (further : limit ≤ first) (columns : List Nat) :
    columnsWithin limit (first :: columns) = columnsWithin limit columns :=
  List.dropWhile_cons_of_pos (by simpa using further)

theorem columnsWithin_of_le {inner : Nat} (notDeeper : limit ≤ inner) (columns : List Nat) :
    columnsWithin limit (columnsWithin inner columns) = columnsWithin limit columns := by
  induction columns with
  | nil => rfl
  | cons first others inductionHypothesis =>
    by_cases isInside : inner ≤ first
    · rw [columnsWithin_cons_of_le isInside,
        columnsWithin_cons_of_le (Nat.le_trans notDeeper isInside)]
      exact inductionHypothesis
    · rw [columnsWithin_of_lt (Nat.lt_of_not_le isInside)]

theorem columnsWithin_zero (columns : List Nat) : columnsWithin 0 columns = [] := by
  induction columns with
  | nil => rfl
  | cons first others inductionHypothesis =>
    rw [columnsWithin_cons_of_le (Nat.zero_le first), inductionHypothesis]

/-- Closing further closes what is left open. -/
theorem closedKinds_of_le {inner : Nat} (notDeeper : limit ≤ inner) (scan : Scan) :
    scan.closedKinds limit = scan.closedKinds inner ++ List.replicate
      ((columnsWithin inner scan.columns).length -
        (columnsWithin limit (columnsWithin inner scan.columns)).length) .linesEnd := by
  have first := length_columnsWithin_le inner scan.columns
  have second := length_columnsWithin_le limit (columnsWithin inner scan.columns)
  unfold closedKinds
  rw [List.append_assoc, List.replicate_append_replicate,
    ← columnsWithin_of_le notDeeper scan.columns]
  congr 2
  omega

/-- A scan in front of a text, with the brackets around it, the columns that are open and
the tokens that have been told. What has been read need not be a key. -/
structure Stands (scan : Scan) (brackets : List (Option Candidate)) (text : List Char)
    (columns : List Nat) (told : List TokenKind) : Prop where
  rest : scan.rest = text
  brackets : scan.outer = brackets
  undemanded : ∀ candidate, scan.candidate = some candidate → candidate.demanded = false
  opened : scan.columns = columns
  told : scan.kinds = told

/-- A scan at a token that starts in a column, where a key may start. -/
structure Starts (scan : Scan) (text : List Char) (column : Nat) (columns : List Nat)
    (told : List TokenKind) : Prop extends scan.Stands [] text columns told where
  column : scan.mark.column = column
  allowsKey : scan.allowsKey = true

/-- A scan in front of lines, with the columns that are open and the tokens that are told
once everything is closed that is indented further than a column. -/
structure At (scan : Scan) (lines : List (List Char)) (column : Nat) (columns : List Nat)
    (told : List TokenKind) : Prop where
  precedes : scan.Precedes lines
  outside : scan.outer = []
  undemanded : ∀ candidate, scan.candidate = some candidate → candidate.demanded = false
  opened : columnsWithin (column + 1) scan.columns = columns
  told : scan.closedKinds (column + 1) = told

theorem isFree_of_outside (outside : scan.outer = [])
    (undemanded : ∀ candidate, scan.candidate = some candidate → candidate.demanded = false) :
    scan.IsFree :=
  ⟨eq_none_of_outside outside, undemanded⟩

theorem At.isFree (here : scan.At lines column columns told) : scan.IsFree :=
  isFree_of_outside here.outside here.undemanded

/-- At the end of a line nothing has been closed yet. -/
theorem Stands.at_of_precedes (stands : scan.Stands [] text columns told)
    (precedes : scan.Precedes lines) (fits : ∀ first, columns.head? = some first → first ≤ column) :
    scan.At lines column columns told := by
  have kept : columnsWithin (column + 1) scan.columns = columns := by
    rw [stands.opened]
    exact columnsWithin_of_fits fun first isFirst => Nat.lt_succ_of_le (fits first isFirst)
  refine ⟨precedes, stands.brackets, stands.undemanded, kept, ?_⟩
  rw [closedKinds, kept, stands.opened, Nat.sub_self, List.replicate_zero, List.append_nil,
    stands.told]

theorem Stands.at (stands : scan.Stands [] (following lines) columns told)
    (fits : ∀ first, columns.head? = some first → first ≤ column) :
    scan.At lines column columns told :=
  stands.at_of_precedes (precedes_of_rest stands.rest) fits

/-- In front of a line that is indented less, what is open further inside has ended. -/
theorem At.outward {inner first : Nat} (here : scan.At lines inner (inner :: first :: outer) told)
    (further : first < inner) : scan.At lines first (first :: outer) (told ++ [.linesEnd]) := by
  have notDeeper : first + 1 ≤ inner + 1 := Nat.succ_le_succ (Nat.le_of_lt further)
  have kept : columnsWithin (first + 1) (inner :: first :: outer) = first :: outer := by
    rw [columnsWithin_cons_of_le further, columnsWithin_of_lt (Nat.lt_succ_self first)]
  refine ⟨here.precedes, here.outside, here.undemanded, ?_, ?_⟩
  · rw [← columnsWithin_of_le notDeeper, here.opened, kept]
  · rw [closedKinds_of_le notDeeper, here.told, here.opened, kept]
    simp

/-- Reading goes on at the next token, where more indented things have been closed. -/
theorem At.next? (here : scan.At (fillerLines fillers ++ (blanks column ++ c :: word) :: more)
      column columns told) (starts : StartsToken c) :
    ∃ fresh : Scan, scan.next? = fresh.readToken? ∧
      fresh.Starts (c :: word ++ following more) column columns told ∧
      (c :: word ++ following more).length ≤ scan.rest.length := by
  have leads := here.precedes.leadsTo here.outside starts
  have notEmpty : scan.skip.rest ≠ [] := by
    rw [leads.rest]
    exact List.cons_ne_nil _ _
  obtain ⟨candidate, undemanded, reads⟩ := next?_eq here.isFree notEmpty
  rw [leads.column] at reads
  have kept : (({ scan.skip with candidate := candidate } : Scan).unindent (column + 1)).columns =
      columnsWithin (column + 1) scan.columns :=
    columns_unindent here.outside
  have closed : (({ scan.skip with candidate := candidate } : Scan).unindent (column + 1)).kinds =
      scan.closedKinds (column + 1) :=
    kinds_unindent here.outside
  refine ⟨_, reads, ⟨⟨?_, ?_, ?_, kept.trans here.opened, closed.trans here.told⟩, ?_, ?_⟩,
    leads.shorter⟩
  · rw [rest_unindent]
    exact leads.rest
  · rw [outer_unindent]
    exact here.outside
  · rw [candidate_unindent]
    exact undemanded
  · rw [mark_unindent]
    exact leads.column
  · rw [allowsKey_unindent]
    exact leads.allowsKey

/-- Where nothing is said any more, the text ends with everything that is open. -/
theorem At.next?_end (here : scan.At (fillerLines fillers) column columns told) :
    ∃ finished, scan.next? = some finished ∧
      finished.kinds = told ++ List.replicate columns.length .linesEnd ++ [.textEnd] := by
  obtain ⟨allowsKey, skipped⟩ := here.precedes.skipSpace_end
  have skips := skip_eq (inBrackets_eq_false here.outside) skipped (List.append_nil _).symm
  have nothing : scan.skip.rest = [] := by
    rw [skips]
  obtain ⟨finished, reads, areKinds⟩ := Scan.next?_end here.isFree here.outside nothing
  refine ⟨finished, reads, ?_⟩
  rw [areKinds, closedKinds_of_le (Nat.zero_le (column + 1)), here.told, here.opened,
    columnsWithin_zero]
  rfl

end Scan

end IconForge.Yaml
