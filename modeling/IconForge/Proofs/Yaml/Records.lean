import IconForge.Proofs.Yaml.Brackets

/-!
Contract: records of lines as they are written, and the tokens they are made of.

Owns:
- the ways in which the value of a field is written: on the line of its key or below it;
- fields, and records of fields further inside;
- reading the parts of a list or a record one below another.

Main statements: `exists_reads_parts`, `Inside.exists_reads_writing`, `At.exists_reads_entry`.

Does not own: the text around a record, nor the nodes that its tokens make up.
-/

namespace IconForge.Yaml

/-! ### Records as they are written -/

/-- An item of a list of lines, with the lines in front of it. -/
structure Item where
  fillers : List Filler
  gap : Nat
  quoted : Quoted

namespace Item

def lines (column : Nat) (item : Item) : List (List Char) :=
  fillerLines item.fillers ++
    [blanks column ++ '-' :: (blanks (item.gap + 1) ++ item.quoted.chars)]

def kinds (item : Item) : List TokenKind :=
  [.item, .text false item.quoted.text]

end Item

/-- How the value of a field is written. -/
inductive Writing where
  | quoted (gap : Nat) (text : Quoted)
  | word (gap : Nat) (text : Word)
  | brackets (gap : Nat) (list : Brackets)
  /-- Item by item in the lines below the key, which may be indented further. -/
  | lines (further : Nat) (first : Item) (more : List Item)

namespace Writing

/-- What stands on the line of the key. -/
def head : Writing → List Char
  | quoted gap text => blanks (gap + 1) ++ text.chars
  | word gap text => blanks (gap + 1) ++ text.chars
  | brackets gap list => blanks (gap + 1) ++ list.chars
  | lines .. => []

/-- The lines below that of the key. -/
def below (column : Nat) : Writing → List (List Char)
  | quoted .. => []
  | word .. => []
  | brackets .. => []
  | lines further first more => (first :: more).flatMap (Item.lines (column + further))

def kinds : Writing → List TokenKind
  | quoted _ text => [.text false text.text]
  | word _ text => [.text true text.text]
  | brackets _ list => list.kinds
  | lines 0 first more => (first :: more).flatMap Item.kinds
  | lines (_ + 1) first more => .listStart :: ((first :: more).flatMap Item.kinds ++ [.linesEnd])

end Writing

/-- A field of a record of lines, with the lines in front of it. -/
structure Field where
  fillers : List Filler
  name : Word
  writing : Writing

namespace Field

def lines (column : Nat) (field : Field) : List (List Char) :=
  fillerLines field.fillers ++
    (blanks column ++ (field.name.chars ++ ':' :: field.writing.head)) ::
      field.writing.below column

def kinds (field : Field) : List TokenKind :=
  .key :: .text true field.name.text :: .value :: field.writing.kinds

end Field

/-- A field of the outermost record, which may be a record itself. -/
inductive PageEntry where
  | field (simple : Field)
  | record (fillers : List Filler) (name : Word) (further : Nat) (first : Field)
      (more : List Field)

namespace PageEntry

def lines (column : Nat) : PageEntry → List (List Char)
  | field simple => simple.lines column
  | record fillers name further first more =>
    fillerLines fillers ++ (blanks column ++ (name.chars ++ [':'])) ::
      (first :: more).flatMap (Field.lines (column + further + 1))

def kinds : PageEntry → List TokenKind
  | field simple => simple.kinds
  | record _ name _ first more =>
    .key :: .text true name.text :: .value :: .recordStart ::
      ((first :: more).flatMap Field.kinds ++ [.linesEnd])

end PageEntry

namespace Scan

variable {scan : Scan} {more : List (List Char)} {column : Nat} {columns outer : List Nat}
  {told opening : List TokenKind} {kind : TokenKind}

/-! ### Parts one below another -/

theorem Recedes.mono {lines : List (List Char)} {further : Nat} (recedes : Recedes column lines)
    (notLess : column ≤ further) : Recedes further lines := by
  obtain ⟨fillers, rest, isLines, atRest⟩ := recedes
  refine ⟨fillers, rest, isLines, fun line isFirst => ?_⟩
  obtain ⟨count, c, word, isLine, notDeeper, starts⟩ := atRest line isFirst
  exact ⟨count, c, word, isLine, Nat.le_trans notDeeper notLess, starts⟩

theorem recedes_fillers (column : Nat) (fillers : List Filler) :
    Recedes column (fillerLines fillers) :=
  ⟨fillers, [], (List.append_nil _).symm, nofun⟩

theorem recedes_line {c : Char} (column : Nat) (fillers : List Filler) (word : List Char)
    (more : List (List Char)) (starts : StartsToken c) :
    Recedes column (fillerLines fillers ++ (blanks column ++ c :: word) :: more) := by
  refine ⟨fillers, _, rfl, fun line isFirst => ?_⟩
  cases isFirst
  exact ⟨column, c, word, rfl, Nat.le_refl _, starts⟩

/-- Parts that are read one below another in the same column: the first one opens a list
or a record, and the others belong to it. -/
theorem exists_reads_parts {α : Type} {lines : α → List (List Char)} {kinds : α → List TokenKind}
    (recedes : ∀ part more, Recedes column (lines part ++ more))
    (reads : ∀ {scan part more columns told opening},
      scan.At (lines part ++ more) column columns told → Opens kind column outer columns opening →
      Recedes column more →
      ∃ reached, Reads scan reached ∧
        reached.At more column (column :: outer) (told ++ opening ++ kinds part))
    {first : α} {parts : List α}
    (here : scan.At ((first :: parts).flatMap lines ++ more) column columns told)
    (opens : Opens kind column outer columns opening) (ends : Recedes column more) :
    ∃ reached, Reads scan reached ∧
      reached.At more column (column :: outer)
        (told ++ opening ++ (first :: parts).flatMap kinds) := by
  induction parts generalizing scan first columns told opening with
  | nil =>
    rw [List.flatMap_singleton] at here ⊢
    exact reads here opens ends
  | cons next others inductionHypothesis =>
    have behindEnds : Recedes column ((next :: others).flatMap lines ++ more) := by
      rw [List.flatMap_cons, List.append_assoc]
      exact recedes next _
    rw [List.flatMap_cons, List.append_assoc] at here
    obtain ⟨between, firstRead, isBetween⟩ := reads here opens behindEnds
    obtain ⟨reached, othersRead, isReached⟩ := inductionHypothesis isBetween .later
    refine ⟨reached, firstRead.trans othersRead, ?_⟩
    rw [List.flatMap_cons, ← List.append_assoc]
    rw [List.append_nil] at isReached
    exact isReached

/-! ### Values -/

theorem endsWord_following (lines : List (List Char)) : endsWord (following lines) = true := by
  cases lines with
  | nil => rfl
  | cons line more => rfl

theorem recedes_item (column : Nat) (item : Item) (more : List (List Char)) :
    Recedes column (item.lines column ++ more) := by
  have starts : StartsToken '-' := ⟨by decide, by decide, by decide, by decide, by decide⟩
  rw [Item.lines, List.append_assoc, List.singleton_append]
  exact recedes_line column item.fillers _ more starts

theorem At.exists_reads_items {first : Item} {items : List Item}
    (here : scan.At ((first :: items).flatMap (Item.lines column) ++ more) column columns told)
    (opens : Opens .listStart column outer columns opening) (ends : Recedes column more) :
    ∃ reached, Reads scan reached ∧
      reached.At more column (column :: outer)
        (told ++ opening ++ (first :: items).flatMap Item.kinds) := by
  refine exists_reads_parts (recedes_item column) ?_ here opens ends
  intro scan item more columns told opening here opens _
  rw [Item.lines, List.append_assoc, List.singleton_append] at here
  obtain ⟨reached, reads, isReached⟩ := here.exists_reads_item opens
  rw [List.append_assoc] at isReached
  exact ⟨reached, reads, isReached⟩

/-- The value of a field is read from behind the colon up to what comes next. -/
theorem Inside.exists_reads_writing {writing : Writing}
    (inside : scan.Inside (writing.head ++ following (writing.below column ++ more))
      (column :: outer) told)
    (noKey : scan.allowsKey = false) (ends : Recedes column more) :
    ∃ reached, Reads scan reached ∧
      reached.At more column (column :: outer) (told ++ writing.kinds) := by
  have fits (further : Nat) :
      ∀ first, (column :: outer).head? = some first → first ≤ column + further := by
    intro first isFirst
    cases isFirst
    exact Nat.le_add_right column further
  cases writing with
  | quoted gap quoted =>
    rw [Writing.head, Writing.below, List.nil_append, List.append_assoc] at inside
    obtain ⟨reached, reads, stands⟩ := inside.exists_reads_quoted
    exact ⟨reached, reads, stands.at (fits 0)⟩
  | word gap word =>
    rw [Writing.head, Writing.below, List.nil_append, List.append_assoc] at inside
    exact inside.exists_reads_word noKey ends
  | brackets gap brackets =>
    rw [Writing.head, Writing.below, List.nil_append, List.append_assoc] at inside
    obtain ⟨reached, reads, stands⟩ := inside.exists_reads_brackets noKey
    exact ⟨reached, reads, stands.at (fits 0)⟩
  | lines further first others =>
    rw [Writing.head, Writing.below, List.nil_append] at inside
    have here := inside.toStands.at (fits further)
    have endsFurther := ends.mono (Nat.le_add_right column further)
    cases further with
    | zero =>
      obtain ⟨reached, reads, isReached⟩ := here.exists_reads_items .later endsFurther
      rw [List.append_nil] at isReached
      exact ⟨reached, reads, isReached⟩
    | succ further =>
      have isFurther : column < column + (further + 1) := by omega
      have opens : Opens .listStart (column + (further + 1)) (column :: outer) (column :: outer)
          [.listStart] :=
        .first fun first isFirst => Option.some.inj isFirst ▸ isFurther
      obtain ⟨reached, reads, isReached⟩ := here.exists_reads_items opens endsFurther
      have isOutward := isReached.outward isFurther
      simp only [List.append_assoc, List.singleton_append] at isOutward
      exact ⟨reached, reads, isOutward⟩

/-! ### Fields -/

theorem endsWord_writing (writing : Writing) (column : Nat) (more : List (List Char)) :
    endsWord (writing.head ++ following (writing.below column ++ more)) = true := by
  cases writing with
  | lines further first others => exact endsWord_following _
  | _ => rfl

theorem recedes_key (column : Nat) (fillers : List Filler) (name : Word) (behind : List Char)
    (more : List (List Char)) :
    Recedes column (fillerLines fillers ++ (blanks column ++ (name.chars ++ behind)) :: more) := by
  obtain ⟨c, others, isChars⟩ := List.exists_cons_of_ne_nil name.notEmpty
  have starts := startsToken_of_isWordChar (name.isWord c (isChars ▸ List.mem_cons_self))
  rw [isChars]
  exact recedes_line column fillers (others ++ behind) more starts

theorem recedes_field (column : Nat) (field : Field) (more : List (List Char)) :
    Recedes column (field.lines column ++ more) := by
  rw [Field.lines, List.append_assoc, List.cons_append]
  exact recedes_key column field.fillers field.name _ _

theorem At.exists_reads_field {field : Field}
    (here : scan.At (field.lines column ++ more) column columns told)
    (opens : Opens .recordStart column outer columns opening) (ends : Recedes column more) :
    ∃ reached, Reads scan reached ∧
      reached.At more column (column :: outer) (told ++ opening ++ field.kinds) := by
  rw [Field.lines, List.append_assoc, List.cons_append] at here
  obtain ⟨between, keyRead, inside, noKey⟩ :=
    here.exists_reads_key opens (endsWord_writing field.writing column more)
  obtain ⟨reached, valueRead, isReached⟩ := inside.exists_reads_writing noKey ends
  refine ⟨reached, keyRead.trans valueRead, ?_⟩
  simp only [List.append_assoc, List.cons_append, List.nil_append] at isReached
  simpa only [Field.kinds, List.append_assoc] using isReached

theorem recedes_entry (column : Nat) (entry : PageEntry) (more : List (List Char)) :
    Recedes column (entry.lines column ++ more) := by
  cases entry with
  | field simple => exact recedes_field column simple more
  | record fillers name further first others =>
    rw [PageEntry.lines, List.append_assoc, List.cons_append]
    exact recedes_key column fillers name _ _

/-- A field of the outermost record is read with everything that belongs to it. -/
theorem At.exists_reads_entry {entry : PageEntry}
    (here : scan.At (entry.lines column ++ more) column columns told)
    (opens : Opens .recordStart column outer columns opening) (ends : Recedes column more) :
    ∃ reached, Reads scan reached ∧
      reached.At more column (column :: outer) (told ++ opening ++ entry.kinds) := by
  cases entry with
  | field simple => exact here.exists_reads_field opens ends
  | record fillers name further first others =>
    rw [PageEntry.lines, List.append_assoc, List.cons_append] at here
    obtain ⟨between, keyRead, inside, -⟩ := here.exists_reads_key opens (endsWord_following _)
    have isFurther : column < column + further + 1 := by omega
    have fits : ∀ first, (column :: outer).head? = some first → first ≤ column + further + 1 :=
      fun first isFirst => Option.some.inj isFirst ▸ Nat.le_of_lt isFurther
    have below : between.At ((first :: others).flatMap (Field.lines (column + further + 1)) ++ more)
        (column + further + 1) (column :: outer) _ :=
      inside.toStands.at fits
    have opensFurther : Opens .recordStart (column + further + 1) (column :: outer)
        (column :: outer) [.recordStart] :=
      .first fun first isFirst => Option.some.inj isFirst ▸ isFurther
    obtain ⟨reached, fieldsRead, isReached⟩ :=
      exists_reads_parts (recedes_field (column + further + 1)) At.exists_reads_field below
        opensFurther (ends.mono (Nat.le_of_lt isFurther))
    refine ⟨reached, keyRead.trans fieldsRead, ?_⟩
    have isOutward := isReached.outward isFurther
    simp only [List.append_assoc, List.cons_append, List.nil_append] at isOutward
    simpa only [PageEntry.kinds, List.append_assoc, List.cons_append] using isOutward

end Scan

end IconForge.Yaml
