import IconForge.Proofs.Yaml.Tokens

/-!
Contract: lists of texts in brackets.

Owns:
- lists in brackets as they are written, with any space between their tokens;
- reading one behind a colon.

Main statement: `Inside.exists_reads_brackets`.

Does not own: what stands around a list.
-/

namespace IconForge.Yaml

/-! ### Lists as they are written -/

/-- Whether a text may stand between tokens in brackets. -/
def IsSpace (text : List Char) : Prop :=
  ∀ c ∈ text, c = ' ' ∨ c = '\t' ∨ c = '\n'

/-- An item of a list in brackets, with the space around it. -/
structure BracketItem where
  before : List Char
  quoted : Quoted
  after : List Char
  beforeIsSpace : IsSpace before
  afterIsSpace : IsSpace after

namespace BracketItem

def chars (item : BracketItem) : List Char :=
  item.before ++ (item.quoted.chars ++ item.after)

def behindComma (item : BracketItem) : List Char :=
  ',' :: item.chars

def kindsBehindComma (item : BracketItem) : List TokenKind :=
  [.comma, .text false item.quoted.text]

end BracketItem

inductive Brackets where
  | empty (space : List Char) (isSpace : IsSpace space)
  | items (first : BracketItem) (more : List BracketItem)

namespace Brackets

def inner : Brackets → List Char
  | empty space _ => space
  | items first more => first.chars ++ more.flatMap BracketItem.behindComma

def chars (brackets : Brackets) : List Char :=
  '[' :: (brackets.inner ++ [']'])

def texts : Brackets → List String
  | empty _ _ => []
  | items first more => (first :: more).map fun item => item.quoted.text

def kinds : Brackets → List TokenKind
  | empty _ _ => [.openList, .closeList]
  | items first more =>
    .openList :: .text false first.quoted.text ::
      (more.flatMap BracketItem.kindsBehindComma ++ [.closeList])

end Brackets

namespace Scan

variable {scan : Scan} {c : Char} {rest space text : List Char} {gap : Nat} {columns : List Nat}
  {told : List TokenKind}

/-! ### Tokens between brackets -/

theorem skipSpace_inBrackets (isSpace : IsSpace space) (starts : StartsToken c) (allowsKey : Bool) :
    skipSpace true allowsKey false (space ++ c :: rest) = (allowsKey, c :: rest) := by
  induction space generalizing allowsKey with
  | nil => exact skipSpace_token starts true allowsKey
  | cons first others inductionHypothesis =>
    rw [IsSpace, List.forall_mem_cons] at isSpace
    have onward := inductionHypothesis isSpace.2 allowsKey
    rw [List.cons_append, skipSpace]
    rcases isSpace.1 with rfl | rfl | rfl
    · exact onward
    · exact onward
    · rw [if_pos (by decide), Bool.not_true, Bool.or_false]
      exact onward

theorem Stands.isFree_inBrackets (stands : scan.Stands [none] text columns told) : scan.IsFree := by
  refine ⟨?_, stands.undemanded⟩
  rw [stands.brackets]
  exact fun _ member => List.mem_singleton.mp member

/-- Between brackets neither breaks nor indentation say anything. -/
theorem Stands.nextInBrackets (stands : scan.Stands [none] (space ++ c :: rest) columns told)
    (isSpace : IsSpace space) (starts : StartsToken c) :
    ∃ fresh : Scan, scan.next? = fresh.readToken? ∧ fresh.Stands [none] (c :: rest) columns told ∧
      rest.length < scan.rest.length := by
  have inside : scan.inBrackets = true := by
    rw [inBrackets, stands.brackets]
    rfl
  have skipped : skipSpace true scan.allowsKey false (space ++ c :: rest) =
      (scan.allowsKey, c :: rest) :=
    skipSpace_inBrackets isSpace starts scan.allowsKey
  rw [← stands.rest] at skipped
  have skips := skip_eq inside skipped stands.rest
  have notEmpty : scan.skip.rest ≠ [] := by
    rw [skips]
    exact List.cons_ne_nil _ _
  obtain ⟨candidate, undemanded, reads⟩ := next?_eq stands.isFree_inBrackets notEmpty
  have stays : ({ scan.skip with candidate := candidate } : Scan).unindent
      (scan.skip.mark.column + 1) = { scan.skip with candidate := candidate } := by
    unfold unindent
    exact if_pos inside
  rw [stays] at reads
  refine ⟨_, reads, ⟨?_, stands.brackets, undemanded, stands.opened, stands.told⟩, ?_⟩
  · rw [skips]
  · rw [stands.rest, List.length_append, List.length_cons]
    omega

theorem Stands.readComma (stands : scan.Stands [none] (',' :: rest) columns told) :
    ∃ after, scan.readToken? = some after ∧
      after.Stands [none] rest columns (told ++ [.comma]) := by
  have reads : scan.readToken? = scan.readComma? rest := by
    rw [readToken?, stands.rest]
    simp [startsDocumentMark]
  rw [reads, readComma?, dropCandidate?_of_isFree stands.isFree_inBrackets]
  refine ⟨_, rfl, rfl, stands.brackets, undemanded_none, stands.opened, ?_⟩
  rw [kinds_emit]
  exact congrArg (· ++ [TokenKind.comma]) stands.told

theorem Stands.readClosing (stands : scan.Stands [none] (']' :: rest) columns told) :
    ∃ after, scan.readToken? = some after ∧
      after.Stands [] rest columns (told ++ [.closeList]) := by
  have reads : scan.readToken? = scan.readClosing? .closeList rest := by
    rw [readToken?, stands.rest]
    simp [startsDocumentMark]
  rw [reads, readClosing?, dropCandidate?_of_isFree stands.isFree_inBrackets]
  simp only [Option.bind_eq_bind, Option.bind_some, stands.brackets]
  refine ⟨_, rfl, rfl, rfl, undemanded_none, stands.opened, ?_⟩
  rw [kinds_emit]
  exact congrArg (· ++ [TokenKind.closeList]) stands.told

theorem Stands.exists_reads_bracketText {quoted : Quoted}
    (stands : scan.Stands [none] (space ++ (quoted.chars ++ rest)) columns told)
    (isSpace : IsSpace space) :
    ∃ reached, Reads scan reached ∧
      reached.Stands [none] rest columns (told ++ [.text false quoted.text]) := by
  have starts : StartsToken '"' := ⟨by decide, by decide, by decide, by decide, by decide⟩
  have atQuote : scan.Stands [none] (space ++ '"' :: ((quoted.body ++ ['"']) ++ rest)) columns
      told :=
    stands
  obtain ⟨fresh, next, isFresh, shorter⟩ := atQuote.nextInBrackets isSpace starts
  have inside : fresh.inBrackets = true := by
    rw [inBrackets, isFresh.brackets]
    rfl
  obtain ⟨reached, reads, isReached⟩ := Stands.readQuoted quoted isFresh
    (fun _ member => List.mem_singleton.mp member) (by rw [inside]; rfl)
  refine ⟨reached, .single (next.trans reads) isReached.told (by simp) ?_, isReached⟩
  rw [isReached.rest]
  rw [List.length_append] at shorter
  omega

/-- The items behind the first one are read up to the closing bracket. -/
theorem Stands.exists_reads_items (items : List BracketItem)
    (stands : scan.Stands [none]
      (space ++ (items.flatMap BracketItem.behindComma ++ ']' :: rest)) columns told)
    (isSpace : IsSpace space) :
    ∃ reached, Reads scan reached ∧
      reached.Stands [] rest columns
        (told ++ items.flatMap BracketItem.kindsBehindComma ++ [.closeList]) := by
  induction items generalizing scan space told with
  | nil =>
    have starts : StartsToken ']' := ⟨by decide, by decide, by decide, by decide, by decide⟩
    obtain ⟨fresh, next, isFresh, shorter⟩ := Stands.nextInBrackets stands isSpace starts
    obtain ⟨reached, reads, isReached⟩ := isFresh.readClosing
    refine ⟨reached, .single (next.trans reads) isReached.told (by simp) ?_, ?_⟩
    · rw [isReached.rest]
      exact shorter
    · rw [List.flatMap_nil, List.append_nil]
      exact isReached
  | cons item others inductionHypothesis =>
    have starts : StartsToken ',' := ⟨by decide, by decide, by decide, by decide, by decide⟩
    have parts : (item :: others).flatMap BracketItem.behindComma ++ ']' :: rest =
        ',' :: (item.before ++ (item.quoted.chars ++
          (item.after ++ (others.flatMap BracketItem.behindComma ++ ']' :: rest)))) := by
      simp [BracketItem.behindComma, BracketItem.chars]
    rw [parts] at stands
    obtain ⟨fresh, next, isFresh, shorter⟩ := Stands.nextInBrackets stands isSpace starts
    obtain ⟨between, reads, isBetween⟩ := isFresh.readComma
    have first : Reads scan between :=
      .single (next.trans reads) isBetween.told (by simp) (by rw [isBetween.rest]; exact shorter)
    obtain ⟨behind, second, isBehind⟩ := isBetween.exists_reads_bracketText item.beforeIsSpace
    obtain ⟨reached, third, isReached⟩ := inductionHypothesis isBehind item.afterIsSpace
    refine ⟨reached, first.trans (second.trans third), ?_⟩
    have sameKinds : told ++ (item :: others).flatMap BracketItem.kindsBehindComma ++
        [TokenKind.closeList] = told ++ [.comma] ++ [.text false item.quoted.text] ++
          others.flatMap BracketItem.kindsBehindComma ++ [.closeList] := by
      simp [BracketItem.kindsBehindComma]
    rw [sameKinds]
    exact isReached

/-! ### Whole lists -/

/-- The opening bracket of a list behind a colon. -/
theorem Inside.exists_reads_opening
    (inside : scan.Inside (blanks gap ++ '[' :: rest) columns told)
    (noKey : scan.allowsKey = false) :
    ∃ reached, Reads scan reached ∧
      reached.Stands [none] rest columns (told ++ [.openList]) := by
  have starts : StartsToken '[' := ⟨by decide, by decide, by decide, by decide, by decide⟩
  obtain ⟨fresh, next, isFresh, stillNoKey, notLonger⟩ := inside.next? starts
  have marked : fresh.markCandidate? = some fresh := by
    rw [markCandidate?, if_neg (by simp [stillNoKey, noKey])]
  have reads : fresh.readToken? = fresh.readOpening? .openList rest := by
    rw [readToken?, isFresh.rest]
    simp [startsDocumentMark]
  obtain ⟨opened, isOpened⟩ : ∃ opened : Scan, opened = { fresh with
      candidate := none
      outer := fresh.candidate :: fresh.outer
      allowsKey := true }.emit TokenKind.openList rest := ⟨_, rfl⟩
  have opens : fresh.readOpening? .openList rest = some opened := by
    rw [readOpening?, marked, isOpened]
    rfl
  have stands : opened.Stands [none] rest columns (told ++ [.openList]) := by
    rw [isOpened]
    refine ⟨rfl, ?_, undemanded_none, isFresh.opened, ?_⟩
    · rw [outer_emit, isFresh.candidate, isFresh.brackets]
    · rw [kinds_emit]
      exact congrArg (· ++ [TokenKind.openList]) isFresh.told
  refine ⟨opened, .single (next.trans (reads.trans opens)) stands.told (by simp) ?_, stands⟩
  rw [stands.rest]
  exact notLonger

/-- A list in brackets behind a colon is read up to its closing bracket. -/
theorem Inside.exists_reads_brackets {brackets : Brackets}
    (inside : scan.Inside (blanks gap ++ (brackets.chars ++ rest)) columns told)
    (noKey : scan.allowsKey = false) :
    ∃ reached, Reads scan reached ∧ reached.Stands [] rest columns (told ++ brackets.kinds) := by
  cases brackets with
  | empty space isSpace =>
    have parts : (Brackets.empty space isSpace).chars ++ rest = '[' :: (space ++ ']' :: rest) := by
      simp [Brackets.chars, Brackets.inner]
    rw [parts] at inside
    obtain ⟨between, first, isBetween⟩ := inside.exists_reads_opening noKey
    obtain ⟨reached, second, isReached⟩ := Stands.exists_reads_items [] isBetween isSpace
    refine ⟨reached, first.trans second, ?_⟩
    rw [List.flatMap_nil, List.append_nil, List.append_assoc] at isReached
    exact isReached
  | items item others =>
    have parts : (Brackets.items item others).chars ++ rest = '[' :: (item.before ++
        (item.quoted.chars ++
          (item.after ++ (others.flatMap BracketItem.behindComma ++ ']' :: rest)))) := by
      simp [Brackets.chars, Brackets.inner, BracketItem.chars]
    rw [parts] at inside
    obtain ⟨between, first, isBetween⟩ := inside.exists_reads_opening noKey
    obtain ⟨behind, second, isBehind⟩ := isBetween.exists_reads_bracketText item.beforeIsSpace
    obtain ⟨reached, third, isReached⟩ := isBehind.exists_reads_items others item.afterIsSpace
    refine ⟨reached, first.trans (second.trans third), ?_⟩
    have sameKinds : told ++ (Brackets.items item others).kinds =
        told ++ [.openList] ++ [.text false item.quoted.text] ++
          others.flatMap BracketItem.kindsBehindComma ++ [.closeList] := by
      simp [Brackets.kinds]
    rw [sameKinds]
    exact isReached

end Scan

end IconForge.Yaml
