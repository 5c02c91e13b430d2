/-!
Contract: blank characters, and the ways a text is cut at them and at other characters.

Owns:
- the class of blank characters (the Unicode property White_Space);
- trimming at either end;
- the pieces of a text between characters of a class, and its maximal blank-free words.

Does not own: the four blanks that separate markup tokens, nor the blanks
between tokens of the module format.
-/

namespace IconForge.Text

/-- Blank characters are exactly those with the Unicode property White_Space. -/
def isBlank (c : Char) : Bool :=
  let code := c.toNat
  (0x09 ≤ code && code ≤ 0x0D) || code == 0x20 || code == 0x85 || code == 0xA0 ||
    code == 0x1680 || (0x2000 ≤ code && code ≤ 0x200A) || code == 0x2028 || code == 0x2029 ||
    code == 0x202F || code == 0x205F || code == 0x3000

def dropEndWhile (inClass : Char → Bool) (text : List Char) : List Char :=
  (text.reverse.dropWhile inClass).reverse

def trimEnd (text : List Char) : List Char :=
  dropEndWhile isBlank text

def trim (text : List Char) : List Char :=
  trimEnd (text.dropWhile isBlank)

/-- What trimming takes away is blank. -/
theorem exists_trim (text : List Char) :
    ∃ front back, text = front ++ trim text ++ back ∧ ∀ c ∈ front ++ back, isBlank c = true := by
  have fromFront := List.takeWhile_append_dropWhile (p := isBlank) (l := text)
  have fromBack := List.takeWhile_append_dropWhile (p := isBlank)
    (l := (text.dropWhile isBlank).reverse)
  have kept : text.dropWhile isBlank = trim text ++
      ((text.dropWhile isBlank).reverse.takeWhile isBlank).reverse := by
    have turned := congrArg List.reverse fromBack
    rw [List.reverse_append, List.reverse_reverse] at turned
    exact turned.symm
  refine ⟨text.takeWhile isBlank,
    ((text.dropWhile isBlank).reverse.takeWhile isBlank).reverse, ?_, ?_⟩
  · rw [List.append_assoc, ← kept, fromFront]
  · intro c member
    rcases List.mem_append.mp member with inFront | inBack
    · exact List.all_eq_true.mp List.all_takeWhile c inFront
    · exact List.all_eq_true.mp List.all_takeWhile c (List.mem_reverse.mp inBack)

/-- The pieces of a text between the members of a class; there is always one
piece more than there are such members. -/
def splitAt {α : Type} (inClass : α → Bool) : List α → List (List α)
  | [] => [[]]
  | c :: rest =>
    if inClass c then
      [] :: splitAt inClass rest
    else
      match splitAt inClass rest with
      | [] => [[c]]
      | piece :: pieces => (c :: piece) :: pieces

theorem splitAt_ne_nil {α : Type} (inClass : α → Bool) (text : List α) :
    splitAt inClass text ≠ [] := by
  cases text with
  | nil => exact List.cons_ne_nil _ _
  | cons c rest =>
    rw [splitAt]
    split
    · exact List.cons_ne_nil _ _
    · split <;> exact List.cons_ne_nil _ _

/-- A text without members of the class is its only piece. -/
theorem splitAt_of_free {α : Type} {inClass : α → Bool} {text : List α}
    (free : ∀ c ∈ text, inClass c = false) : splitAt inClass text = [text] := by
  induction text with
  | nil => rfl
  | cons c rest inductionHypothesis =>
    obtain ⟨outside, restFree⟩ := List.forall_mem_cons.mp free
    rw [splitAt, if_neg (by simp [outside]), inductionHypothesis restFree]

/-- The pieces in front of a member of the class do not depend on those behind
it. -/
theorem splitAt_append {α : Type} {inClass : α → Bool} {c : α} (member : inClass c = true)
    (front back : List α) :
    splitAt inClass (front ++ c :: back) = splitAt inClass front ++ splitAt inClass back := by
  induction front with
  | nil => simp only [List.nil_append, splitAt, member, if_true, List.singleton_append]
  | cons first rest inductionHypothesis =>
    rw [List.cons_append, splitAt, splitAt, inductionHypothesis]
    split
    · rfl
    · cases pieces : splitAt inClass rest with
      | nil => exact absurd pieces (splitAt_ne_nil inClass rest)
      | cons piece others => rfl

/-- Pieces that all end with the same member of the class, in front of any text. -/
theorem splitAt_flatMap {α : Type} {inClass : α → Bool} {ending : α}
    (member : inClass ending = true) {pieces : List (List α)}
    (free : ∀ piece ∈ pieces, ∀ c ∈ piece, inClass c = false) (rest : List α) :
    splitAt inClass (pieces.flatMap (fun piece => piece ++ [ending]) ++ rest) =
      pieces ++ splitAt inClass rest := by
  induction pieces with
  | nil => rfl
  | cons piece others inductionHypothesis =>
    obtain ⟨pieceFree, othersFree⟩ := List.forall_mem_cons.mp free
    rw [List.flatMap_cons, List.append_assoc, List.append_assoc, List.singleton_append,
      splitAt_append member, splitAt_of_free pieceFree, inductionHypothesis othersFree]
    rfl

theorem mem_splitAt {α : Type} {inClass : α → Bool} {text piece : List α}
    (isPiece : piece ∈ splitAt inClass text) :
    ∀ c ∈ piece, inClass c = false ∧ c ∈ text := by
  induction text generalizing piece with
  | nil =>
    rw [splitAt, List.mem_singleton] at isPiece
    simp [isPiece]
  | cons first rest inductionHypothesis =>
    have later {other : List α} (member : other ∈ splitAt inClass rest) (c : α)
        (inPiece : c ∈ other) : inClass c = false ∧ c ∈ first :: rest :=
      ⟨(inductionHypothesis member c inPiece).1,
        List.mem_cons_of_mem _ (inductionHypothesis member c inPiece).2⟩
    rw [splitAt] at isPiece
    split at isPiece
    · rcases List.mem_cons.mp isPiece with isEmpty | isLater
      · simp [isEmpty]
      · exact later isLater
    · next outside =>
      have firstOutside : inClass first = false ∧ first ∈ first :: rest :=
        ⟨Bool.eq_false_iff.mpr outside, List.mem_cons_self⟩
      split at isPiece
      · simp only [List.mem_singleton] at isPiece
        simpa [isPiece] using firstOutside.1
      · next head others pieces =>
        rw [pieces] at later
        rcases List.mem_cons.mp isPiece with isHead | isLater
        · subst isHead
          intro c inPiece
          rcases List.mem_cons.mp inPiece with isFirst | inHead
          · exact isFirst ▸ firstOutside
          · exact later List.mem_cons_self c inHead
        · exact later (List.mem_cons_of_mem _ isLater)

theorem exists_mem_splitAt {α : Type} {inClass : α → Bool} {c : α} {text : List α}
    (member : c ∈ text) (kept : inClass c = false) : ∃ piece ∈ splitAt inClass text, c ∈ piece := by
  induction text with
  | nil => cases member
  | cons first rest inductionHypothesis =>
    rw [splitAt]
    split
    · next separated =>
      rcases List.mem_cons.mp member with rfl | inRest
      · rw [kept] at separated
        cases separated
      · obtain ⟨piece, isPiece, held⟩ := inductionHypothesis inRest
        exact ⟨piece, List.mem_cons_of_mem _ isPiece, held⟩
    · cases pieces : splitAt inClass rest with
      | nil => exact absurd pieces (splitAt_ne_nil _ _)
      | cons head others =>
        rcases List.mem_cons.mp member with rfl | inRest
        · exact ⟨_, List.mem_cons_self, List.mem_cons_self⟩
        · obtain ⟨piece, isPiece, held⟩ := inductionHypothesis inRest
          rw [pieces] at isPiece
          rcases List.mem_cons.mp isPiece with rfl | isOther
          · exact ⟨_, List.mem_cons_self, List.mem_cons_of_mem _ held⟩
          · exact ⟨piece, List.mem_cons_of_mem _ isOther, held⟩

/-- A text has only empty pieces exactly if it is made of members of the class. -/
theorem splitAt_pieces_nil_iff {α : Type} {inClass : α → Bool} {text : List α} :
    (∀ piece ∈ splitAt inClass text, piece = []) ↔ ∀ c ∈ text, inClass c = true := by
  constructor
  · intro empty c member
    cases kept : inClass c with
    | true => rfl
    | false =>
      obtain ⟨piece, isPiece, held⟩ := exists_mem_splitAt member kept
      rw [empty piece isPiece] at held
      cases held
  · intro all piece isPiece
    refine List.eq_nil_iff_forall_not_mem.mpr fun c held => ?_
    obtain ⟨kept, member⟩ := mem_splitAt isPiece c held
    rw [all c member] at kept
    cases kept

/-- The first piece is all of the text, or a member of the class stands behind it and the
other pieces are those of what follows. -/
theorem splitAt_eq_cons {α : Type} {inClass : α → Bool} {text word : List α}
    {later : List (List α)}
    (isSplit : splitAt inClass text = word :: later) :
    text = word ∧ later = [] ∨
      ∃ separator rest, inClass separator = true ∧ text = word ++ separator :: rest ∧
        later = splitAt inClass rest := by
  induction text generalizing word with
  | nil =>
    cases isSplit
    exact Or.inl ⟨rfl, rfl⟩
  | cons c rest inductionHypothesis =>
    rw [splitAt] at isSplit
    split at isSplit
    · next separated =>
      cases isSplit
      exact Or.inr ⟨c, rest, separated, rfl, rfl⟩
    · cases pieces : splitAt inClass rest with
      | nil => exact absurd pieces (splitAt_ne_nil _ _)
      | cons head others =>
        rw [pieces] at isSplit
        cases isSplit
        rcases inductionHypothesis pieces with ⟨rfl, isLast⟩ | ⟨separator, behind, rest⟩
        · exact Or.inl ⟨rfl, isLast⟩
        · obtain ⟨separated, rfl, isLater⟩ := rest
          exact Or.inr ⟨separator, behind, separated, rfl, isLater⟩

/-- The first piece is the only one that is not empty exactly if members of the class are
all that stands behind it. -/
theorem splitAt_eq_cons_iff {α : Type} {inClass : α → Bool} {text word : List α} :
    (∃ later, splitAt inClass text = word :: later ∧ ∀ piece ∈ later, piece = []) ↔
      (∀ c ∈ word, inClass c = false) ∧
        ∃ behind, text = word ++ behind ∧ ∀ c ∈ behind, inClass c = true := by
  constructor
  · rintro ⟨later, isSplit, empty⟩
    have isPiece : word ∈ splitAt inClass text := by
      rw [isSplit]
      exact List.mem_cons_self
    refine ⟨fun c member => (mem_splitAt isPiece c member).1, ?_⟩
    rcases splitAt_eq_cons isSplit with ⟨rfl, -⟩ | ⟨separator, rest, separated, isText, rfl⟩
    · exact ⟨[], (List.append_nil _).symm, List.forall_mem_nil _⟩
    · exact ⟨separator :: rest, isText,
        List.forall_mem_cons.mpr ⟨separated, splitAt_pieces_nil_iff.mp empty⟩⟩
  · rintro ⟨free, behind, rfl, all⟩
    cases behind with
    | nil =>
      rw [List.append_nil, splitAt_of_free free]
      exact ⟨[], rfl, List.forall_mem_nil _⟩
    | cons separator rest =>
      rw [List.forall_mem_cons] at all
      rw [splitAt_append all.1, splitAt_of_free free]
      exact ⟨splitAt inClass rest, rfl, splitAt_pieces_nil_iff.mpr all.2⟩

/-- Texts that differ in members of the classes only have the same pieces. -/
theorem splitAt_map {α : Type} {inClass alsoInClass : α → Bool} {change : α → α}
    {text : List α}
    (same : ∀ c ∈ text, alsoInClass (change c) = inClass c)
    (kept : ∀ c ∈ text, inClass c = false → change c = c) :
    splitAt alsoInClass (text.map change) = splitAt inClass text := by
  induction text with
  | nil => rfl
  | cons c rest inductionHypothesis =>
    rw [List.forall_mem_cons] at same kept
    rw [List.map_cons, splitAt, splitAt, same.1, inductionHypothesis same.2 kept.2]
    cases separated : inClass c with
    | true => rfl
    | false => rw [kept.1 separated]

/-- The maximal blank-free parts of a text, in order. -/
def words (text : List Char) : List (List Char) :=
  (splitAt isBlank text).filter (fun piece => !piece.isEmpty)

def dropStart? : (start text : List Char) → Option (List Char)
  | [], text => some text
  | _ :: _, [] => none
  | expected :: start, c :: text => if expected = c then dropStart? start text else none

theorem dropStart?_eq_some_iff {start text behind : List Char} :
    dropStart? start text = some behind ↔ text = start ++ behind := by
  induction start generalizing text with
  | nil => simp [dropStart?, eq_comm]
  | cons expected start inductionHypothesis =>
    cases text with
    | nil => simp [dropStart?]
    | cons c rest =>
      rw [dropStart?]
      split
      · next same => simp [inductionHypothesis, same]
      · next different => simp [Ne.symm different]

def dropEnd? (ending text : List Char) : Option (List Char) :=
  (dropStart? ending.reverse text.reverse).map List.reverse

/-- The part of a text in front of the first occurrence of a mark, and the
part behind it. -/
def cutAt? (mark : List Char) : List Char → Option (List Char × List Char)
  | [] => if mark.isEmpty then some ([], []) else none
  | c :: rest =>
    match dropStart? mark (c :: rest) with
    | some behind => some ([], behind)
    | none => (cutAt? mark rest).map fun (front, behind) => (c :: front, behind)

theorem length_le_of_dropStart? {start text behind : List Char}
    (dropped : dropStart? start text = some behind) : behind.length ≤ text.length := by
  fun_induction dropStart? start text with
  | case1 text =>
    simp only [Option.some.injEq] at dropped
    simp [dropped]
  | case2 => simp at dropped
  | case3 start expected text inductionHypothesis =>
    have shorter := inductionHypothesis dropped
    rw [List.length_cons]
    omega
  | case4 => simp at dropped

theorem length_le_of_cutAt? {mark text front behind : List Char}
    (cut : cutAt? mark text = some (front, behind)) : behind.length ≤ text.length := by
  induction text generalizing front with
  | nil =>
    rw [cutAt?] at cut
    split at cut
    · simp only [Option.some.injEq, Prod.mk.injEq] at cut
      simp [← cut.2]
    · simp at cut
  | cons c rest inductionHypothesis =>
    rw [cutAt?] at cut
    split at cut
    · next dropped =>
      simp only [Option.some.injEq, Prod.mk.injEq] at cut
      rw [← cut.2]
      exact length_le_of_dropStart? dropped
    · obtain ⟨inner, innerCut, pairEqual⟩ := Option.map_eq_some_iff.mp cut
      simp only [Prod.mk.injEq] at pairEqual
      have shorter := inductionHypothesis (innerCut.trans (by rw [← pairEqual.2]))
      rw [List.length_cons]
      omega

/-- The number of bytes that a text takes when it is stored. -/
def byteLength : List Char → Nat
  | [] => 0
  | c :: rest => c.utf8Size + byteLength rest

end IconForge.Text
