import IconForge.Yaml.Token
import Mathlib.Data.List.Basic

/-!
Contract: reading the tokens of a document one after another.

Owns:
- the columns that texts end in;
- moving on in a text, and what indentation ends;
- tokens that are read one after another, and that there is always enough fuel
  for them.

Main statement: `tokensOf_of_reads`.

Does not own: how any token is written.
-/

namespace IconForge.Yaml

/-! ### Places -/

section Places

variable {mark : Mark} {text : List Char} {column : Nat}

/-- The column behind a text that starts in a column. -/
def columnBehind (column : Nat) (text : List Char) : Nat :=
  text.foldl (fun reached c => if isBreak c then 0 else reached + 1) column

@[simp] theorem columnBehind_append (column : Nat) (front back : List Char) :
    columnBehind column (front ++ back) = columnBehind (columnBehind column front) back :=
  List.foldl_append

theorem columnBehind_of_unbroken (unbroken : ∀ c ∈ text, isBreak c = false) :
    columnBehind column text = column + text.length := by
  induction text generalizing column with
  | nil => rfl
  | cons c rest inductionHypothesis =>
    rw [List.forall_mem_cons] at unbroken
    rw [columnBehind, List.foldl_cons, if_neg (by simp [unbroken.1]), ← columnBehind,
      inductionHypothesis unbroken.2, List.length_cons]
    omega

theorem column_afterAll (mark : Mark) (text : List Char) :
    (mark.afterAll text).column = columnBehind mark.column text := by
  induction text generalizing mark with
  | nil => rfl
  | cons c rest inductionHypothesis =>
    rw [Mark.afterAll, List.foldl_cons, ← Mark.afterAll, inductionHypothesis, columnBehind,
      columnBehind, List.foldl_cons, Mark.after]
    split <;> rfl

theorem index_afterAll (mark : Mark) (text : List Char) :
    (mark.afterAll text).index = mark.index + text.length := by
  induction text generalizing mark with
  | nil => rfl
  | cons c rest inductionHypothesis =>
    have next : (mark.after c).index = mark.index + 1 := by
      unfold Mark.after
      split <;> rfl
    rw [Mark.afterAll, List.foldl_cons, ← Mark.afterAll, inductionHypothesis, next,
      List.length_cons]
    omega

theorem line_afterAll (unbroken : ∀ c ∈ text, isBreak c = false) :
    (mark.afterAll text).line = mark.line := by
  induction text generalizing mark with
  | nil => rfl
  | cons c rest inductionHypothesis =>
    rw [List.forall_mem_cons] at unbroken
    rw [Mark.afterAll, List.foldl_cons, ← Mark.afterAll, inductionHypothesis unbroken.2,
      Mark.after, if_neg (by simp [unbroken.1])]

end Places

namespace Scan

/-- What the tokens that have been read are. -/
def kinds (scan : Scan) : List TokenKind :=
  scan.tokens.map Token.kind

/-- What the tokens are once everything is closed that is indented as far as a limit. -/
def closedKinds (limit : Nat) (scan : Scan) : List TokenKind :=
  scan.kinds ++ List.replicate
    (scan.columns.length - (columnsWithin limit scan.columns).length) .linesEnd

/-- Nothing has to be a key but what comes next. -/
structure IsFree (scan : Scan) : Prop where
  outer : ∀ candidate ∈ scan.outer, candidate = none
  candidate : ∀ candidate, scan.candidate = some candidate → candidate.demanded = false

variable {scan behind : Scan} {kind : TokenKind} {passed rest : List Char} {limit : Nat}

/-! ### Moving on -/

theorem moveTo_eq (parts : scan.rest = passed ++ rest) :
    scan.moveTo rest = { scan with rest := rest, mark := scan.mark.afterAll passed } := by
  have isPassed : scan.rest.take (scan.rest.length - rest.length) = passed := by
    rw [parts, List.length_append, Nat.add_sub_cancel, List.take_left]
  unfold moveTo
  simp only [isPassed]

theorem moveTo_self (scan : Scan) : scan.moveTo scan.rest = scan :=
  moveTo_eq (List.nil_append _).symm

theorem kinds_emit : (scan.emit kind rest).kinds = scan.kinds ++ [kind] := by
  unfold kinds emit
  simp [moveTo]

theorem kinds_insertHere : (scan.insertHere kind).kinds = scan.kinds ++ [kind] := by
  unfold kinds insertHere
  simp

theorem rest_emit : (scan.emit kind rest).rest = rest := rfl

theorem columns_emit : (scan.emit kind rest).columns = scan.columns := rfl

theorem candidate_emit : (scan.emit kind rest).candidate = scan.candidate := rfl

theorem outer_emit : (scan.emit kind rest).outer = scan.outer := rfl

theorem allowsKey_emit : (scan.emit kind rest).allowsKey = scan.allowsKey := rfl

theorem mark_emit (parts : scan.rest = passed ++ rest) :
    (scan.emit kind rest).mark = scan.mark.afterAll passed := by
  unfold emit
  simp only [moveTo_eq parts]

theorem isFinished_iff_kinds : scan.isFinished = true ↔ scan.kinds.getLast? = some .textEnd := by
  unfold isFinished kinds
  rw [List.getLast?_map, beq_iff_eq]

@[simp] theorem candidate_skip : scan.skip.candidate = scan.candidate := rfl

@[simp] theorem outer_skip : scan.skip.outer = scan.outer := rfl

/-! ### What may be a key -/

theorem mapM_refresh? {mark : Mark} {outer : List (Option Candidate)}
    (none : ∀ candidate ∈ outer, candidate = none) : outer.mapM (refresh? mark) = some outer := by
  induction outer with
  | nil => rfl
  | cons candidate others inductionHypothesis =>
    rw [List.forall_mem_cons] at none
    rw [List.mapM_cons, none.1, inductionHypothesis none.2]
    rfl

theorem eq_none_of_outside (outside : scan.outer = []) :
    ∀ candidate ∈ scan.outer, candidate = none := by
  rw [outside]
  exact fun _ member => absurd member List.not_mem_nil

/-- Outside of brackets nothing goes that may still be completed. -/
theorem dropStale?_of_outside (outside : scan.outer = [])
    (stays : Scan.refresh? scan.mark scan.candidate = some scan.candidate) :
    scan.dropStale? = some scan := by
  unfold dropStale?
  rw [mapM_refresh? (eq_none_of_outside outside), stays]
  rfl

theorem undemanded_none (candidate : Candidate) (isSome : none = some candidate) :
    candidate.demanded = false := by
  cases isSome

/-- What need not be a key goes or stays. -/
theorem dropStale?_of_isFree (free : scan.IsFree) :
    ∃ candidate, scan.dropStale? = some { scan with candidate := candidate } ∧
      ({ scan with candidate := candidate } : Scan).IsFree := by
  unfold dropStale?
  rw [mapM_refresh? free.outer]
  cases given : scan.candidate with
  | none => exact ⟨none, rfl, free.outer, undemanded_none⟩
  | some present =>
    have undemanded := free.candidate present given
    by_cases stale : isStale scan.mark present = true
    · refine ⟨none, ?_, free.outer, undemanded_none⟩
      simp [refresh?, stale, undemanded]
    · refine ⟨some present, ?_, free.outer, ?_⟩
      · simp [refresh?, stale]
      · intro candidate same
        cases same
        exact undemanded

theorem dropCandidate?_of_isFree (free : scan.IsFree) :
    scan.dropCandidate? = some { scan with candidate := none } := by
  unfold dropCandidate?
  split
  · next candidate given =>
    rw [if_neg (by simp [free.candidate candidate given])]
  · next given =>
    rw [← given]

/-! ### Indentation -/

theorem kinds_unindent (noBrackets : scan.outer = []) :
    (scan.unindent limit).kinds = scan.closedKinds limit := by
  have outside : scan.inBrackets = false := by
    rw [inBrackets, noBrackets]
    rfl
  unfold unindent closedKinds kinds
  rw [if_neg (by simp [outside])]
  simp

theorem columns_unindent (noBrackets : scan.outer = []) :
    (scan.unindent limit).columns = columnsWithin limit scan.columns := by
  have outside : scan.inBrackets = false := by
    rw [inBrackets, noBrackets]
    rfl
  unfold unindent
  rw [if_neg (by simp [outside])]

@[simp] theorem rest_unindent : (scan.unindent limit).rest = scan.rest := by
  unfold unindent
  split <;> rfl

@[simp] theorem mark_unindent : (scan.unindent limit).mark = scan.mark := by
  unfold unindent
  split <;> rfl

@[simp] theorem candidate_unindent : (scan.unindent limit).candidate = scan.candidate := by
  unfold unindent
  split <;> rfl

@[simp] theorem outer_unindent : (scan.unindent limit).outer = scan.outer := by
  unfold unindent
  split <;> rfl

@[simp] theorem allowsKey_unindent : (scan.unindent limit).allowsKey = scan.allowsKey := by
  unfold unindent
  split <;> rfl

/-- Nothing ends where all open columns are in front of a limit. -/
theorem unindent_of_within (within : columnsWithin limit scan.columns = scan.columns) :
    scan.unindent limit = scan := by
  unfold unindent
  split
  · rfl
  · simp only [within, Nat.sub_self, List.replicate_zero, List.append_nil]

/-! ### One token after another -/

theorem IsFree.skip (free : scan.IsFree) : scan.skip.IsFree :=
  ⟨free.outer, free.candidate⟩

/-- The next token is read behind what is skipped, once what is indented further has been
closed; what cannot be a key any more may have gone. -/
theorem next?_eq (free : scan.IsFree) (notEmpty : scan.skip.rest ≠ []) :
    ∃ candidate, (∀ present, candidate = some present → present.demanded = false) ∧
      scan.next? = (({ scan.skip with candidate := candidate } : Scan).unindent
        (scan.skip.mark.column + 1)).readToken? := by
  obtain ⟨candidate, drops, isFree⟩ := dropStale?_of_isFree free.skip
  refine ⟨candidate, isFree.candidate, ?_⟩
  unfold next?
  rw [drops]
  simp only [Option.bind_eq_bind, Option.bind_some]
  rw [if_neg (by simpa using notEmpty)]

/-- Behind the last token everything that is open is closed. -/
theorem next?_end (free : scan.IsFree) (outside : scan.outer = []) (isEmpty : scan.skip.rest = []) :
    ∃ finished, scan.next? = some finished ∧
      finished.kinds = scan.closedKinds 0 ++ [.textEnd] := by
  obtain ⟨candidate, drops, isFree⟩ := dropStale?_of_isFree free.skip
  have closed : (({ scan.skip with candidate := candidate } : Scan).unindent 0).IsFree :=
    ⟨by simpa using isFree.outer, by simpa using isFree.candidate⟩
  unfold next?
  rw [drops]
  simp only [Option.bind_eq_bind, Option.bind_some]
  rw [if_pos (by simpa using isEmpty), readEnd?, dropCandidate?_of_isFree closed]
  refine ⟨_, rfl, ?_⟩
  have told : (({ scan.skip with candidate := candidate } : Scan).unindent 0).kinds =
      scan.closedKinds 0 :=
    kinds_unindent outside
  rw [kinds_insertHere]
  exact congrArg (· ++ [TokenKind.textEnd]) told

/-- Tokens are read one after another, each of them takes a part of the text, and none
of them is the end. -/
inductive Reads : Scan → Scan → Prop
  | refl (scan : Scan) : Reads scan scan
  | step {scan between behind : Scan} (reads : scan.next? = some between)
      (shorter : between.rest.length < scan.rest.length)
      (goesOn : between.kinds.getLast? ≠ some .textEnd) (more : Reads between behind) :
      Reads scan behind

theorem Reads.trans {between : Scan} (first : Reads scan between)
    (second : Reads between behind) : Reads scan behind := by
  induction first with
  | refl scan => exact second
  | step reads shorter goesOn more inductionHypothesis =>
    exact .step reads shorter goesOn (inductionHypothesis second)

/-- Fuel for the characters of a text is enough for its tokens. -/
theorem run_of_reads (reads : Reads scan behind) {fuel : Nat}
    (enough : scan.rest.length < fuel) :
    ∃ left, behind.rest.length < left ∧ run fuel scan = run left behind := by
  induction reads generalizing fuel with
  | refl scan => exact ⟨fuel, enough, rfl⟩
  | @step scan between behind reads shorter goesOn more inductionHypothesis =>
    obtain ⟨fuel, rfl⟩ := Nat.exists_eq_succ_of_ne_zero (Nat.ne_zero_of_lt enough)
    obtain ⟨left, stillEnough, runs⟩ :=
      inductionHypothesis (show between.rest.length < fuel by omega)
    refine ⟨left, stillEnough, ?_⟩
    rw [run, reads]
    simp only
    rw [if_neg (fun finished => goesOn (isFinished_iff_kinds.mp finished)), runs]

end Scan

theorem length_unifyBreaks_le (text : List Char) : (unifyBreaks text).length ≤ text.length := by
  induction text using unifyBreaks.induct with
  | case1 => exact Nat.le_refl 0
  | case2 rest inductionHypothesis =>
    rw [unifyBreaks, List.length_cons, List.length_cons, List.length_cons]
    omega
  | case3 c rest notPair inductionHypothesis =>
    rw [unifyBreaks, List.length_cons, List.length_cons]
    · omega
    · exact notPair

/-- The tokens of a text are those that are read one after another up to its end. -/
theorem tokensOf_of_reads {text : List Char} {behind finished : Scan}
    (reads : Scan.Reads (Scan.start (unifyBreaks text)) behind)
    (ends : behind.next? = some finished)
    (isEnd : finished.kinds.getLast? = some .textEnd) :
    tokensOf text = finished.tokens := by
  have enough : (Scan.start (unifyBreaks text)).rest.length < text.length + 1 := by
    have notLonger := length_unifyBreaks_le text
    unfold Scan.start
    simp only
    split
    · rw [List.length_tail]
      omega
    · omega
  obtain ⟨left, stillEnough, runs⟩ := Scan.run_of_reads reads enough
  obtain ⟨fuel, rfl⟩ := Nat.exists_eq_succ_of_ne_zero (Nat.ne_zero_of_lt stillEnough)
  rw [tokensOf, runs, Scan.run, ends]
  simp only
  rw [if_pos (Scan.isFinished_iff_kinds.mpr isEnd)]

end IconForge.Yaml
