import IconForge.Json5.Token

/-!
Contract: the comments in a script.

Owns:
- a scan through a script, character by character, which tells code from quoted texts and
  comments;
- the comments that a whole script has;
- what does not end the region that the scan stands in, and how a comment ends.

Main statements: `Passes.behind`, `comments?_of_passes`.

Does not own: regular expressions, whose slashes are taken for those of code, and code inside
quoted texts.
-/

namespace IconForge.Script.Comments

open IconForge.Json5 (isLineEnd)

/-- A comment, without the signs that it starts and ends with. -/
inductive Comment where
  | line (text : List Char)
  | block (text : List Char)
deriving DecidableEq, Repr

/-- Where a scan stands. -/
inductive Region where
  | code
  /-- In code, behind a slash. -/
  | slash
  | quoted (mark : Char)
  /-- In a quoted text, behind a backslash. -/
  | escaped (mark : Char)
  | line (text : List Char)
  | block (text : List Char)
  /-- In a comment that may go over several lines, behind a star. -/
  | star (text : List Char)
deriving DecidableEq, Repr

/-- The region that a scan is in, and the comments that it has gone through. -/
structure Scan where
  region : Region
  found : List Comment
deriving DecidableEq, Repr

def isQuote (c : Char) : Bool :=
  c == '"' || c == '\'' || c == '\x60'

/-- The region behind a character of code. -/
def behindCode (c : Char) : Region :=
  if c = '/' then .slash else if isQuote c then .quoted c else .code

namespace Region

/-- The region behind a character, and the comment that it ends, if it ends one. A line end may
stand in a quoted text only between the marks of a template, or behind a backslash. -/
def step? : Region → Char → Option (Region × List Comment)
  | code, c => some (behindCode c, [])
  | slash, c =>
    if c = '/' then some (line [], [])
    else if c = '*' then some (block [], [])
    else some (behindCode c, [])
  | quoted mark, c =>
    if c = mark then some (code, [])
    else if c = '\\' then some (escaped mark, [])
    else if (c = '\n' ∨ c = '\r') ∧ mark ≠ '\x60' then none
    else some (quoted mark, [])
  | escaped mark, _ => some (quoted mark, [])
  | line text, c =>
    if isLineEnd c then some (code, [.line text]) else some (line (text ++ [c]), [])
  | block text, c =>
    if c = '*' then some (star text, []) else some (block (text ++ [c]), [])
  | star text, c =>
    if c = '/' then some (code, [.block text])
    else if c = '*' then some (star (text ++ ['*']), [])
    else some (block (text ++ ['*', c]), [])

end Region

def Scan.step? (scan : Scan) (c : Char) : Option Scan :=
  (scan.region.step? c).map fun (region, ended) => ⟨region, scan.found ++ ended⟩

/-- The comments of a script. A script that ends in a quoted text or in a comment that has
no end is none. -/
def comments? (source : String) : Option (List Comment) := do
  let scan ← source.toList.foldlM Scan.step? ⟨.code, []⟩
  match scan.region with
  | .code | .slash => some scan.found
  | .line text => some (scan.found ++ [.line text])
  | _ => none

/-- A text over which a scan goes from one state to another. -/
def Passes (text : List Char) (before after : Scan) : Prop :=
  text.foldlM Scan.step? before = some after

instance (text : List Char) (before after : Scan) : Decidable (Passes text before after) :=
  inferInstanceAs (Decidable (_ = _))

variable {front back text kept : List Char} {before between after scan : Scan} {c mark : Char}
  {found : List Comment} {region next : Region}

theorem Passes.append (passesFront : Passes front before between)
    (passesBack : Passes back between after) : Passes (front ++ back) before after := by
  unfold Passes at passesFront passesBack ⊢
  rw [List.foldlM_append, passesFront]
  exact passesBack

theorem passes_cons (stepped : before.step? c = some between)
    (passes : Passes text between after) : Passes (c :: text) before after := by
  unfold Passes at passes ⊢
  rw [List.foldlM_cons, stepped]
  exact passes

/-- A state that every character of a text leaves as it is. -/
theorem passes_of_each (each : ∀ c ∈ text, scan.step? c = some scan) : Passes text scan scan := by
  induction text with
  | nil => rfl
  | cons c rest inductionHypothesis =>
    obtain ⟨here, restEach⟩ := List.forall_mem_cons.mp each
    exact passes_cons here (inductionHypothesis restEach)

theorem passes_flatMap {α : Type} {items : List α} {write : α → List Char}
    (each : ∀ item ∈ items, Passes (write item) scan scan) :
    Passes (items.flatMap write) scan scan := by
  induction items with
  | nil => rfl
  | cons item rest inductionHypothesis =>
    obtain ⟨here, restEach⟩ := List.forall_mem_cons.mp each
    rw [List.flatMap_cons]
    exact here.append (inductionHypothesis restEach)

/-! ### What ends no region -/

theorem step?_of_region (stepped : region.step? c = some (next, [])) :
    Scan.step? ⟨region, found⟩ c = some ⟨next, found⟩ := by
  simp only [Scan.step?, stepped, Option.map_some, List.append_nil]

theorem passes_code (plain : ∀ c ∈ text, behindCode c = .code) :
    Passes text ⟨.code, found⟩ ⟨.code, found⟩ := by
  refine passes_of_each fun c member => step?_of_region ?_
  rw [Region.step?, plain c member]

theorem passes_quoted
    (plain : ∀ c ∈ text, c ≠ mark ∧ c ≠ '\\' ∧ c ≠ '\n' ∧ c ≠ '\r') :
    Passes text ⟨.quoted mark, found⟩ ⟨.quoted mark, found⟩ := by
  refine passes_of_each fun c member => step?_of_region ?_
  obtain ⟨notMark, notEscaping, notLineFeed, notReturn⟩ := plain c member
  rw [Region.step?, if_neg notMark, if_neg notEscaping,
    if_neg fun breaks => breaks.1.elim notLineFeed notReturn]

/-! ### What stays in a comment -/

/-- A text that a comment goes on over. -/
def Stays (text : List Char) : Prop :=
  ∀ kept found, Passes text ⟨.block kept, found⟩ ⟨.block (kept ++ text), found⟩

theorem Stays.append (staysFront : Stays front) (staysBack : Stays back) :
    Stays (front ++ back) := by
  intro kept found
  have passes := (staysFront kept found).append (staysBack (kept ++ front) found)
  rw [List.append_assoc] at passes
  exact passes

theorem stays_of_no_star (noStar : '*' ∉ text) : Stays text := by
  intro kept found
  induction text generalizing kept with
  | nil =>
    rw [List.append_nil]
    rfl
  | cons c rest inductionHypothesis =>
    rw [List.mem_cons, not_or] at noStar
    have stepped : Region.step? (.block kept) c = some (.block (kept ++ [c]), []) := by
      rw [Region.step?, if_neg (Ne.symm noStar.1)]
    have passes := passes_cons (step?_of_region stepped)
      (inductionHypothesis noStar.2 (kept ++ [c]))
    rw [List.append_assoc, List.singleton_append] at passes
    exact passes

/-- A star may stand in a comment in front of anything but a slash or a further star. -/
theorem stays_star (notSlash : c ≠ '/') (notStar : c ≠ '*') : Stays ['*', c] := by
  intro kept found
  have star : Region.step? (.block kept) '*' = some (.star kept, []) := rfl
  have behind : Region.step? (.star kept) c = some (.block (kept ++ ['*', c]), []) := by
    rw [Region.step?, if_neg notSlash, if_neg notStar]
  exact passes_cons (step?_of_region star) (passes_cons (step?_of_region behind) rfl)

theorem stays_flatMap {α : Type} {items : List α} {write : α → List Char}
    (each : ∀ item ∈ items, Stays (write item)) : Stays (items.flatMap write) := by
  induction items with
  | nil => exact stays_of_no_star List.not_mem_nil
  | cons item rest inductionHypothesis =>
    obtain ⟨here, restEach⟩ := List.forall_mem_cons.mp each
    exact here.append (inductionHypothesis restEach)

theorem passes_blockEnd :
    Passes ['*', '/'] ⟨.block kept, found⟩ ⟨.code, found ++ [.block kept]⟩ := by
  have star : Region.step? (.block kept) '*' = some (.star kept, []) := rfl
  exact passes_cons (step?_of_region star) (passes_cons rfl rfl)

/-! ### Comments that have been found before -/

/-- Comments that have been found before do not matter. -/
theorem Passes.behind (earlier : List Comment) (passes : Passes text before after) :
    Passes text ⟨before.region, earlier ++ before.found⟩
      ⟨after.region, earlier ++ after.found⟩ := by
  induction text generalizing before with
  | nil =>
    cases passes
    rfl
  | cons c rest inductionHypothesis =>
    unfold Passes at passes
    rw [List.foldlM_cons] at passes
    obtain ⟨middle, stepped, restPasses⟩ := Option.bind_eq_some_iff.mp passes
    obtain ⟨⟨region, ended⟩, regionStepped, rfl⟩ := Option.map_eq_some_iff.mp stepped
    refine passes_cons ?_ (inductionHypothesis restPasses)
    simp only [Scan.step?, regionStepped, Option.map_some, List.append_assoc]

theorem comments?_of_passes {source : String}
    (passes : Passes source.toList ⟨.code, []⟩ ⟨.code, found⟩) : comments? source = some found := by
  unfold Passes at passes
  rw [comments?, passes]
  rfl

end IconForge.Script.Comments
