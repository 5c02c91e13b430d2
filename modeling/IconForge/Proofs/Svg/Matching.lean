import IconForge.Proofs.Svg.Nesting

/-!
Contract: the elements that the reader holds open, beside the tree being built.

Owns:
- where the reader stands behind each event that it delivers;
- that it holds open what is being built and what is counted inside the element
  left out;
- what an end tag does with the element that the reader matches it with.

Main statements: `Cursor.exists_after`, `Building.matched_after`.

Does not own: how events are cut out of the text, and what is built of them.
-/

namespace IconForge.Svg

open IconForge.Text

/-- Where a document is being read: the elements that the reader holds open,
the innermost first, how many bytes are behind it, and the rest of the text. -/
structure Cursor where
  opened : List String
  offset : Nat
  rest : List Char
deriving DecidableEq, Repr

namespace Cursor

def ofDocument (text : List Char) : Cursor where
  opened := []
  offset := 0
  rest := withoutMark text

/-- The next event, and where the reader stands behind it. -/
def next? (cursor : Cursor) : Option (Delivery × Cursor) :=
  let start := cursor.offset + byteLength (cursor.rest.takeWhile isSpace)
  match cursor.rest.dropWhile isSpace with
  | [] => none
  | c :: behind =>
    if c = '<' then
      match readConstruct cursor.opened behind with
      | .error _ => none
      | .ok construct =>
        let stop := start + 1 + construct.length
        some (⟨construct.event, stop⟩, ⟨construct.opened, stop, construct.rest⟩)
    else
      let run := c :: behind.takeWhile (· != '<')
      let stop := start + byteLength run
      some (⟨.text (dropEndWhile isSpace run), stop⟩,
        ⟨cursor.opened, stop, behind.dropWhile (· != '<')⟩)

/-- Where the reader stands when it has delivered so many events. -/
def after? (cursor : Cursor) : Nat → Option Cursor
  | 0 => some cursor
  | count + 1 => cursor.next?.bind fun (_, next) => next.after? count

/-- All events that are delivered from here on. -/
def deliveries (cursor : Cursor) : List Delivery :=
  (readFrom cursor.opened cursor.offset cursor.rest).deliveries

variable {cursor next : Cursor} {delivery : Delivery}

theorem deliveries_ofDocument (text : List Char) :
    (ofDocument text).deliveries = (readDocument text).deliveries := by
  rw [readDocument_eq]
  rfl

/-- Reading event by event delivers what reading at once does. -/
theorem deliveries_eq (cursor : Cursor) :
    cursor.deliveries =
      match cursor.next? with
      | none => []
      | some (delivery, next) => delivery :: next.deliveries := by
  unfold deliveries next?
  rw [readFrom]
  cases start : cursor.rest.dropWhile isSpace with
  | nil => rfl
  | cons c behind =>
    by_cases isMarkup : c = '<'
    · simp only [if_pos isMarkup]
      cases readConstruct cursor.opened behind with
      | error fault => rfl
      | ok construct => rfl
    · simp only [if_neg isMarkup]

/-- The elements that the reader holds open are changed by start tags and end
tags only, and an end tag closes the innermost of them. -/
theorem opened?_of_next? (isNext : cursor.next? = some (delivery, next)) :
    delivery.event.opened? cursor.opened = some next.opened := by
  unfold next? at isNext
  split at isNext
  · cases isNext
  · next c behind start =>
    split at isNext
    · split at isNext
      · cases isNext
      · next construct read =>
        cases isNext
        exact opened?_of_from (from_of_readConstruct read)
    · cases isNext
      rfl

theorem exists_next_of_deliveries {rest : List Delivery}
    (delivers : cursor.deliveries = delivery :: rest) :
    ∃ next, cursor.next? = some (delivery, next) ∧ next.deliveries = rest := by
  rw [deliveries_eq] at delivers
  cases isNext : cursor.next? with
  | none =>
    rw [isNext] at delivers
    cases delivers
  | some pair =>
    obtain ⟨first, next⟩ := pair
    rw [isNext] at delivers
    obtain ⟨rfl, rfl⟩ := List.cons.inj delivers
    exact ⟨next, rfl, rfl⟩

/-- The reader gets past every event that it delivers, and holds open then what
the events behind it have left open. -/
theorem exists_after (cursor : Cursor) {count : Nat}
    (delivered : count ≤ cursor.deliveries.length) :
    ∃ reached, cursor.after? count = some reached ∧
      reached.deliveries = cursor.deliveries.drop count ∧
      openBehind? cursor.opened (cursor.deliveries.take count) = some reached.opened := by
  induction count generalizing cursor with
  | zero => exact ⟨cursor, rfl, rfl, rfl⟩
  | succ count inductionHypothesis =>
    cases delivers : cursor.deliveries with
    | nil =>
      rw [delivers] at delivered
      cases delivered
    | cons delivery rest =>
      obtain ⟨next, isNext, rfl⟩ := exists_next_of_deliveries delivers
      rw [delivers, List.length_cons] at delivered
      obtain ⟨reached, isReached, remaining, follows⟩ :=
        inductionHypothesis next (Nat.le_of_succ_le_succ delivered)
      refine ⟨reached, ?_, remaining, ?_⟩
      · rw [after?, isNext, Option.bind_some]
        exact isReached
      · rw [List.take_succ_cons, openBehind?_cons, opened?_of_next? isNext, Option.bind_some]
        exact follows

end Cursor

namespace Building

variable {mode : Mode} {building : Building} {opened hidden : List String}
  {delivery : Delivery} {name : String}

/-- What an end tag does with the element of a name which it closes: it is the
innermost of those being built, and what has been built of it is put where it
belongs; or it is the innermost of those left out, and is no longer counted. -/
inductive Closes (mode : Mode) (building : Building) (hidden : List String)
    (delivery : Delivery) (name : String) : Prop where
  | pops {element : OpenElement} {outer : List OpenElement} (reading : building.skipping = 0)
      (isOpened : building.opened = element :: outer) (named : element.name = name)
      (stepped : building.step mode delivery =
        attach mode { building with opened := outer } element.close)
  | counts {others : List String} (skipping : 0 < building.skipping)
      (isHidden : hidden = name :: others)
      (stepped : building.step mode delivery =
        .ok { building with skipping := building.skipping - 1 })

/-- An end tag that closes something is not passed over for want of an element. -/
theorem Closes.not_strays (closes : Closes mode building hidden delivery name) :
    ¬(building.skipping = 0 ∧ building.opened = []) := by
  rintro ⟨reading, noneOpened⟩
  cases closes with
  | pops _ isOpened =>
    rw [noneOpened] at isOpened
    cases isOpened
  | counts skipping => omega

/-- An end tag closes what the reader matches it with. -/
theorem Tracks.closes (tracks : Tracks mode building (name :: opened) hidden)
    (isEnd : delivery.event = .closing) : Closes mode building hidden delivery name := by
  obtain ⟨event, offset⟩ := delivery
  subst isEnd
  have isOpened := tracks.isOpened
  have counted := tracks.counted
  cases hidden with
  | cons innermost others =>
    obtain ⟨rfl, -⟩ := List.cons.inj isOpened
    have skipping : 0 < building.skipping := by
      rw [counted]
      exact Nat.succ_pos _
    exact .counts skipping rfl (step_of_advances (.skips skipping))
  | nil =>
    cases built : building.opened with
    | nil =>
      rw [List.nil_append, names, built] at isOpened
      cases isOpened
    | cons element outer =>
      rw [List.nil_append, names, built] at isOpened
      obtain ⟨rfl, -⟩ := List.cons.inj isOpened
      have reading : building.skipping = 0 := counted
      exact .pops reading built rfl (step_closing offset reading built)

/-- However many events have been taken in, the reader holds open the elements
being built and inside of them as many as are counted, the outermost of which is
one that cleaning leaves out. So every end tag closes what the reader matches it
with. -/
theorem matched_after (mode : Mode) (text : String) {count : Nat} {building : Building}
    (delivered : count ≤ (readDocument text.toList).deliveries.length)
    (run : ((readDocument text.toList).deliveries.take count).foldlM (Building.step mode) start =
      .ok building) :
    ∃ cursor hidden, (Cursor.ofDocument text.toList).after? count = some cursor ∧
      cursor.deliveries = (readDocument text.toList).deliveries.drop count ∧
      Tracks mode building cursor.opened hidden ∧
      ∀ delivery next, cursor.next? = some (delivery, next) → delivery.event = .closing →
        ∃ name, cursor.opened = name :: next.opened ∧
          Closes mode building hidden delivery name ∧
          ¬(building.skipping = 0 ∧ building.opened = []) := by
  rw [← Cursor.deliveries_ofDocument] at delivered run ⊢
  obtain ⟨cursor, isReached, remaining, follows⟩ := Cursor.exists_after _ delivered
  obtain ⟨hidden, tracks⟩ := (tracks_start mode).run follows run
  refine ⟨cursor, hidden, isReached, remaining, tracks, fun delivery next isNext isEnd => ?_⟩
  have matched := Cursor.opened?_of_next? isNext
  rw [isEnd] at matched
  cases isOpened : cursor.opened with
  | nil =>
    rw [isOpened] at matched
    cases matched
  | cons name outer =>
    rw [isOpened] at matched tracks
    cases matched
    have closes : Closes mode building hidden delivery name := tracks.closes isEnd
    exact ⟨name, rfl, closes, closes.not_strays⟩

/-- The end tag of a title that is left out is the one which ends the counting,
whatever tags stand in the title. -/
theorem matched_after_title :
    ∃ building hidden,
      ((readDocument "<svg><title><b/>t</title></svg>".toList).deliveries.take 4).foldlM
        (Building.step .cleaning) start = .ok building ∧
      (building.names, building.skipping) = (["svg"], 1) ∧
      Tracks .cleaning building ["title", "svg"] hidden ∧
      Closes .cleaning building hidden ⟨.closing, 25⟩ "title" := by
  have delivered :
      4 ≤ (readDocument "<svg><title><b/>t</title></svg>".toList).deliveries.length := by
    decide +kernel
  have succeeds :
      (((readDocument "<svg><title><b/>t</title></svg>".toList).deliveries.take 4).foldlM
        (Building.step .cleaning) start).toOption.map
          (fun building => (building.names, building.skipping)) = some (["svg"], 1) := by
    decide +kernel
  obtain ⟨building, isOk, counted⟩ := Option.map_eq_some_iff.mp succeeds
  have run := ok_of_toOption isOk
  obtain ⟨cursor, hidden, isReached, -, tracks, ends⟩ := matched_after .cleaning _ delivered run
  have stands : (Cursor.ofDocument "<svg><title><b/>t</title></svg>".toList).after? 4 =
      some ⟨["title", "svg"], 17, "</title></svg>".toList⟩ := by
    decide +kernel
  obtain rfl := Option.some.inj (isReached.symm.trans stands)
  have isNext : Cursor.next? ⟨["title", "svg"], 17, "</title></svg>".toList⟩ =
      some (⟨.closing, 25⟩, ⟨["svg"], 25, "</svg>".toList⟩) := by
    decide +kernel
  obtain ⟨name, isOpened, closes, -⟩ := ends _ _ isNext rfl
  obtain ⟨rfl, -⟩ := List.cons.inj isOpened
  exact ⟨building, hidden, run, counted, tracks, closes⟩

end Building

end IconForge.Svg
