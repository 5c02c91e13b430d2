import IconForge.Proofs.Svg.Building
import Mathlib.Data.List.Induction

/-!
Contract: the elements that are open while a document is read.

Owns:
- start tags with their end tags, and the elements that events leave open;
- that the open elements are those being built and, around which nothing else
  is built, those inside the one left out;
- accepted documents that end inside an element.

Main statements: `Tracks.run`, `closed_of_accepted`.

Does not own: what is built of the elements.
-/

namespace IconForge.Svg

/-! ### Start tags and end tags -/

/-- Events of which every start tag is followed by its end tag. The tags between
the two belong together among themselves. -/
inductive Closed : List Delivery → Prop where
  | nothing : Closed []
  | other {delivery : Delivery} {rest : List Delivery}
      (noStart : ∀ tag, delivery.event ≠ .opening tag) (noEnd : delivery.event ≠ .closing)
      (following : Closed rest) : Closed (delivery :: rest)
  | element {tag : Tag} {start stop : Nat} {inside rest : List Delivery} (within : Closed inside)
      (following : Closed rest) :
      Closed (⟨.opening tag, start⟩ :: (inside ++ ⟨.closing, stop⟩ :: rest))

/-- The events behind a start tag hold its end tag. -/
def EndsElement (behind : List Delivery) : Prop :=
  ∃ inside stop rest, behind = inside ++ ⟨.closing, stop⟩ :: rest ∧ Closed inside

/-- The elements that are open behind events, the innermost first; none if an
end tag finds nothing to close. -/
def openBehind? (opened : List String) (deliveries : List Delivery) : Option (List String) :=
  deliveries.foldlM (fun opened delivery => delivery.event.opened? opened) opened

/-- Events behind which some elements are still open, the innermost first. -/
inductive LeavesOpen : List Delivery → List String → Prop where
  | nothing {deliveries : List Delivery} (closed : Closed deliveries) : LeavesOpen deliveries []
  | element {front inside : List Delivery} {opened : List String} {tag : Tag} {offset : Nat}
      (outside : LeavesOpen front opened) (within : Closed inside) :
      LeavesOpen (front ++ ⟨.opening tag, offset⟩ :: inside) (tag.name :: opened)

variable {mode : Mode} {opened inner hidden : List String} {front behind deliveries : List Delivery}
  {delivery : Delivery} {tag : Tag} {name : String} {offset : Nat} {building next final : Building}

theorem openBehind?_append (opened : List String) (front behind : List Delivery) :
    openBehind? opened (front ++ behind) =
      (openBehind? opened front).bind fun inner => openBehind? inner behind :=
  List.foldlM_append ..

theorem openBehind?_cons (opened : List String) (delivery : Delivery) (rest : List Delivery) :
    openBehind? opened (delivery :: rest) =
      (delivery.event.opened? opened).bind fun inner => openBehind? inner rest :=
  List.foldlM_cons ..

theorem exists_openBehind? (nested : Nested opened deliveries) :
    ∃ inner, openBehind? opened deliveries = some inner := by
  induction deliveries generalizing opened with
  | nil => exact ⟨opened, rfl⟩
  | cons delivery rest inductionHypothesis =>
    obtain ⟨between, follows, restNested⟩ := nested
    rw [openBehind?_cons, follows]
    exact inductionHypothesis restNested

namespace Closed

theorem append (closed : Closed front) (alsoClosed : Closed behind) : Closed (front ++ behind) := by
  induction closed with
  | nothing => exact alsoClosed
  | other noStart noEnd _ inductionHypothesis => exact .other noStart noEnd inductionHypothesis
  | element within _ _ inductionHypothesis =>
    rw [List.cons_append, List.append_assoc, List.cons_append]
    exact .element within inductionHypothesis

/-- What belongs together leaves open what was open before. -/
theorem openBehind?_eq (closed : Closed deliveries) (opened : List String) :
    openBehind? opened deliveries = some opened := by
  induction closed generalizing opened with
  | nothing => rfl
  | @other delivery rest noStart noEnd _ inductionHypothesis =>
    have unchanged : delivery.event.opened? opened = some opened := by
      unfold Event.opened?
      split
      · next tag isStart => exact absurd isStart (noStart tag)
      · next isEnd => exact absurd isEnd noEnd
      · rfl
    rw [openBehind?_cons, unchanged]
    exact inductionHypothesis opened
  | @element tag start stop inside rest _ _ insideHypothesis restHypothesis =>
    have entered : (Event.opening tag).opened? opened = some (tag.name :: opened) := rfl
    have left : Event.closing.opened? (tag.name :: opened) = some opened := rfl
    rw [openBehind?_cons, entered, Option.bind_some, openBehind?_append, insideHypothesis,
      Option.bind_some, openBehind?_cons, left]
    exact restHypothesis opened

/-- Every start tag among events that belong together has its end tag behind
it. -/
theorem endsElement (closed : Closed (front ++ ⟨.opening tag, offset⟩ :: behind)) :
    EndsElement behind := by
  generalize whole : front ++ ⟨.opening tag, offset⟩ :: behind = deliveries at closed
  induction closed generalizing front behind with
  | nothing => exact absurd whole (by simp)
  | other noStart noEnd _ inductionHypothesis =>
    cases front with
    | nil =>
      cases whole
      exact absurd rfl (noStart tag)
    | cons first front =>
      obtain ⟨-, rest⟩ := List.cons.inj whole
      exact inductionHypothesis rest
  | @element other start stop inside rest within _ insideHypothesis restHypothesis =>
    cases front with
    | nil =>
      cases whole
      exact ⟨inside, stop, rest, rfl, within⟩
    | cons first front =>
      obtain ⟨-, split⟩ := List.cons.inj whole
      rcases List.append_eq_append_iff.mp split with ⟨middle, isInside, isBehind⟩ |
        ⟨middle, -, isRest⟩
      · cases middle with
        | nil => cases isBehind
        | cons found middle =>
          obtain ⟨rfl, rfl⟩ := List.cons.inj isBehind
          obtain ⟨nested, innerStop, others, rfl, closed⟩ := insideHypothesis isInside.symm
          exact ⟨nested, innerStop, others ++ ⟨.closing, stop⟩ :: rest,
            List.append_assoc .., closed⟩
      · cases middle with
        | nil => cases isRest
        | cons found middle =>
          obtain ⟨rfl, isBehind⟩ := List.cons.inj isRest
          exact restHypothesis isBehind.symm

end Closed

namespace LeavesOpen

theorem append (leaves : LeavesOpen front opened) (closed : Closed behind) :
    LeavesOpen (front ++ behind) opened := by
  cases leaves with
  | nothing frontClosed => exact .nothing (frontClosed.append closed)
  | element outside within =>
    rw [List.append_assoc, List.cons_append]
    exact .element outside (within.append closed)

theorem openBehind?_eq (leaves : LeavesOpen deliveries opened) :
    openBehind? [] deliveries = some opened := by
  induction leaves with
  | nothing closed => exact closed.openBehind?_eq []
  | element _ within inductionHypothesis =>
    rw [openBehind?_append, inductionHypothesis, Option.bind_some, openBehind?_cons]
    exact within.openBehind?_eq _

theorem closed (leaves : LeavesOpen deliveries []) : Closed deliveries := by
  cases leaves with
  | nothing closed => exact closed

/-- One event more opens an element, closes the innermost one, or does neither. -/
theorem concat (leaves : LeavesOpen deliveries opened)
    (follows : delivery.event.opened? opened = some inner) :
    LeavesOpen (deliveries ++ [delivery]) inner := by
  obtain ⟨event, offset⟩ := delivery
  have unchanged (noStart : ∀ tag, event ≠ .opening tag) (noEnd : event ≠ .closing) :
      LeavesOpen (deliveries ++ [⟨event, offset⟩]) opened :=
    leaves.append (.other noStart noEnd .nothing)
  cases event with
  | opening tag =>
    cases follows
    exact .element leaves .nothing
  | closing =>
    cases leaves with
    | nothing _ => cases follows
    | @element front inside outer tag start outside within =>
      cases follows
      have whole : Closed (⟨.opening tag, start⟩ :: (inside ++ [⟨.closing, offset⟩])) :=
        .element within .nothing
      rw [List.append_assoc, List.cons_append]
      exact outside.append whole
  | selfClosing tag | text raw | characterData value | aside =>
    cases follows
    exact unchanged (by simp) (by simp)

/-- The outermost element that is left open: nothing else is open in front of
its start tag, and behind that it is not closed. -/
theorem exists_outermost (leaves : LeavesOpen deliveries (inner ++ [name])) :
    ∃ front tag offset behind, deliveries = front ++ ⟨.opening tag, offset⟩ :: behind ∧
      tag.name = name ∧ Closed front ∧ LeavesOpen behind inner := by
  generalize isOpened : inner ++ [name] = opened at leaves
  induction leaves generalizing inner with
  | nothing _ => exact absurd isOpened (by simp)
  | @element front inside outer tag offset outside within inductionHypothesis =>
    cases inner with
    | nil =>
      obtain ⟨named, noneOpened⟩ := List.cons.inj isOpened
      subst noneOpened
      exact ⟨front, tag, offset, inside, rfl, named.symm, outside.closed, .nothing within⟩
    | cons innermost inner =>
      obtain ⟨rfl, isOuter⟩ := List.cons.inj isOpened
      obtain ⟨before, first, start, between, rfl, named, closed, leaves⟩ :=
        inductionHypothesis isOuter
      refine ⟨before, first, start, between ++ ⟨.opening tag, offset⟩ :: inside, ?_, named, closed,
        .element leaves within⟩
      rw [List.append_assoc, List.cons_append]

end LeavesOpen

theorem leavesOpen_of_openBehind? (isOpened : openBehind? [] deliveries = some opened) :
    LeavesOpen deliveries opened := by
  induction deliveries using List.reverseRecOn generalizing opened with
  | nil =>
    cases isOpened
    exact .nothing .nothing
  | append_singleton deliveries delivery inductionHypothesis =>
    rw [openBehind?_append] at isOpened
    obtain ⟨before, isBefore, follows⟩ := Option.bind_eq_some_iff.mp isOpened
    rw [openBehind?_cons] at follows
    obtain ⟨behind, follows, same⟩ := Option.bind_eq_some_iff.mp follows
    cases same
    exact (inductionHypothesis isBefore).concat follows

/-! ### Open elements while a tree is built -/

namespace Building

theorem name_of_openElement {element : OpenElement}
    (isOpened : openElement mode tag = .ok element) : element.name = tag.name := by
  unfold openElement at isOpened
  cases read : tag.attributes with
  | error error =>
    rw [read] at isOpened
    cases isOpened
  | ok attributes =>
    rw [read] at isOpened
    cases isOpened
    rfl

/-- A run that succeeds passes through what its first events have built. -/
theorem exists_between_of_run
    (run : (front ++ behind).foldlM (Building.step mode) building = .ok final) :
    ∃ next, front.foldlM (Building.step mode) building = .ok next ∧
      behind.foldlM (Building.step mode) next = .ok final := by
  rw [List.foldlM_append] at run
  cases frontRun : front.foldlM (Building.step mode) building with
  | error error =>
    rw [frontRun] at run
    cases run
  | ok next =>
    rw [frontRun] at run
    exact ⟨next, rfl, run⟩

theorem exists_step_of_run
    (run : (delivery :: behind).foldlM (Building.step mode) building = .ok final) :
    ∃ next, building.step mode delivery = .ok next ∧
      behind.foldlM (Building.step mode) next = .ok final := by
  rw [← List.singleton_append] at run
  obtain ⟨next, firstRun, restRun⟩ := exists_between_of_run run
  simp only [List.foldlM_cons, List.foldlM_nil, bind_pure] at firstRun
  exact ⟨next, firstRun, restRun⟩

/-- Putting a node somewhere opens and closes nothing. -/
theorem names_of_attach {node : Node} (attached : building.attach mode node = .ok next) :
    next.names = building.names ∧ next.skipping = building.skipping := by
  unfold attach at attached
  split at attached
  · cases attached
    exact ⟨rfl, rfl⟩
  · split at attached
    · next parent outer isOpened =>
      cases attached
      refine ⟨?_, rfl⟩
      unfold names
      rw [isOpened]
      rfl
    · split at attached
      · cases attached
      · cases attached
        exact ⟨rfl, rfl⟩

/-- The open elements of a document, the innermost first, are those of which
cleaning leaves out the outermost with all that is inside it, and behind them
those that are being built. As many as are left out are counted. -/
structure Tracks (mode : Mode) (building : Building) (opened hidden : List String) : Prop where
  isOpened : opened = hidden ++ building.names
  counted : building.skipping = hidden.length
  outermost : ∀ name ∈ hidden.getLast?, mode = .cleaning ∧ isDroppedElement name = true

theorem tracks_start (mode : Mode) : Tracks mode start [] [] where
  isOpened := rfl
  counted := rfl
  outermost _ isLast := nomatch isLast

namespace Tracks

theorem of_names (tracks : Tracks mode building opened hidden)
    (same : next.names = building.names ∧ next.skipping = building.skipping) :
    Tracks mode next opened hidden where
  isOpened := same.1 ▸ tracks.isOpened
  counted := same.2.trans tracks.counted
  outermost := tracks.outermost

/-- Inside of what is left out, only the count changes. -/
theorem skip (tracks : Tracks mode building opened (name :: hidden)) {event : Event}
    (follows : event.opened? opened = some inner) :
    ∃ hidden, Tracks mode { building with skipping := skipped building.skipping event } inner
      hidden := by
  have isOpened := tracks.isOpened
  have counted := tracks.counted
  cases event with
  | opening tag =>
    cases follows
    exact ⟨tag.name :: name :: hidden, congrArg (tag.name :: ·) isOpened,
      congrArg (· + 1) counted, tracks.outermost⟩
  | closing =>
    subst isOpened
    cases follows
    refine ⟨hidden, rfl, congrArg (· - 1) counted, fun last isLast => ?_⟩
    refine tracks.outermost last ?_
    rw [List.getLast?_cons, Option.mem_def.mp isLast]
    exact rfl
  | selfClosing tag | text raw | characterData value | aside =>
    cases follows
    exact ⟨name :: hidden, isOpened, counted, tracks.outermost⟩

/-- Whatever a step does, the open elements stay those that are left out and
those that are being built; in particular every end tag closes one of them. -/
theorem step (tracks : Tracks mode building opened hidden)
    (follows : delivery.event.opened? opened = some inner)
    (stepped : building.step mode delivery = .ok next) :
    ∃ hidden, Tracks mode next inner hidden := by
  obtain ⟨event, offset⟩ := delivery
  have advances : Advances mode building event next := advances_of_step stepped
  have noneHidden (reading : building.skipping = 0) : hidden = [] :=
    List.length_eq_zero_iff.mp (tracks.counted.symm.trans reading)
  cases advances with
  | skips skipping =>
    cases hidden with
    | nil =>
      have noneCounted : building.skipping = 0 := tracks.counted
      omega
    | cons innermost others => exact tracks.skip follows
  | hides reading isOpened dropped =>
    obtain rfl := noneHidden reading
    cases follows
    rw [name_of_openElement isOpened] at dropped
    refine ⟨[_], congrArg _ tracks.isOpened, rfl, fun name isLast => ?_⟩
    cases isLast
    exact dropped
  | enters reading isOpened visible =>
    obtain rfl := noneHidden reading
    cases follows
    refine ⟨[], ?_, tracks.counted, tracks.outermost⟩
    show _ :: opened = _ :: building.names
    rw [name_of_openElement isOpened, tracks.isOpened, List.nil_append]
  | inserts reading isOpened visible attached =>
    cases follows
    exact ⟨hidden, tracks.of_names (names_of_attach attached)⟩
  | strays reading noneOpened =>
    obtain rfl := noneHidden reading
    have noneNamed : opened = [] := by
      rw [tracks.isOpened, names, noneOpened]
      rfl
    subst noneNamed
    cases follows
  | @leaves element outer next reading isOpened attached =>
    obtain rfl := noneHidden reading
    have named : opened = element.name :: outer.map OpenElement.name := by
      rw [tracks.isOpened, names, isOpened]
      rfl
    subst named
    cases follows
    obtain ⟨sameNames, sameSkipping⟩ := names_of_attach attached
    exact ⟨[], sameNames.symm, sameSkipping.trans tracks.counted, tracks.outermost⟩
  | writes reading resolved pushed =>
    cases follows
    obtain ⟨-, sameSkipping, sameNames⟩ := pushText_marks pushed
    exact ⟨hidden, tracks.of_names ⟨sameNames, sameSkipping⟩⟩
  | copies reading pushed =>
    cases follows
    obtain ⟨-, sameSkipping, sameNames⟩ := pushText_marks pushed
    exact ⟨hidden, tracks.of_names ⟨sameNames, sameSkipping⟩⟩
  | omits | passes =>
    cases follows
    exact ⟨hidden, tracks⟩

theorem run (tracks : Tracks mode building opened hidden)
    (follows : openBehind? opened deliveries = some inner)
    (run : deliveries.foldlM (Building.step mode) building = .ok final) :
    ∃ hidden, Tracks mode final inner hidden := by
  induction deliveries generalizing building opened hidden with
  | nil =>
    cases follows
    cases run
    exact ⟨hidden, tracks⟩
  | cons delivery rest inductionHypothesis =>
    rw [openBehind?_cons] at follows
    obtain ⟨between, follows, restFollows⟩ := Option.bind_eq_some_iff.mp follows
    obtain ⟨middle, stepped, restRun⟩ := exists_step_of_run run
    obtain ⟨middleHidden, tracksMiddle⟩ := tracks.step follows stepped
    exact inductionHypothesis tracksMiddle restFollows restRun

end Tracks

/-- A run that stays inside the element left out changes nothing but the
count. -/
theorem run_skipping (follows : openBehind? opened deliveries = some inner)
    (counted : building.skipping = opened.length + 1) :
    deliveries.foldlM (Building.step mode) building =
      .ok { building with skipping := inner.length + 1 } := by
  induction deliveries generalizing building opened with
  | nil =>
    cases follows
    rw [← counted]
    rfl
  | cons delivery rest inductionHypothesis =>
    rw [openBehind?_cons] at follows
    obtain ⟨between, follows, restFollows⟩ := Option.bind_eq_some_iff.mp follows
    have stillCounted : skipped building.skipping delivery.event = between.length + 1 := by
      rw [counted]
      unfold Event.opened? at follows
      split at follows
      · next tag isStart =>
        cases follows
        rw [isStart]
        rfl
      · next isEnd =>
        split at follows
        · cases follows
        · cases follows
          rw [isEnd]
          rfl
      · next noStart noEnd =>
        cases follows
        unfold skipped
        split
        · next tag isStart => exact absurd isStart (noStart tag)
        · next isEnd => exact absurd isEnd noEnd
        · rfl
    have skips : building.step mode delivery =
        .ok { building with skipping := skipped building.skipping delivery.event } :=
      step_of_advances (.skips (by omega))
    rw [List.foldlM_cons, skips]
    exact inductionHypothesis restFollows stillCounted

end Building

/-! ### Accepted documents -/

/-- Events that end inside an element which cleaning leaves out and which starts
behind a whole drawing. -/
def EndsHidden (deliveries : List Delivery) : Prop :=
  ∃ front tag offset behind, deliveries = front ++ ⟨.opening tag, offset⟩ :: behind ∧
    Closed front ∧ (∃ node, buildTree .cleaning ⟨front, none⟩ = .ok node) ∧
    isDroppedElement tag.name = true ∧ ¬EndsElement behind

namespace Building

/-- What is open behind an accepted document is what has been left out. -/
theorem exists_tracks_of_readTree {text : String} {node : Node}
    (read : readTree mode text = .ok node) :
    ∃ final hidden,
      (readDocument text.toList).deliveries.foldlM (Building.step mode) start = .ok final ∧
        final.finish = .ok node ∧ LeavesOpen (readDocument text.toList).deliveries hidden ∧
        Tracks mode final hidden hidden := by
  obtain ⟨-, final, run, finished⟩ := buildTree_eq_ok_iff.mp read
  have nested : Nested [] (readDocument text.toList).deliveries := by
    rw [readDocument_eq]
    exact nested_readFrom [] 0 _
  obtain ⟨opened, follows⟩ := exists_openBehind? nested
  obtain ⟨hidden, tracks⟩ := (tracks_start mode).run follows run
  have noneBuilt : final.names = [] := by
    unfold names
    rw [(finish_cases finished).1]
    rfl
  have same := tracks.isOpened
  rw [noneBuilt, List.append_nil] at same
  subst same
  exact ⟨final, opened, run, finished, leavesOpen_of_openBehind? follows, tracks⟩

/-- Behind events that belong together nothing is being built or left out. -/
theorem opened_of_closed (closed : Closed deliveries)
    (run : deliveries.foldlM (Building.step mode) start = .ok final) :
    final.opened = [] ∧ final.skipping = 0 := by
  obtain ⟨hidden, tracks⟩ := (tracks_start mode).run (closed.openBehind?_eq []) run
  obtain ⟨noneHidden, noneNamed⟩ := List.append_eq_nil_iff.mp tracks.isOpened.symm
  have noneCounted := tracks.counted
  rw [noneHidden] at noneCounted
  exact ⟨List.map_eq_nil_iff.mp noneNamed, noneCounted⟩

/-- From the start tag of an element that is left out and never closed, a run
changes nothing but the count. -/
theorem run_hidden {start : Nat} (reading : building.skipping = 0)
    (dropped : isDroppedElement tag.name = true) (leaves : LeavesOpen behind inner)
    (run : (⟨.opening tag, start⟩ :: behind).foldlM (Building.step .cleaning) building =
      .ok final) :
    final = { building with skipping := inner.length + 1 } := by
  obtain ⟨next, stepped, restRun⟩ := exists_step_of_run run
  have advances : Advances .cleaning building (.opening tag) next := advances_of_step stepped
  cases advances with
  | skips skipping => omega
  | hides =>
    have skipped : behind.foldlM (Building.step .cleaning) { building with skipping := 1 } = _ :=
      run_skipping leaves.openBehind?_eq rfl
    exact Except.ok.inj (restRun.symm.trans skipped)
  | enters _ isOpened visible =>
    rw [name_of_openElement isOpened] at visible
    exact absurd ⟨rfl, dropped⟩ visible

end Building

/-- An element that is left open has no end tag. -/
theorem LeavesOpen.not_endsElement (leaves : LeavesOpen behind inner) : ¬EndsElement behind := by
  rintro ⟨inside, stop, rest, rfl, closed⟩
  have isOpened := leaves.openBehind?_eq
  rw [openBehind?_append, closed.openBehind?_eq, Option.bind_some, openBehind?_cons] at isOpened
  cases isOpened

/-- A run that accepts what leaves elements open has had the whole drawing when
the outermost of them started. -/
theorem endsHidden_of_tracks {node : Node} (leaves : LeavesOpen deliveries hidden)
    (tracks : final.Tracks mode hidden hidden) (notClosed : hidden ≠ [])
    (run : deliveries.foldlM (Building.step mode) .start = .ok final)
    (finished : final.finish = .ok node) : EndsHidden deliveries := by
  obtain ⟨rfl, dropped⟩ := tracks.outermost _ (List.getLast?_eq_some_getLast notClosed)
  rw [← List.dropLast_concat_getLast notClosed] at leaves
  obtain ⟨front, tag, offset, behind, rfl, named, closed, leavesBehind⟩ := leaves.exists_outermost
  rw [← named] at dropped
  refine ⟨front, tag, offset, behind, rfl, closed, ?_, dropped, leavesBehind.not_endsElement⟩
  obtain ⟨before, frontRun, hiddenRun⟩ := Building.exists_between_of_run run
  obtain ⟨-, reading⟩ := Building.opened_of_closed closed frontRun
  have changed := Building.run_hidden reading dropped leavesBehind hiddenRun
  have sameFinish : final.finish = before.finish := by
    rw [changed]
    rfl
  exact ⟨node, buildTree_eq_ok_iff.mpr ⟨rfl, before, frontRun, sameFinish.symm.trans finished⟩⟩

/-- A document that is read as it is ends outside of all elements. -/
theorem closed_of_parse {text : String} {node : Node} (parsed : parse text = .ok node) :
    Closed (readDocument text.toList).deliveries := by
  obtain ⟨final, hidden, -, -, leaves, tracks⟩ := Building.exists_tracks_of_readTree parsed
  have noneHidden : hidden = [] := by
    by_contra notClosed
    have isCleaning := (tracks.outermost _ (List.getLast?_eq_some_getLast notClosed)).1
    cases isCleaning
  rw [noneHidden] at leaves
  exact leaves.closed

/-- No document is read as it is that ends inside an element. A document that is
cleaned ends inside one exactly if the outermost such element is left out and
starts behind the whole drawing: the end of a document is checked for elements
that are being built, and not for those left out. -/
theorem closed_of_accepted (text : String) :
    (∀ node, parse text = .ok node → Closed (readDocument text.toList).deliveries) ∧
      ∀ markup, optimize text = .ok markup →
        (Closed (readDocument text.toList).deliveries ↔
          ¬EndsHidden (readDocument text.toList).deliveries) := by
  refine ⟨fun node => closed_of_parse, fun markup optimized => ?_⟩
  constructor
  · rintro closed ⟨front, tag, offset, behind, whole, -, -, -, notClosed⟩
    rw [whole] at closed
    exact notClosed closed.endsElement
  · intro notHidden
    unfold optimize at optimized
    cases read : readTree .cleaning text with
    | error error =>
      rw [read] at optimized
      cases optimized
    | ok node =>
      obtain ⟨final, hidden, run, finished, leaves, tracks⟩ :=
        Building.exists_tracks_of_readTree read
      by_cases noneHidden : hidden = []
      · rw [noneHidden] at leaves
        exact leaves.closed
      · exact absurd (endsHidden_of_tracks leaves tracks noneHidden run finished) notHidden

/-- A drawing that is accepted with a title inside it which is left out. -/
theorem closed_of_accepted_titled :
    parse "<svg><title><b>t</b></title></svg>" =
        .ok (.element "svg" .empty [.element "title" .empty [.element "b" .empty [.text "t"]]]) ∧
      optimize "<svg><title><b>t</b></title></svg>" = .ok "<svg/>" ∧
      Closed (readDocument "<svg><title><b>t</b></title></svg>".toList).deliveries ∧
      ¬EndsHidden (readDocument "<svg><title><b>t</b></title></svg>".toList).deliveries := by
  have parsed : parse "<svg><title><b>t</b></title></svg>" =
      .ok (.element "svg" .empty
        [.element "title" .empty [.element "b" .empty [.text "t"]]]) := by
    apply readTree_plain_iff.mpr
    constructor
    · decide +kernel
    · rfl
  have optimized : optimize "<svg><title><b>t</b></title></svg>" = .ok "<svg/>" := by
    decide +kernel
  have accepted := closed_of_accepted "<svg><title><b>t</b></title></svg>"
  have closed := accepted.1 _ parsed
  exact ⟨parsed, optimized, closed, (accepted.2 _ optimized).mp closed⟩

/-- Behind the whole drawing a title may start that is never closed. -/
theorem optimize_open_title :
    ¬∀ text, (∀ node, parse text = .ok node → Closed (readDocument text.toList).deliveries) ∧
      ∀ markup, optimize text = .ok markup → Closed (readDocument text.toList).deliveries := by
  intro allClosed
  have optimized : optimize "<svg/><title>" = .ok "<svg/>" := by
    decide +kernel
  have isOpened : openBehind? [] (readDocument "<svg/><title>".toList).deliveries =
      some ["title"] := by
    decide +kernel
  have closed := (allClosed "<svg/><title>").2 _ optimized
  rw [closed.openBehind?_eq] at isOpened
  cases isOpened

end IconForge.Svg
