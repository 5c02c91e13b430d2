import IconForge.Svg.Tree

/-!
Contract: a document as the way through its tree.

Owns:
- the marks passed on the way through a tree, and that they determine the tree;
- the marks that events and readings stand for;
- the marks of a text, by what stands at its front.

Main statements: `Node.traversal_append_inj`, `marksFrom?_construct`,
`marksFrom?_run`.

Does not own: putting trees together.
-/

namespace IconForge.Svg

open IconForge.Text

/-- What is passed on the way through a tree. -/
inductive Mark where
  | opens (name : String) (attributes : Attributes)
  | closes
  | text (value : String)
deriving DecidableEq, Repr

mutual

/-- The marks of a node in document order. -/
def Node.traversal : Node → List Mark
  | .text value => [.text value]
  | .element name attributes children =>
    .opens name attributes :: (Node.traversalAll children ++ [.closes])

/-- The marks of neighbouring nodes in document order. -/
def Node.traversalAll : List Node → List Mark
  | [] => []
  | node :: rest => node.traversal ++ Node.traversalAll rest

end

namespace Node

theorem traversalAll_append (front back : List Node) :
    traversalAll (front ++ back) = traversalAll front ++ traversalAll back := by
  induction front with
  | nil => rfl
  | cons node rest inductionHypothesis =>
    simp only [List.cons_append, traversalAll, inductionHypothesis, List.append_assoc]

theorem traversalAll_singleton (node : Node) : traversalAll [node] = node.traversal := by
  simp only [traversalAll, List.append_nil]

/-! ### Marks determine the tree -/

mutual

/-- No traversal is a proper prefix of another one. -/
theorem traversal_append_inj {first second : Node} {front back : List Mark}
    (equal : first.traversal ++ front = second.traversal ++ back) :
    first = second ∧ front = back := by
  cases first with
  | text value =>
    cases second with
    | text other =>
      simp only [traversal, List.cons_append, List.nil_append, List.cons.injEq,
        Mark.text.injEq] at equal
      exact ⟨congrArg text equal.1, equal.2⟩
    | element name attributes children =>
      simp [traversal] at equal
  | element name attributes children =>
    cases second with
    | text other =>
      simp [traversal] at equal
    | element otherName otherAttributes others =>
      simp only [traversal, List.cons_append, List.append_assoc, List.nil_append,
        List.cons.injEq, Mark.opens.injEq] at equal
      obtain ⟨⟨sameName, sameAttributes⟩, inside⟩ := equal
      obtain ⟨sameChildren, sameRest⟩ := traversalAll_closes_inj inside
      exact ⟨by rw [sameName, sameAttributes, sameChildren], sameRest⟩

/-- The children of an element end where it is closed. -/
theorem traversalAll_closes_inj {first second : List Node} {front back : List Mark}
    (equal : traversalAll first ++ Mark.closes :: front =
      traversalAll second ++ Mark.closes :: back) :
    first = second ∧ front = back := by
  cases first with
  | nil =>
    cases second with
    | nil =>
      simp only [traversalAll, List.nil_append, List.cons.injEq, true_and] at equal
      exact ⟨rfl, equal⟩
    | cons node rest =>
      cases node <;> simp [traversalAll, traversal] at equal
  | cons node rest =>
    cases second with
    | nil =>
      cases node <;> simp [traversalAll, traversal] at equal
    | cons other others =>
      simp only [traversalAll, List.append_assoc] at equal
      obtain ⟨sameNode, behind⟩ := traversal_append_inj equal
      obtain ⟨sameRest, sameBack⟩ := traversalAll_closes_inj behind
      exact ⟨by rw [sameNode, sameRest], sameBack⟩

end

theorem traversal_inj {first second : Node} (equal : first.traversal = second.traversal) :
    first = second :=
  (traversal_append_inj (congrArg (· ++ []) equal)).1

end Node

/-! ### How deep marks lead -/

/-- How much deeper into a tree a mark leads. -/
def Mark.depth : Mark → Int
  | opens _ _ => 1
  | closes => -1
  | text _ => 0

/-- How much deeper into a tree marks lead. -/
def depthOf : List Mark → Int
  | [] => 0
  | mark :: marks => mark.depth + depthOf marks

theorem depthOf_append (front back : List Mark) :
    depthOf (front ++ back) = depthOf front + depthOf back := by
  induction front with
  | nil => simp [depthOf]
  | cons mark front inductionHypothesis =>
    rw [List.cons_append, depthOf, depthOf, inductionHypothesis, Int.add_assoc]

theorem depthOf_cons (mark : Mark) (marks : List Mark) :
    depthOf (mark :: marks) = mark.depth + depthOf marks := by
  rw [depthOf]

mutual

theorem depthOf_traversal (node : Node) : depthOf node.traversal = 0 := by
  cases node with
  | text value => rfl
  | element name attributes children =>
    unfold Node.traversal
    rw [depthOf_cons, depthOf_append, depthOf_traversalAll children]
    rfl

theorem depthOf_traversalAll (nodes : List Node) : depthOf (Node.traversalAll nodes) = 0 := by
  cases nodes with
  | nil => rfl
  | cons node rest =>
    unfold Node.traversalAll
    rw [depthOf_append, depthOf_traversal node, depthOf_traversalAll rest]
    rfl

end

/-! ### Marks of events -/

/-- The marks of a text: an empty one leaves none. -/
def textMarks (value : String) : List Mark :=
  if value.isEmpty then [] else [.text value]

/-- The marks that an event stands for, if its attributes and references are
sound. -/
def Event.marks? : Event → Option (List Mark)
  | .opening tag =>
    tag.attributes.toOption.map fun attributes =>
      [.opens tag.name (Attributes.ofList attributes)]
  | .selfClosing tag =>
    tag.attributes.toOption.map fun attributes =>
      [.opens tag.name (Attributes.ofList attributes), .closes]
  | .closing => some [.closes]
  | .text raw => (resolve raw).toOption.map fun value => textMarks (String.ofList value)
  | .characterData value => some (textMarks value)
  | .aside => some []

theorem ok_of_toOption {ε α : Type} {result : Except ε α} {value : α}
    (isSome : result.toOption = some value) : result = .ok value := by
  cases result with
  | error error => cases isSome
  | ok found =>
    cases isSome
    rfl

/-- The marks that events stand for one after the other. -/
def marksOf? : List Delivery → Option (List Mark)
  | [] => some []
  | delivery :: rest =>
    delivery.event.marks?.bind fun marks => (marksOf? rest).map (marks ++ ·)

/-- The marks of a reading that has no fault. -/
def Reading.marks? (reading : Reading) : Option (List Mark) :=
  if reading.fault.isNone then marksOf? reading.deliveries else none

theorem Reading.marks?_cons (delivery : Delivery) (following : Reading) :
    (Reading.mk (delivery :: following.deliveries) following.fault).marks? =
      delivery.event.marks?.bind fun marks => following.marks?.map (marks ++ ·) := by
  unfold Reading.marks?
  cases following.fault with
  | none => rfl
  | some fault => cases delivery.event.marks? <;> rfl

/-! ### Marks of a text, by what stands at its front -/

theorem dropWhile_dropWhile (inClass : Char → Bool) (text : List Char) :
    (text.dropWhile inClass).dropWhile inClass = text.dropWhile inClass := by
  induction text with
  | nil => rfl
  | cons c rest inductionHypothesis =>
    by_cases member : inClass c = true
    · rw [List.dropWhile_cons_of_pos member, inductionHypothesis]
    · rw [List.dropWhile_cons_of_neg member, List.dropWhile_cons_of_neg member]

theorem readFrom_blank {text : List Char} (opened : List String) (offset : Nat)
    (blank : text.dropWhile isSpace = []) : readFrom opened offset text = ⟨[], none⟩ := by
  rw [readFrom]
  split
  · rfl
  · next c behind nonBlank =>
    rw [blank] at nonBlank
    cases nonBlank

theorem marks?_readFrom_fault {opened : List String} {offset : Nat} {text behind : List Char}
    {fault : Nat × MarkupError} (start : text.dropWhile isSpace = '<' :: behind)
    (read : readConstruct opened behind = .error fault) :
    (readFrom opened offset text).marks? = none := by
  rw [readFrom]
  split
  · next blank =>
    rw [start] at blank
    cases blank
  · next c rest nonBlank =>
    rw [start] at nonBlank
    cases nonBlank
    rw [if_pos rfl]
    split
    · rfl
    · next construct isConstruct =>
      rw [read] at isConstruct
      cases isConstruct

theorem marks?_readFrom_construct (offset : Nat) {opened : List String}
    {text behind : List Char} {construct : Construct}
    (start : text.dropWhile isSpace = '<' :: behind)
    (read : readConstruct opened behind = .ok construct) :
    ∃ stop, (readFrom opened offset text).marks? =
      construct.event.marks?.bind fun marks =>
        (readFrom construct.opened stop construct.rest).marks?.map (marks ++ ·) := by
  rw [readFrom]
  split
  · next blank =>
    rw [start] at blank
    cases blank
  · next c rest nonBlank =>
    rw [start] at nonBlank
    cases nonBlank
    rw [if_pos rfl]
    split
    · next length cause isFault =>
      rw [read] at isFault
      cases isFault
    · next found isFound =>
      rw [read] at isFound
      cases isFound
      exact ⟨_, Reading.marks?_cons _ _⟩

theorem marks?_readFrom_run (offset : Nat) {opened : List String} {text behind : List Char}
    {c : Char} (start : text.dropWhile isSpace = c :: behind) (isText : c ≠ '<') :
    ∃ stop, (readFrom opened offset text).marks? =
      (Event.text (dropEndWhile isSpace (c :: behind.takeWhile (· != '<')))).marks?.bind
        fun marks =>
          (readFrom opened stop (behind.dropWhile (· != '<'))).marks?.map (marks ++ ·) := by
  rw [readFrom]
  split
  · next blank =>
    rw [start] at blank
    cases blank
  · next found rest nonBlank =>
    rw [start] at nonBlank
    cases nonBlank
    rw [if_neg isText]
    exact ⟨_, Reading.marks?_cons _ _⟩

/-- Where a text starts in a document has no influence on its marks. -/
theorem marks?_readFrom_offset (opened : List String) (first second : Nat) (text : List Char) :
    (readFrom opened first text).marks? = (readFrom opened second text).marks? := by
  induction opened, first, text using readFrom.induct generalizing second with
  | case1 opened first text blank =>
    rw [readFrom_blank opened first blank, readFrom_blank opened second blank]
  | case2 opened first text behind length cause read start =>
    rw [marks?_readFrom_fault start read, marks?_readFrom_fault start read]
  | case3 opened first text place behind construct read stop start inductionHypothesis =>
    obtain ⟨firstStop, fromFirst⟩ := marks?_readFrom_construct first start read
    obtain ⟨secondStop, fromSecond⟩ := marks?_readFrom_construct second start read
    rw [fromFirst, fromSecond, ← inductionHypothesis firstStop, ← inductionHypothesis secondStop]
  | case4 opened first text place c behind start isText run stop inductionHypothesis =>
    obtain ⟨firstStop, fromFirst⟩ := marks?_readFrom_run first start isText
    obtain ⟨secondStop, fromSecond⟩ := marks?_readFrom_run second start isText
    rw [fromFirst, fromSecond, ← inductionHypothesis firstStop, ← inductionHypothesis secondStop]

/-- The marks of the rest of a text, given the elements that are open. -/
def marksFrom? (opened : List String) (text : List Char) : Option (List Mark) :=
  (readFrom opened 0 text).marks?

theorem marksFrom?_blank {text : List Char} (opened : List String)
    (blank : text.dropWhile isSpace = []) : marksFrom? opened text = some [] := by
  unfold marksFrom?
  rw [readFrom_blank opened 0 blank]
  rfl

theorem marksFrom?_fault {opened : List String} {text behind : List Char}
    {fault : Nat × MarkupError} (start : text.dropWhile isSpace = '<' :: behind)
    (read : readConstruct opened behind = .error fault) : marksFrom? opened text = none :=
  marks?_readFrom_fault start read

theorem marksFrom?_construct {opened : List String} {text behind : List Char}
    {construct : Construct} (start : text.dropWhile isSpace = '<' :: behind)
    (read : readConstruct opened behind = .ok construct) :
    marksFrom? opened text =
      construct.event.marks?.bind fun marks =>
        (marksFrom? construct.opened construct.rest).map (marks ++ ·) := by
  obtain ⟨stop, marks⟩ := marks?_readFrom_construct 0 start read
  unfold marksFrom?
  rw [marks, marks?_readFrom_offset construct.opened stop 0]

theorem marksFrom?_run {opened : List String} {text behind : List Char} {c : Char}
    (start : text.dropWhile isSpace = c :: behind) (isText : c ≠ '<') :
    marksFrom? opened text =
      (Event.text (dropEndWhile isSpace (c :: behind.takeWhile (· != '<')))).marks?.bind
        fun marks =>
          (marksFrom? opened (behind.dropWhile (· != '<'))).map (marks ++ ·) := by
  obtain ⟨stop, marks⟩ := marks?_readFrom_run 0 start isText
  unfold marksFrom?
  rw [marks, marks?_readFrom_offset opened stop 0]

/-- What holds at the end of a text, and holds of a text if it holds of what
stands behind the construct or the run of text at its front, holds of any text. -/
@[elab_as_elim]
theorem markup_induction {motive : List String → List Char → Prop}
    (blank : ∀ opened text, text.dropWhile isSpace = [] → motive opened text)
    (fault : ∀ opened text behind fault, text.dropWhile isSpace = '<' :: behind →
      readConstruct opened behind = .error fault → motive opened text)
    (construct : ∀ opened text behind construct, text.dropWhile isSpace = '<' :: behind →
      readConstruct opened behind = .ok construct →
        motive construct.opened construct.rest → motive opened text)
    (run : ∀ opened text c behind, text.dropWhile isSpace = c :: behind → c ≠ '<' →
      motive opened (behind.dropWhile (· != '<')) → motive opened text)
    (opened : List String) (text : List Char) : motive opened text := by
  induction opened, 0, text using readFrom.induct with
  | case1 opened _ text isBlank => exact blank opened text isBlank
  | case2 opened _ text behind length cause read start =>
    exact fault opened text behind (length, cause) start read
  | case3 opened _ text _ behind found read _ start inductionHypothesis =>
    exact construct opened text behind found start read inductionHypothesis
  | case4 opened _ text _ c behind start isText _ _ inductionHypothesis =>
    exact run opened text c behind start isText inductionHypothesis

end IconForge.Svg
