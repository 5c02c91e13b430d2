import IconForge.Proofs.CommandLine.Reading
import IconForge.Proofs.Outcome

/-!
Contract: arguments that are refused.

Owns:
- that no argument ends the options but the one that is there for it;
- that an argument which names an option that a command does not declare is refused,
  whatever stands in front of it and behind it, as long as the options have not ended.

Main statements: `isRefused_readArgument`, `isRefused_readCommand`.

Does not own: what is read of the arguments that are not refused.
-/

namespace IconForge.CommandLine

variable {level : Level} {key : Key} {value argument foreign : String} {front : List String}
  {reading next : Reading} {name : Name}

/-! ### The end of the options -/

/-- Whether a step, if it succeeds, leaves it as it is whether the options have ended. -/
def KeepsEnd (reading : Reading) (outcome : Except Refusal Reading) : Prop :=
  ∀ next, outcome = .ok next → next.ended = reading.ended

theorem keepsEnd_error (refusal : Refusal) : KeepsEnd reading (.error refusal) := nofun

theorem keepsEnd_ok (same : next.ended = reading.ended) : KeepsEnd reading (.ok next) := by
  rintro _ ⟨⟩
  exact same

theorem keepsEnd_bind {first : Except Refusal Reading}
    {continued : Reading → Except Refusal Reading} (keeps : KeepsEnd reading first)
    (alsoKeeps : ∀ next, KeepsEnd next (continued next)) :
    KeepsEnd reading (first >>= continued) := by
  intro last isLast
  obtain ⟨between, isBetween, isLast⟩ := bind_eq_ok_iff.mp isLast
  rw [alsoKeeps between last isLast, keeps between isBetween]

namespace Reading

theorem keepsEnd_accept (reading : Reading) (key : Key) (value : String) :
    KeepsEnd reading (reading.accept key value) := by
  unfold accept
  split
  · exact keepsEnd_error _
  · split
    · exact keepsEnd_error _
    · exact keepsEnd_ok rfl

theorem keepsEnd_settle (reading : Reading) : KeepsEnd reading reading.settle := by
  unfold settle
  split
  · exact keepsEnd_ok rfl
  · exact keepsEnd_error _
  · next key value _ => exact keepsEnd_accept { reading with pending := none } key value

theorem keepsEnd_await (reading : Reading) (key : Key) : KeepsEnd reading (reading.await key) :=
  keepsEnd_bind (keepsEnd_settle reading) fun _ => keepsEnd_ok rfl

theorem keepsEnd_attach (reading : Reading) (key : Key) (value : String) :
    KeepsEnd reading (reading.attach key value) :=
  keepsEnd_bind (keepsEnd_settle reading) fun next => keepsEnd_accept next key value

theorem keepsEnd_switch (reading : Reading) (key : Key) :
    KeepsEnd reading (reading.switch key) := by
  refine keepsEnd_bind (keepsEnd_settle reading) fun next => ?_
  split
  · exact keepsEnd_error _
  · exact keepsEnd_error _
  · exact keepsEnd_accept next key ""

end Reading

theorem keepsEnd_readLong (reading : Reading) (inside : List Char) :
    KeepsEnd reading (readLong level reading inside) := by
  unfold readLong
  dsimp only
  split
  · exact keepsEnd_error _
  · next key _ =>
    split
    · split
      · exact reading.keepsEnd_await key
      · exact reading.keepsEnd_attach key _
    · split
      · exact reading.keepsEnd_switch key
      · exact keepsEnd_error _

theorem keepsEnd_readLetters (reading : Reading) (letters : List Char) :
    KeepsEnd reading (readLetters level reading letters) := by
  induction letters generalizing reading with
  | nil => exact keepsEnd_ok rfl
  | cons letter rest inductionHypothesis =>
    rw [readLetters]
    split
    · exact keepsEnd_error _
    · next key _ =>
      split
      · split
        · exact reading.keepsEnd_await key
        · exact reading.keepsEnd_attach key _
        · exact reading.keepsEnd_attach key _
      · exact keepsEnd_bind (reading.keepsEnd_switch key) inductionHypothesis

theorem keepsEnd_readPlain (reading : Reading) (argument : String) :
    KeepsEnd reading (readPlain level reading argument) := by
  unfold readPlain
  split
  · split
    · split
      · exact keepsEnd_error _
      · exact keepsEnd_error _
    · exact keepsEnd_error _
  · split
    · exact keepsEnd_error _
    · exact keepsEnd_bind reading.keepsEnd_settle fun _ => keepsEnd_ok rfl

/-- Only the argument that is there for it ends the options. -/
theorem keepsEnd_readArgument (reading : Reading) (noEnd : argument ≠ "--") :
    KeepsEnd reading (readArgument level reading argument) := by
  unfold readArgument
  split
  · exact keepsEnd_readPlain reading argument
  · split
    · next isEnd =>
      have isDashes : argument = "--" := String.toList_inj.mp isEnd
      exact absurd isDashes noEnd
    · exact keepsEnd_readLong reading _
    · exact keepsEnd_readLetters reading _
    · unfold readValue
      split
      · exact keepsEnd_ok rfl
      · exact keepsEnd_readPlain reading argument

/-! ### Options that are not declared -/

def IsRefused {α : Type} (outcome : Except Refusal α) : Prop :=
  ∃ refusal, outcome = .error refusal

theorem isRefused_bind {α β : Type} {first : Except Refusal α} {continued : α → Except Refusal β}
    (refused : ∀ value, first = .ok value → IsRefused (continued value)) :
    IsRefused (first >>= continued) := by
  cases first with
  | error refusal => exact ⟨refusal, rfl⟩
  | ok value => exact refused value rfl

theorem of_ofLong? {word : List Char} (found : level.ofLong? word = some key) :
    key ∈ level.options ∧ key.long = word := by
  have isNamed := List.find?_some found
  exact ⟨List.mem_of_find?_eq_some found, beq_iff_eq.mp isNamed⟩

theorem of_ofLetter? {letter : Char} (found : level.ofLetter? letter = some key) :
    key ∈ level.options ∧ key.letter? = some letter := by
  have isNamed := List.find?_some found
  exact ⟨List.mem_of_find?_eq_some found, beq_iff_eq.mp isNamed⟩

/-- What is read at a level without being declared for it is a question. -/
theorem question_of_undeclared (isOption : key ∈ level.options)
    (undeclared : key ∉ level.declared) :
    (key = .help ∨ key = .version) ∧ key.hasValue = false := by
  have question := (declared_or_answered level key isOption).resolve_left undeclared
  refine ⟨question, ?_⟩
  rcases question with rfl | rfl <;> rfl

/-- A question is never taken in. -/
theorem isRefused_switch (reading : Reading) (question : key = .help ∨ key = .version) :
    IsRefused (reading.switch key) := by
  refine isRefused_bind fun settled _ => ?_
  rcases question with rfl | rfl
  · exact ⟨.help, rfl⟩
  · exact ⟨.version, rfl⟩

/-- Where nothing is declared but what a command declares, an option that the command does
not declare is refused. -/
theorem isRefused_readArgument (declared : level.declared ⊆ name.declared)
    (running : reading.ended = false) (isForeign : IsForeign name argument) :
    IsRefused (readArgument level reading argument) := by
  cases isForeign with
  | @long word behind notEmpty noEquals foreign isEnd isArgument =>
    obtain ⟨isWord, isBehind⟩ := cut_long behind noEquals isEnd
    rw [readArgument_long running isArgument (List.append_ne_nil_of_left_ne_nil notEmpty _)]
    simp only [readLong, isWord, isBehind]
    cases found : level.ofLong? word with
    | none => exact ⟨_, rfl⟩
    | some key =>
      obtain ⟨isOption, isNamed⟩ := of_ofLong? found
      obtain ⟨question, noValue⟩ := question_of_undeclared isOption fun isDeclared =>
        foreign key (declared isDeclared) isNamed
      simp only [noValue, Bool.false_eq_true, if_false]
      split
      · exact isRefused_switch reading question
      · exact ⟨_, rfl⟩
  | @letter letter behind isLetter foreign isArgument =>
    rw [readArgument_letters running isArgument isLetter, readLetters]
    cases found : level.ofLetter? letter with
    | none => exact ⟨_, rfl⟩
    | some key =>
      obtain ⟨isOption, isNamed⟩ := of_ofLetter? found
      obtain ⟨question, noValue⟩ := question_of_undeclared isOption fun isDeclared =>
        foreign key (declared isDeclared) isNamed
      simp only [noValue, Bool.false_eq_true, if_false]
      obtain ⟨refusal, isRefusal⟩ := isRefused_switch reading question
      rw [isRefusal]
      exact ⟨refusal, rfl⟩

/-- Behind a command, an option that it does not declare is refused wherever it stands. -/
theorem isRefused_readCommand (noEnd : ∀ argument ∈ front, argument ≠ "--")
    (isForeign : IsForeign name foreign) (more : List String) :
    IsRefused (readCommand name (front ++ foreign :: more)) := by
  have refused (reading : Reading) (running : reading.ended = false) :
      IsRefused ((front ++ foreign :: more).foldlM (readArgument (.within name)) reading) := by
    induction front generalizing reading with
    | nil =>
      have isRefused : IsRefused (readArgument (.within name) reading foreign) :=
        isRefused_readArgument (List.Subset.refl _) running isForeign
      obtain ⟨refusal, isRefusal⟩ := isRefused
      rw [List.nil_append, List.foldlM_cons, isRefusal]
      exact ⟨refusal, rfl⟩
    | cons argument rest inductionHypothesis =>
      rw [List.forall_mem_cons] at noEnd
      rw [List.cons_append, List.foldlM_cons]
      refine isRefused_bind fun next isNext => inductionHypothesis noEnd.2 next ?_
      rw [keepsEnd_readArgument reading noEnd.1 next isNext, running]
  obtain ⟨refusal, isRefusal⟩ := refused Reading.start rfl
  unfold readCommand
  rw [isRefusal]
  exact ⟨refusal, rfl⟩

end IconForge.CommandLine
