import IconForge.Proofs.CommandLine.Writing

/-!
Contract: how the arguments of one level are read.

Owns:
- that what writes settings is read back, in the order in which it is written;
- that an argument which names an undeclared option is refused, wherever it stands in
  front of the end of the options.

Main statements: `readCommand_of_writesAll`, `isRefused_readCommand`.

Does not own: what stands in front of the command.
-/

namespace IconForge.CommandLine

variable {level : Level} {key : Key} {value argument : String} {arguments : List String}
  {settings more : List (Key × String)} {reading next : Reading} {name : Name}

/-! ### The options of a level -/

/-- The options that are declared for a level. -/
def Level.declared : Level → List Key
  | .top => [.config]
  | .within name => name.declared

theorem ofLong?_of_declared (level : Level) :
    ∀ key ∈ level.declared, key ≠ .directory → level.ofLong? key.long = some key := by
  rcases level with _ | _ | _ | _ | _ <;> decide

theorem ofLetter?_of_declared (level : Level) :
    ∀ key ∈ level.declared, ∀ letter ∈ key.letter?, level.ofLetter? letter = some key := by
  have found : ∀ key ∈ level.declared,
      key.letter?.all (fun letter => level.ofLetter? letter = some key) = true := by
    rcases level with _ | _ | _ | _ | _ <;> decide
  intro key member letter isLetter
  have isFound := found key member
  rw [Option.mem_def.mp isLetter] at isFound
  exact of_decide_eq_true isFound

theorem positional?_of_declared (declared : .directory ∈ level.declared) :
    level.positional? = some .directory := by
  rcases level with _ | _ | _ | _ | _ <;> revert declared <;> decide

/-- What is read at a level besides the options that are declared for it. -/
theorem declared_or_answered (level : Level) :
    ∀ key ∈ level.options, key ∈ level.declared ∨ key = .help ∨ key = .version := by
  rcases level with _ | _ | _ | _ | _ <;> decide

/-- The options that set something are no questions. -/
theorem ne_answered_of_declared (level : Level) :
    ∀ key ∈ level.declared, key ≠ .help ∧ key ≠ .version := by
  rcases level with _ | _ | _ | _ | _ <;> decide

/-! ### Kinds of arguments -/

theorem readArgument_long {inside : List Char} (running : reading.ended = false)
    (isArgument : argument.toList = '-' :: '-' :: inside) (notEmpty : inside ≠ []) :
    readArgument level reading argument = readLong level reading inside := by
  cases inside with
  | nil => exact absurd rfl notEmpty
  | cons c rest =>
    unfold readArgument
    rw [running, isArgument]
    rfl

theorem readArgument_letters {letter : Char} {rest : List Char} (running : reading.ended = false)
    (isArgument : argument.toList = '-' :: letter :: rest) (isLetter : letter ≠ '-') :
    readArgument level reading argument = readLetters level reading (letter :: rest) := by
  unfold readArgument
  rw [running, isArgument, if_neg Bool.false_ne_true]
  split
  · next both =>
    cases both
    exact absurd rfl isLetter
  · next both =>
    cases both
    exact absurd rfl isLetter
  · next both =>
    cases both
    rfl
  · next noOption => exact absurd rfl (noOption letter rest)

theorem readArgument_value (running : reading.ended = false) (isValue : IsValue argument) :
    readArgument level reading argument = readValue level reading argument := by
  obtain ⟨c, rest, isText, noDash⟩ := isValue
  unfold readArgument
  rw [running, isText, if_neg Bool.false_ne_true]
  split
  · next both => exact absurd (List.cons.inj both).1 noDash
  · next both => exact absurd (List.cons.inj both).1 noDash
  · next both => exact absurd (List.cons.inj both).1 noDash
  · rfl

/-- The name of a long option ends at the first equals sign. -/
theorem cut_long {word : List Char} (behind : List Char) (noEquals : '=' ∉ word)
    (isEnd : behind.head?.all (· == '=') = true) :
    (word ++ behind).takeWhile (· != '=') = word ∧
      (word ++ behind).dropWhile (· != '=') = behind := by
  have inName : ∀ c ∈ word, (c != '=') = true := by
    intro c member
    rw [bne_iff_ne]
    rintro rfl
    exact noEquals member
  have stops : behind.takeWhile (· != '=') = [] ∧ behind.dropWhile (· != '=') = behind := by
    cases behind with
    | nil => exact ⟨rfl, rfl⟩
    | cons c rest =>
      cases beq_iff_eq.mp isEnd
      exact ⟨rfl, rfl⟩
  rw [List.takeWhile_append_of_pos inName, List.dropWhile_append_of_pos inName, stops.1, stops.2]
  exact ⟨List.append_nil word, rfl⟩

/-! ### Settings that have been read -/

/-- Whether settings are of different options, and have the values that they need. -/
structure Fit (settings : List (Key × String)) : Prop where
  distinct : (settings.map Prod.fst).Nodup
  filled : ∀ setting ∈ settings, setting.1.hasValue = true → setting.2.isEmpty = false

theorem Fit.left (fit : Fit (settings ++ more)) : Fit settings where
  distinct := by
    have distinct := fit.distinct
    rw [List.map_append] at distinct
    exact (List.nodup_append.mp distinct).1
  filled setting member := fit.filled setting (List.mem_append_left _ member)

theorem Fit.absent (fit : Fit (settings ++ [(key, value)])) : key ∉ settings.map Prod.fst := by
  have distinct := fit.distinct
  rw [List.map_append, List.nodup_append] at distinct
  exact fun member => distinct.2.2 key member key List.mem_cons_self rfl

/-- A reading that has taken in settings, the last of which may not be accepted yet. -/
inductive Reading.Holds : Reading → List (Key × String) → Prop
  | settled (settings : List (Key × String)) : Holds ⟨settings, none, false⟩ settings
  | pending (settings : List (Key × String)) (key : Key) (value : String) :
      Holds ⟨settings, some (key, some value), false⟩ (settings ++ [(key, value)])

namespace Reading

theorem Holds.running (holds : reading.Holds settings) : reading.ended = false := by
  cases holds <;> rfl

theorem Holds.waits_eq_false (holds : reading.Holds settings) : reading.waits = false := by
  cases holds <;> rfl

theorem get?_of_absent (absent : key ∉ reading.accepted.map Prod.fst) :
    reading.get? key = none := by
  have notFound : (reading.accepted.find? fun given => given.1 == key) = none := by
    rw [List.find?_eq_none]
    intro setting member isKey
    exact absent (List.mem_map.mpr ⟨setting, member, beq_iff_eq.mp isKey⟩)
  unfold get?
  rw [notFound]
  rfl

theorem accept_of_fit {pending : Option (Key × Option String)} {ended : Bool}
    (fit : Fit (settings ++ [(key, value)])) :
    accept ⟨settings, pending, ended⟩ key value =
      .ok ⟨settings ++ [(key, value)], pending, ended⟩ := by
  have isNew : get? ⟨settings, pending, ended⟩ key = none := get?_of_absent fit.absent
  have isFilled : (key.hasValue && value.isEmpty) = false := by
    cases hasValue : key.hasValue with
    | false => rfl
    | true => exact fit.filled (key, value) (List.mem_append_right _ List.mem_cons_self) hasValue
  unfold accept
  rw [isNew, isFilled]
  rfl

theorem Holds.settle (holds : reading.Holds settings) (fit : Fit settings) :
    reading.settle = .ok ⟨settings, none, false⟩ := by
  cases holds with
  | settled => rfl
  | pending before key value => exact accept_of_fit fit

theorem Holds.await (holds : reading.Holds settings) (fit : Fit settings) :
    reading.await key = .ok ⟨settings, some (key, none), false⟩ := by
  unfold Reading.await
  rw [holds.settle fit]
  rfl

theorem Holds.attach (holds : reading.Holds settings) (fit : Fit (settings ++ [(key, value)])) :
    reading.attach key value = .ok ⟨settings ++ [(key, value)], none, false⟩ := by
  unfold Reading.attach
  rw [holds.settle fit.left]
  exact accept_of_fit fit

theorem Holds.switch (holds : reading.Holds settings) (fit : Fit (settings ++ [(key, "")]))
    (noQuestion : key ≠ .help ∧ key ≠ .version) :
    reading.switch key = .ok ⟨settings ++ [(key, "")], none, false⟩ := by
  unfold Reading.switch
  rw [holds.settle fit.left]
  cases key with
  | help => exact absurd rfl noQuestion.1
  | version => exact absurd rfl noQuestion.2
  | _ => exact accept_of_fit fit

end Reading

/-! ### Settings read back -/

theorem readArgument_opens (holds : reading.Holds settings) (fit : Fit settings)
    (declared : key ∈ level.declared) (opens : Opens key argument) :
    readArgument level reading argument = .ok ⟨settings, some (key, none), false⟩ := by
  cases opens with
  | long hasValue named isArgument =>
    obtain ⟨word, behind⟩ := cut_long [] key.noEquals_long rfl
    rw [List.append_nil] at word behind
    rw [readArgument_long holds.running isArgument (Key.long_ne_nil named)]
    simp only [readLong, word, behind, ofLong?_of_declared level key declared named, hasValue,
      if_true, holds.await fit]
  | letter hasValue isLetter isArgument =>
    rw [readArgument_letters holds.running isArgument (Key.letter_ne_dash isLetter)]
    simp only [readLetters, ofLetter?_of_declared level key declared _ isLetter, hasValue,
      if_true, holds.await fit]

theorem readArgument_gives (holds : reading.Holds settings)
    (fit : Fit (settings ++ [(key, value)])) (declared : key ∈ level.declared)
    (gives : Gives key value argument) :
    readArgument level reading argument = .ok ⟨settings ++ [(key, value)], none, false⟩ := by
  cases gives with
  | long hasValue named isArgument =>
    obtain ⟨word, behind⟩ := cut_long ('=' :: value.toList) key.noEquals_long rfl
    rw [readArgument_long holds.running isArgument
      (List.append_ne_nil_of_right_ne_nil _ (List.cons_ne_nil _ _))]
    simp only [readLong, word, behind, ofLong?_of_declared level key declared named, hasValue,
      if_true, String.ofList_toList, holds.attach fit]
  | letterEquals hasValue isLetter isArgument =>
    rw [readArgument_letters holds.running isArgument (Key.letter_ne_dash isLetter)]
    simp only [readLetters, ofLetter?_of_declared level key declared _ isLetter, hasValue,
      if_true, String.ofList_toList, holds.attach fit]
  | letter hasValue isLetter noEquals isArgument =>
    have notEmpty := fit.filled (key, value) (List.mem_append_right _ List.mem_cons_self) hasValue
    rw [readArgument_letters holds.running isArgument (Key.letter_ne_dash isLetter)]
    simp only [readLetters, ofLetter?_of_declared level key declared _ isLetter, hasValue,
      if_true]
    cases isText : value.toList with
    | nil =>
      rw [String.isEmpty_eq_false_iff, Ne, ← String.toList_eq_nil_iff] at notEmpty
      exact absurd isText notEmpty
    | cons c rest =>
      have isWhole : String.ofList (c :: rest) = value := by rw [← isText, String.ofList_toList]
      rw [isText] at noEquals
      split
      · next both => cases both
      · next both =>
        cases both
        exact absurd rfl noEquals
      · rw [isWhole]
        exact holds.attach fit
  | switch noValue isArgument =>
    have named : key ≠ .directory := by
      rintro rfl
      cases noValue
    obtain ⟨word, behind⟩ := cut_long [] key.noEquals_long rfl
    rw [List.append_nil] at word behind
    rw [readArgument_long holds.running isArgument (Key.long_ne_nil named)]
    simp only [readLong, word, behind, ofLong?_of_declared level key declared named, noValue,
      if_false, List.isEmpty_nil, if_true, Bool.false_eq_true,
      holds.switch fit (ne_answered_of_declared level key declared)]

theorem readArgument_awaited (isValue : IsValue value) :
    readArgument level ⟨settings, some (key, none), false⟩ value =
      .ok ⟨settings, some (key, some value), false⟩ :=
  readArgument_value rfl isValue

theorem readArgument_plain (holds : reading.Holds settings)
    (fit : Fit (settings ++ [(.directory, value)])) (declared : .directory ∈ level.declared)
    (isValue : IsValue value) :
    readArgument level reading value = .ok ⟨settings, some (.directory, some value), false⟩ := by
  have absent := fit.absent
  have settled := holds.settle fit.left
  rw [readArgument_value holds.running isValue]
  have isPlain : readValue level reading value = readPlain level reading value := by
    cases holds <;> rfl
  have isNew : ((reading.get? .directory).isSome ||
      (reading.pending.map Prod.fst) == some .directory) = false := by
    cases holds with
    | settled =>
      rw [Reading.get?_of_absent absent]
      rfl
    | pending before key last =>
      rw [List.map_append, List.mem_append, not_or] at absent
      rw [Reading.get?_of_absent absent.1]
      refine beq_false_of_ne fun same => absent.2 ?_
      exact List.mem_singleton.mpr (Option.some.inj same).symm
  rw [isPlain]
  unfold readPlain
  rw [positional?_of_declared declared]
  simp only [isNew, settled, Bool.false_eq_true, if_false]
  rfl

/-- What writes a setting is taken in. -/
theorem run_of_writes (writes : Writes key value arguments) (holds : reading.Holds settings)
    (fit : Fit (settings ++ [(key, value)])) (declared : key ∈ level.declared) :
    ∃ next, arguments.foldlM (readArgument level) reading = .ok next ∧
      next.Holds (settings ++ [(key, value)]) := by
  cases writes with
  | apart opens isValue =>
    refine ⟨_, ?_, .pending settings key value⟩
    rw [List.foldlM_cons, readArgument_opens holds fit.left declared opens]
    change [value].foldlM (readArgument level) ⟨settings, some (key, none), false⟩ = _
    rw [List.foldlM_cons, readArgument_awaited isValue]
    rfl
  | joined gives _ =>
    refine ⟨_, ?_, .settled _⟩
    rw [List.foldlM_cons, readArgument_gives holds fit declared gives]
    rfl
  | plain isValue =>
    refine ⟨_, ?_, .pending settings .directory value⟩
    rw [List.foldlM_cons, readArgument_plain holds fit declared isValue]
    rfl

theorem run_of_writesAll (written : WritesAll more arguments) (holds : reading.Holds settings)
    (fit : Fit (settings ++ more)) (declared : ∀ setting ∈ more, setting.1 ∈ level.declared) :
    ∃ next, arguments.foldlM (readArgument level) reading = .ok next ∧
      next.Holds (settings ++ more) := by
  induction written generalizing reading settings with
  | nil =>
    rw [List.append_nil]
    exact ⟨reading, rfl, holds⟩
  | @cons setting others first rest writes _ inductionHypothesis =>
    rw [List.forall_mem_cons] at declared
    have together : settings ++ setting :: others = settings ++ [setting] ++ others :=
      List.append_cons settings setting others
    rw [together] at fit ⊢
    obtain ⟨between, isBetween, holdsBetween⟩ := run_of_writes writes holds fit.left declared.1
    obtain ⟨last, isLast, holdsLast⟩ := inductionHypothesis holdsBetween fit declared.2
    refine ⟨last, ?_, holdsLast⟩
    rw [List.foldlM_append, isBetween]
    exact isLast

/-- Settings that are written behind a command are read back, in the order in which they are
written. -/
theorem readCommand_of_writesAll (written : WritesAll settings arguments)
    (distinct : (settings.map Prod.fst).Nodup)
    (declared : ∀ setting ∈ settings, setting.1 ∈ name.declared) :
    readCommand name arguments = .ok ⟨settings, none, false⟩ := by
  have fit : Fit settings := ⟨distinct, written.isEmpty_eq_false⟩
  have run : ∃ last, arguments.foldlM (readArgument (.within name)) Reading.start = .ok last ∧
      last.Holds settings := run_of_writesAll written (.settled []) fit declared
  obtain ⟨last, isLast, holds⟩ := run
  unfold readCommand
  rw [isLast]
  exact holds.settle fit

end IconForge.CommandLine
