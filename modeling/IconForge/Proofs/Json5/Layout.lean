import IconForge.Proofs.Json5.Literal
import IconForge.Proofs.Text.Case

/-!
Contract: texts that read as a term wherever they stand in a JSON5 text.

Owns:
- what a text is cut into whatever follows it, for symbols, literals and keys;
- what the machine makes of tokens wherever a value, an item or a member is
  due;
- the two together: how a list is laid out from its items and an object from
  its members.

Main statements: `reads_list`, `reads_object`, `parse?_of_reads`.

Does not own: any particular layout.
-/

namespace IconForge.Json5

open IconForge.Script

/-! ### From characters to tokens -/

theorem tokens?_gap {c : Char} (gap : isGap c = true) (rest : List Char) :
    tokens? (c :: rest) = tokens? rest := by
  rw [tokens?.eq_def]
  exact if_pos gap

theorem tokens?_punctuation {c : Char} {token : Token} (mark : punctuation? c = some token)
    (rest : List Char) : tokens? (c :: rest) = (tokens? rest).map (token :: ·) := by
  have noGap : isGap c = false := by
    unfold punctuation? at mark
    split at mark <;> first | rfl | contradiction
  have noSlash : c ≠ '/' := by
    rintro rfl
    simp [punctuation?] at mark
  rw [tokens?.eq_def]
  simp only [noGap, Bool.false_eq_true, if_false, noSlash, mark]

theorem tokens?_long {c : Char} {token : Token} {rest behind : List Char}
    (noGap : isGap c = false) (noSlash : c ≠ '/') (noMark : punctuation? c = none)
    (cut : cutLong? c rest = some (token, behind)) :
    tokens? (c :: rest) = (tokens? behind).map (token :: ·) := by
  rw [tokens?.eq_def]
  simp only [noGap, Bool.false_eq_true, if_false, noSlash, noMark]
  split
  · next cutNone => simp [cut] at cutNone
  · next cutSome =>
    rw [cut] at cutSome
    simp only [Option.some.injEq, Prod.mk.injEq] at cutSome
    rw [cutSome.1, cutSome.2]

/-- The text is cut into the tokens whatever stands behind it. -/
def Lexes (text : String) (tokens : List Token) : Prop :=
  ∀ rest, tokens? (text.toList ++ rest) = (tokens? rest).map (tokens ++ ·)

theorem lexes_append {first second : String} {firstTokens secondTokens : List Token}
    (lexesFirst : Lexes first firstTokens) (lexesSecond : Lexes second secondTokens) :
    Lexes (first ++ second) (firstTokens ++ secondTokens) := by
  intro rest
  rw [String.toList_append, List.append_assoc, lexesFirst, lexesSecond, Option.map_map]
  congr 1
  funext tokens
  exact (List.append_assoc _ _ _).symm

/-- The tokens of a text of punctuation and gaps. -/
def symbols? : List Char → Option (List Token)
  | [] => some []
  | c :: rest =>
    if isGap c then symbols? rest
    else
      match punctuation? c with
      | some token => (symbols? rest).map (token :: ·)
      | none => none

theorem symbols?_gap {c : Char} (gap : isGap c = true) (rest : List Char) :
    symbols? (c :: rest) = symbols? rest :=
  if_pos gap

theorem lexes_symbols {text : String} {tokens : List Token}
    (symbols : symbols? text.toList = some tokens) : Lexes text tokens := by
  intro rest
  generalize text.toList = characters at symbols
  induction characters generalizing tokens with
  | nil =>
    obtain rfl : [] = tokens := Option.some.inj symbols
    exact Option.map_id.symm ▸ rfl
  | cons c characters inductionHypothesis =>
    rw [symbols?] at symbols
    split at symbols
    · next gap =>
      rw [List.cons_append, tokens?_gap gap]
      exact inductionHypothesis symbols
    · split at symbols
      · next token mark =>
        obtain ⟨following, followingSymbols, rfl⟩ := Option.map_eq_some_iff.mp symbols
        rw [List.cons_append, tokens?_punctuation mark, inductionHypothesis followingSymbols,
          Option.map_map]
        rfl
      · contradiction

theorem lexes_literal (text : String) : Lexes (literal text) [.string (literalPieces text)] := by
  intro rest
  have cut : cutLong? '"' (literalBody text.toList ++ '"' :: rest) =
      some (.string (literalPieces text), rest) := by
    rw [cutLong?, if_pos (Or.inl rfl), cutString?_literalBody]
    rfl
  rw [literal, String.toList_ofList, List.cons_append, List.append_assoc]
  exact tokens?_long (by decide) (by decide) (by decide) cut

/-- Graphic characters of ASCII are no gaps. -/
theorem isGap_eq_false {c : Char} (lower : 0x21 ≤ c.toNat) (upper : c.toNat < 0x7F) :
    isGap c = false := by
  have differs (other : Char) (outside : other.toNat < 0x21 ∨ 0x7F ≤ other.toNat) :
      (c == other) = false := by
    rw [beq_eq_false_iff_ne]
    rintro rfl
    omega
  have belowSpaces : decide ('\u2000' ≤ c) = false := by
    rw [decide_eq_false_iff_not]
    intro (atLeast : ('\u2000' : Char).toNat ≤ c.toNat)
    have value : ('\u2000' : Char).toNat = 0x2000 := rfl
    omega
  simp (disch := decide) only [isGap, isLineEnd, differs, belowSpaces, Bool.false_and,
    Bool.or_false]

theorem toNat_of_isIdentifierStart {c : Char} (start : isIdentifierStart c = true) :
    0x21 ≤ c.toNat ∧ c.toNat < 0x7F := by
  simp only [isIdentifierStart, Bool.or_eq_true, beq_iff_eq] at start
  rcases start with (alpha | rfl) | rfl
  · have range := Text.Case.toNat_of_isAlpha alpha
    omega
  · decide
  · decide

theorem punctuation?_of_isIdentifierStart {c : Char} (start : isIdentifierStart c = true) :
    punctuation? c = none := by
  unfold punctuation?
  split <;> first | rfl | exact absurd start (by decide)

theorem lexes_identifier {text : String} (identifier : isIdentifier text = true) :
    Lexes (text ++ ": ") [.word (plainPieces text), .colon] := by
  intro rest
  have behind : tokens? (':' :: ' ' :: rest) = (tokens? rest).map (.colon :: ·) := by
    rw [tokens?_punctuation rfl, tokens?_gap rfl]
  rw [String.toList_append, plainPieces]
  unfold isIdentifier at identifier
  split at identifier
  · contradiction
  · next c characters split =>
    rw [Bool.and_eq_true] at identifier
    obtain ⟨start, parts⟩ := identifier
    obtain ⟨lower, upper⟩ := toNat_of_isIdentifierStart start
    have noQuote : ¬(c = '"' ∨ c = '\'') := by
      rintro (rfl | rfl) <;> exact absurd start (by decide)
    have noSlash : c ≠ '/' := by
      rintro rfl
      exact absurd start (by decide)
    have cutWord := cutWord?_identifier start parts (' ' :: rest)
    have cut : cutLong? c (characters ++ ':' :: ' ' :: rest) =
        some (.word ((c :: characters).map Piece.plain), ':' :: ' ' :: rest) := by
      rw [cutLong?, if_neg noQuote, if_pos (Or.inl (isWordStart_of_isIdentifierStart start)),
        ← List.cons_append, cutWord]
      rfl
    have lexed := tokens?_long (isGap_eq_false lower upper) noSlash
      (punctuation?_of_isIdentifierStart start) cut
    rw [behind, Option.map_map] at lexed
    rw [split, List.append_assoc]
    exact lexed

/-- The token of an object key. -/
def keyToken (text : String) : Token :=
  if isIdentifier text then .word (keyPieces text) else .string (keyPieces text)

theorem lexes_key (text : String) : Lexes (key text ++ ": ") [keyToken text, .colon] := by
  unfold key keyToken keyPieces
  split
  · next identifier => exact lexes_identifier identifier
  · exact lexes_append (lexes_literal text) (lexes_symbols rfl)

/-! ### From tokens to terms -/

namespace Machine

theorem run?_cons (machine : Machine) (token : Token) (rest : List Token) :
    machine.run? (token :: rest) = (machine.step? token).bind fun next => next.run? rest :=
  List.foldlM_cons ..

theorem run?_append (machine : Machine) (first second : List Token) :
    machine.run? (first ++ second) = (machine.run? first).bind fun next => next.run? second :=
  List.foldlM_append ..

/-- Reads tokens of which the first starts a value inside the given frames. -/
def runValue? (frames : List Frame) : List Token → Option Machine
  | [] => none
  | token :: rest => (startValue? frames token).bind fun next => next.run? rest

end Machine

open Machine

/-- The tokens are read as the term wherever a value is due. -/
def Spells (tokens : List Token) (term : Term) : Prop :=
  ∀ frames, runValue? frames tokens = some (complete term frames)

theorem run?_value {tokens : List Token} {term : Term} (spells : Spells tokens term)
    (frames : List Frame) : run? ⟨.value, frames⟩ tokens = some (complete term frames) := by
  cases tokens with
  | nil => exact absurd (spells frames) (by simp [runValue?])
  | cons token rest => exact spells frames

theorem run?_item {tokens : List Token} {term : Term} (spells : Spells tokens term)
    (items : List Term) (frames : List Frame) :
    run? ⟨.item items, frames⟩ tokens = some ⟨.itemComma (items ++ [term]), frames⟩ := by
  have read := spells (.list items :: frames)
  cases tokens with
  | nil => simp [runValue?] at read
  | cons token rest =>
    have noEnd : token ≠ .closeList := by
      rintro rfl
      simp [runValue?, startValue?] at read
    rw [run?_cons]
    have step : step? ⟨.item items, frames⟩ token = startValue? (.list items :: frames) token := by
      cases token <;> first | rfl | contradiction
    rw [step]
    exact read

/-- The tokens are read as the items wherever an item is due, and leave the
next item due. -/
def SpellsItems (tokens : List Token) (items : List Term) : Prop :=
  ∀ done frames, run? ⟨.item done, frames⟩ tokens = some ⟨.item (done ++ items), frames⟩

/-- The tokens are read as the members wherever a key is due, and leave the
next key due. -/
def SpellsMembers (tokens : List Token) (members : List (List Piece × Term)) : Prop :=
  ∀ done frames, run? ⟨.key done, frames⟩ tokens = some ⟨.key (done ++ members), frames⟩

theorem spellsItems_append {first second : List Token} {firstItems secondItems : List Term}
    (spellsFirst : SpellsItems first firstItems) (spellsSecond : SpellsItems second secondItems) :
    SpellsItems (first ++ second) (firstItems ++ secondItems) := by
  intro done frames
  rw [run?_append, spellsFirst, Option.bind_some, spellsSecond, List.append_assoc]

theorem spellsMembers_append {first second : List Token}
    {firstMembers secondMembers : List (List Piece × Term)}
    (spellsFirst : SpellsMembers first firstMembers)
    (spellsSecond : SpellsMembers second secondMembers) :
    SpellsMembers (first ++ second) (firstMembers ++ secondMembers) := by
  intro done frames
  rw [run?_append, spellsFirst, Option.bind_some, spellsSecond, List.append_assoc]

theorem spellsItems_item {tokens : List Token} {term : Term} (spells : Spells tokens term) :
    SpellsItems (tokens ++ [.comma]) [term] := by
  intro done frames
  rw [run?_append, run?_item spells]
  rfl

theorem run?_member (name : String) {tokens : List Token} {term : Term}
    (spells : Spells tokens term) (done : List (List Piece × Term)) (frames : List Frame) :
    run? ⟨.key done, frames⟩ (keyToken name :: .colon :: tokens) =
      some ⟨.memberComma (done ++ [(keyPieces name, term)]), frames⟩ := by
  have keyStep : step? ⟨.key done, frames⟩ (keyToken name) =
      some ⟨.colon done (keyPieces name), frames⟩ := by
    unfold keyToken
    split <;> rfl
  rw [run?_cons, keyStep, Option.bind_some, run?_cons]
  exact run?_value spells (.object done (keyPieces name) :: frames)

theorem spellsMembers_member (name : String) {tokens : List Token} {term : Term}
    (spells : Spells tokens term) :
    SpellsMembers (keyToken name :: .colon :: tokens ++ [.comma]) [(keyPieces name, term)] := by
  intro done frames
  rw [run?_append, run?_member name spells]
  rfl

theorem spells_list {tokens : List Token} {items : List Term}
    (spells : SpellsItems tokens items) :
    Spells (.openList :: tokens ++ [.closeList]) (.list items) := by
  intro frames
  change run? ⟨.item [], frames⟩ (tokens ++ [.closeList]) = _
  rw [run?_append, spells]
  rfl

theorem spells_object {tokens : List Token} {members : List (List Piece × Term)}
    (spells : SpellsMembers tokens members) :
    Spells (.openObject :: tokens ++ [.closeObject]) (.object members) := by
  intro frames
  change run? ⟨.key [], frames⟩ (tokens ++ [.closeObject]) = _
  rw [run?_append, spells]
  rfl

/-- The comma behind the last member may be left out. -/
theorem spells_object_open {tokens lastTokens : List Token}
    {members : List (List Piece × Term)} (name : String) {last : Term}
    (spells : SpellsMembers tokens members) (spellsLast : Spells lastTokens last) :
    Spells (.openObject :: tokens ++ keyToken name :: .colon :: lastTokens ++ [.closeObject])
      (.object (members ++ [(keyPieces name, last)])) := by
  intro frames
  change run? ⟨.key [], frames⟩ (tokens ++ keyToken name :: .colon :: lastTokens ++
    [.closeObject]) = _
  rw [run?_append, run?_append, spells, Option.bind_some, run?_member name spellsLast]
  rfl

/-! ### Layouts -/

/-- The text reads as the term wherever a value is due. -/
def Reads (text : String) (term : Term) : Prop :=
  ∃ tokens, Lexes text tokens ∧ Spells tokens term

/-- The text reads as items, with a comma behind each. -/
def ReadsItems (text : String) (items : List Term) : Prop :=
  ∃ tokens, Lexes text tokens ∧ SpellsItems tokens items

/-- The text reads as members, with a comma behind each. -/
def ReadsMembers (text : String) (members : List (List Piece × Term)) : Prop :=
  ∃ tokens, Lexes text tokens ∧ SpellsMembers tokens members

theorem reads_literal (text : String) : Reads (literal text) (.string (literalPieces text)) :=
  ⟨_, lexes_literal text, fun _ => rfl⟩

theorem readsItems_nil : ReadsItems "" [] :=
  ⟨[], lexes_symbols rfl, fun done frames => by rw [List.append_nil]; rfl⟩

theorem readsItems_append {first second : String} {firstItems secondItems : List Term}
    (readsFirst : ReadsItems first firstItems) (readsSecond : ReadsItems second secondItems) :
    ReadsItems (first ++ second) (firstItems ++ secondItems) := by
  obtain ⟨firstTokens, lexesFirst, spellsFirst⟩ := readsFirst
  obtain ⟨secondTokens, lexesSecond, spellsSecond⟩ := readsSecond
  exact ⟨_, lexes_append lexesFirst lexesSecond, spellsItems_append spellsFirst spellsSecond⟩

theorem readsItems_item (lead trail : String) {text : String} {term : Term}
    (leadGaps : symbols? lead.toList = some []) (reads : Reads text term)
    (trailComma : symbols? trail.toList = some [.comma]) :
    ReadsItems (lead ++ text ++ trail) [term] := by
  obtain ⟨tokens, lexes, spells⟩ := reads
  exact ⟨_, lexes_append (lexes_append (lexes_symbols leadGaps) lexes) (lexes_symbols trailComma),
    spellsItems_item spells⟩

theorem readsMembers_nil : ReadsMembers "" [] :=
  ⟨[], lexes_symbols rfl, fun done frames => by rw [List.append_nil]; rfl⟩

theorem readsMembers_append {first second : String}
    {firstMembers secondMembers : List (List Piece × Term)}
    (readsFirst : ReadsMembers first firstMembers)
    (readsSecond : ReadsMembers second secondMembers) :
    ReadsMembers (first ++ second) (firstMembers ++ secondMembers) := by
  obtain ⟨firstTokens, lexesFirst, spellsFirst⟩ := readsFirst
  obtain ⟨secondTokens, lexesSecond, spellsSecond⟩ := readsSecond
  exact ⟨_, lexes_append lexesFirst lexesSecond, spellsMembers_append spellsFirst spellsSecond⟩

theorem readsMembers_member (lead trail name : String) {text : String} {term : Term}
    (leadGaps : symbols? lead.toList = some []) (reads : Reads text term)
    (trailComma : symbols? trail.toList = some [.comma]) :
    ReadsMembers (lead ++ (key name ++ ": ") ++ text ++ trail) [(keyPieces name, term)] := by
  obtain ⟨tokens, lexes, spells⟩ := reads
  exact ⟨_, lexes_append (lexes_append (lexes_append (lexes_symbols leadGaps) (lexes_key name))
    lexes) (lexes_symbols trailComma), spellsMembers_member name spells⟩

theorem reads_list (start stop : String) {text : String} {items : List Term}
    (startBracket : symbols? start.toList = some [.openList]) (reads : ReadsItems text items)
    (stopBracket : symbols? stop.toList = some [.closeList]) :
    Reads (start ++ text ++ stop) (.list items) := by
  obtain ⟨tokens, lexes, spells⟩ := reads
  exact ⟨_, lexes_append (lexes_append (lexes_symbols startBracket) lexes)
    (lexes_symbols stopBracket), spells_list spells⟩

theorem reads_object (start stop : String) {text : String} {members : List (List Piece × Term)}
    (startBrace : symbols? start.toList = some [.openObject]) (reads : ReadsMembers text members)
    (stopBrace : symbols? stop.toList = some [.closeObject]) :
    Reads (start ++ text ++ stop) (.object members) := by
  obtain ⟨tokens, lexes, spells⟩ := reads
  exact ⟨_, lexes_append (lexes_append (lexes_symbols startBrace) lexes)
    (lexes_symbols stopBrace), spells_object spells⟩

theorem reads_object_open (start stop name : String) {text lastText : String}
    {members : List (List Piece × Term)} {last : Term}
    (startBrace : symbols? start.toList = some [.openObject]) (reads : ReadsMembers text members)
    (readsLast : Reads lastText last) (stopBrace : symbols? stop.toList = some [.closeObject]) :
    Reads (start ++ text ++ ((key name ++ ": ") ++ lastText) ++ stop)
      (.object (members ++ [(keyPieces name, last)])) := by
  obtain ⟨tokens, lexes, spells⟩ := reads
  obtain ⟨lastTokens, lexesLast, spellsLast⟩ := readsLast
  exact ⟨_, lexes_append (lexes_append (lexes_append (lexes_symbols startBrace) lexes)
    (lexes_append (lexes_key name) lexesLast)) (lexes_symbols stopBrace),
    spells_object_open name spells spellsLast⟩

/-- A text that reads as a term is that term on its own. -/
theorem parse?_of_reads {text : String} {term : Term} (reads : Reads text term) :
    Term.parse? text.toList = some term := by
  obtain ⟨tokens, lexes, spells⟩ := reads
  have tokensEqual : tokens? text.toList = some tokens := by
    have lexed := lexes []
    rw [List.append_nil] at lexed
    rw [lexed]
    unfold tokens?
    exact congrArg some (List.append_nil tokens)
  rw [Term.parse?, tokensEqual]
  change (Machine.run? ⟨.value, []⟩ tokens).bind _ = _
  rw [run?_value spells]
  rfl

end IconForge.Json5
