import IconForge.Proofs.Json5.Layout
import IconForge.Proofs.Script.Reader
import IconForge.Script.Expression
import Mathlib.Data.List.Forall2

/-!
Contract: texts that read as an expression wherever they stand in a script.

Owns:
- what a text is cut into in front of anything that does not go on with a word;
- what the machine makes of tokens wherever an expression, an item or a
  property is due;
- the two together: how lists, properties and calls are laid out.

Main statements: `reads_list`, `readsProps_object`, `reads_create`,
`read?_of_reads`.

Does not own: trees, and the expressions that they are written as.
-/

namespace IconForge.Script.Reader

variable {alphabet : Alphabet} {c : Char} {rest : List Char} {text first second name : String}
  {tokens firstTokens secondTokens : List Token}

/-! ### Characters -/

theorem toNat_of_isIdentifierPart (part : isIdentifierPart c = true) : c.toNat < 0x80 := by
  rcases Bool.or_eq_true_iff.mp part with start | digit
  · have range := Json5.toNat_of_isIdentifierStart start
    omega
  · have atMost : c.toNat ≤ '9'.toNat := (Char.isDigit_iff_toNat.mp digit).2
    exact Nat.lt_of_le_of_lt atMost (by decide)

namespace Alphabet

theorem isIdentifier_of_ascii (alphabet : Alphabet) (identifier : Script.isIdentifier text = true) :
    alphabet.isIdentifier text = true := by
  unfold Script.isIdentifier at identifier
  unfold Alphabet.isIdentifier
  generalize text.toList = characters at identifier ⊢
  cases characters with
  | nil => cases identifier
  | cons first following =>
    simp only [Bool.and_eq_true, List.all_eq_true] at identifier ⊢
    obtain ⟨start, parts⟩ := identifier
    have isAscii := (Json5.toNat_of_isIdentifierStart start).2
    refine ⟨(alphabet.starts_ascii first (by omega)).trans start, fun c member => ?_⟩
    have part := parts c member
    exact (alphabet.continues_ascii c (toNat_of_isIdentifierPart part)).trans part

end Alphabet

/-- Whether a character ends a word in front of it: a mark, a gap or a quote. -/
def isBreak (c : Char) : Bool :=
  isMark c || c == ' ' || c == '\n' || c == '"'

/-- Nothing goes on with a word here. -/
def Breaks (alphabet : Alphabet) (text : List Char) : Prop :=
  ∀ c ∈ text.head?, alphabet.continues c = false

theorem isBreak_cases (breaks : isBreak c = true) :
    c.toNat < 0x80 ∧ isIdentifierPart c = false ∧ isIdentifierStart c = false ∧
      c.isDigit = false := by
  simp only [isBreak, isMark, Bool.or_eq_true, beq_iff_eq] at breaks
  rcases breaks with ((((((((((rfl | rfl) | rfl) | rfl) | rfl) | rfl) | rfl) | rfl) | rfl) | rfl) |
    rfl) | rfl <;> decide

theorem breaks_cons (alphabet : Alphabet) (breaks : isBreak c = true) (rest : List Char) :
    Breaks alphabet (c :: rest) := by
  intro head isHead
  cases isHead
  obtain ⟨isAscii, noPart, -⟩ := isBreak_cases breaks
  exact (alphabet.continues_ascii c isAscii).trans noPart

theorem breaks_nil : Breaks alphabet [] :=
  fun _ isHead => nomatch isHead

theorem takeWhile_breaks {following : List Char} {test : Char → Bool}
    (all : ∀ c ∈ following, test c = true) (breaks : ∀ c ∈ rest.head?, test c = false) :
    (following ++ rest).takeWhile test = following ∧
      (following ++ rest).dropWhile test = rest := by
  rw [List.takeWhile_append_of_pos all, List.dropWhile_append_of_pos all]
  cases rest with
  | nil => simp
  | cons c rest =>
    have stops := breaks c rfl
    simp [stops]

/-! ### From characters to tokens -/

theorem tokens?_blank (blank : c = ' ' ∨ c = '\n') :
    tokens? alphabet (c :: rest) = tokens? alphabet rest := by
  have breaks : isBreak c = true ∧ Json5.isGap c = true := by
    rcases blank with rfl | rfl <;> decide
  obtain ⟨isAscii, -, noStart, -⟩ := isBreak_cases breaks.1
  rw [tokens?.eq_def]
  simp only [alphabet.starts_ascii c isAscii, noStart, breaks.2, Bool.false_eq_true, if_false,
    if_true]

theorem tokens?_mark (mark : isMark c = true) :
    tokens? alphabet (c :: rest) = (tokens? alphabet rest).map (.mark c :: ·) := by
  have breaks : isBreak c = true := by simp [isBreak, mark]
  have noGap : Json5.isGap c = false ∧ c ≠ '"' := by
    simp only [isMark, Bool.or_eq_true, beq_iff_eq] at mark
    rcases mark with (((((((rfl | rfl) | rfl) | rfl) | rfl) | rfl) | rfl) | rfl) | rfl <;> decide
  obtain ⟨isAscii, -, noStart, noDigit⟩ := isBreak_cases breaks
  rw [tokens?.eq_def]
  simp only [alphabet.starts_ascii c isAscii, noStart, noGap, noDigit, mark, Bool.false_eq_true,
    if_false, if_true]

/-- The text is cut into the tokens in front of anything that does not go on
with a word. -/
def Lexes (alphabet : Alphabet) (text : String) (tokens : List Token) : Prop :=
  ∀ rest, Breaks alphabet rest →
    tokens? alphabet (text.toList ++ rest) = (tokens? alphabet rest).map (tokens ++ ·)

theorem lexes_append (lexesFirst : Lexes alphabet first firstTokens)
    (lexesSecond : Lexes alphabet second secondTokens) (breaks : Breaks alphabet second.toList) :
    Lexes alphabet (first ++ second) (firstTokens ++ secondTokens) := by
  intro rest breaksBehind
  have breaksBetween : Breaks alphabet (second.toList ++ rest) := by
    cases isSecond : second.toList with
    | nil => exact breaksBehind
    | cons c following =>
      rw [isSecond] at breaks
      exact breaks
  rw [String.toList_append, List.append_assoc, lexesFirst _ breaksBetween,
    lexesSecond rest breaksBehind, Option.map_map]
  congr 1
  funext tokens
  exact (List.append_assoc _ _ _).symm

/-- The tokens of a text of marks and blanks. -/
def symbols? : List Char → Option (List Token)
  | [] => some []
  | c :: rest =>
    if c = ' ' ∨ c = '\n' then symbols? rest
    else if isMark c then (symbols? rest).map (.mark c :: ·)
    else none

/-- What stands behind marks and blanks does not depend on them. -/
theorem lexes_symbols_append (symbols : symbols? first.toList = some firstTokens)
    (lexes : Lexes alphabet second secondTokens) :
    Lexes alphabet (first ++ second) (firstTokens ++ secondTokens) := by
  intro rest breaks
  rw [String.toList_append, List.append_assoc]
  generalize first.toList = characters at symbols
  induction characters generalizing firstTokens with
  | nil =>
    obtain rfl : [] = firstTokens := Option.some.inj symbols
    exact lexes rest breaks
  | cons c characters inductionHypothesis =>
    rw [symbols?] at symbols
    split at symbols
    · next blank =>
      rw [List.cons_append, tokens?_blank blank]
      exact inductionHypothesis symbols
    · split at symbols
      · next mark =>
        obtain ⟨following, followingSymbols, rfl⟩ := Option.map_eq_some_iff.mp symbols
        rw [List.cons_append, tokens?_mark mark, inductionHypothesis followingSymbols,
          Option.map_map]
        rfl
      · cases symbols

/-- Marks and blanks end a word in front of them. -/
theorem breaks_of_symbols? (alphabet : Alphabet) (symbols : symbols? text.toList = some tokens) :
    Breaks alphabet text.toList := by
  cases isText : text.toList with
  | nil => exact breaks_nil
  | cons c rest =>
    rw [isText, symbols?] at symbols
    apply breaks_cons
    split at symbols
    · next blank => rcases blank with rfl | rfl <;> decide
    · split at symbols
      · next mark => simp [isBreak, mark]
      · cases symbols

theorem lexes_nil (alphabet : Alphabet) : Lexes alphabet "" [] := by
  intro rest _
  exact Option.map_id.symm ▸ rfl

theorem lexes_symbols (symbols : symbols? text.toList = some tokens) :
    Lexes alphabet text tokens := by
  have lexes := lexes_symbols_append symbols (lexes_nil alphabet)
  rwa [String.append_empty, List.append_nil] at lexes

theorem lexes_word (identifier : alphabet.isIdentifier name = true) :
    Lexes alphabet name [.word name] := by
  intro rest breaks
  unfold Alphabet.isIdentifier at identifier
  split at identifier
  · cases identifier
  · next c following isName =>
    rw [Bool.and_eq_true, List.all_eq_true] at identifier
    obtain ⟨taken, left⟩ := takeWhile_breaks identifier.2 breaks
    have whole : String.ofList (c :: following) = name := by
      rw [← isName, String.ofList_toList]
    rw [isName, List.cons_append, tokens?.eq_def]
    simp only [identifier.1, if_true, taken, left, whole]
    rfl

theorem isDigit_cases (digit : c.isDigit = true) :
    c.toNat < 0x80 ∧ isIdentifierStart c = false ∧ Json5.isGap c = false := by
  obtain ⟨atLeast, atMost⟩ := Char.isDigit_iff_toNat.mp digit
  have zero : '0'.toNat = 0x30 := rfl
  have nine : '9'.toNat = 0x39 := rfl
  refine ⟨by omega, ?_, Json5.isGap_eq_false (by omega) (by omega)⟩
  rw [Bool.eq_false_iff]
  intro start
  simp only [isIdentifierStart, Bool.or_eq_true, beq_iff_eq] at start
  rcases start with (letter | rfl) | rfl
  · have range := Text.Case.toNat_of_isAlpha letter
    omega
  · cases digit
  · cases digit

theorem lexes_number (value : Nat) : Lexes alphabet (toString value) [.number value] := by
  intro rest breaks
  have digits : ∀ c ∈ Nat.toDigits 10 value, c.isDigit = true := by
    intro c member
    exact Nat.isDigit_of_mem_toDigits (by decide) (by decide) member
  have isValue : Nat.ofDigitChars 10 (Nat.toDigits 10 value) 0 = value :=
    Nat.ofDigitChars_toDigits (by decide) (by decide)
  have breaksDigits : ∀ c ∈ rest.head?, c.isDigit = false := by
    intro c isHead
    rw [Bool.eq_false_iff]
    intro digit
    have part : isIdentifierPart c = true := Bool.or_eq_true_iff.mpr (Or.inr digit)
    have continues := alphabet.continues_ascii c (toNat_of_isIdentifierPart part)
    rw [breaks c isHead, part] at continues
    cases continues
  have isText : (toString value).toList = Nat.toDigits 10 value := String.toList_ofList
  rw [isText]
  cases isDigits : Nat.toDigits 10 value with
  | nil => exact absurd isDigits Nat.toDigits_ne_nil
  | cons c following =>
    rw [isDigits] at digits isValue
    rw [List.forall_mem_cons] at digits
    obtain ⟨isAscii, noStart, noGap⟩ := isDigit_cases digits.1
    obtain ⟨taken, left⟩ := takeWhile_breaks digits.2 breaksDigits
    rw [List.cons_append, tokens?.eq_def]
    simp only [alphabet.starts_ascii c isAscii, noStart, noGap, digits.1, Bool.false_eq_true,
      if_false, if_true, taken, left, isValue]
    rfl

theorem lexes_literal (text : String) : Lexes alphabet (literal text) [.string text] := by
  intro rest _
  have noStart : alphabet.starts '"' = false := alphabet.starts_ascii '"' (by decide)
  have noGap : Json5.isGap '"' = false := by decide
  have noDigit : Char.isDigit '"' = false := by decide
  have cut := Json5.cutString?_literalBody text.toList rest
  have isValue : stringValue? (text.toList.map Json5.literalPiece) = some text :=
    congrArg Except.toOption (Json5.stringOf_literalPieces text)
  rw [literal, String.toList_ofList, List.cons_append, List.append_assoc, List.singleton_append,
    tokens?.eq_def]
  simp only [noStart, noGap, noDigit, Bool.false_eq_true, if_false, if_true]
  split
  · next cutNone =>
    rw [cut] at cutNone
    cases cutNone
  · next cutSome =>
    rw [cut] at cutSome
    cases cutSome
    rw [isValue]
    rfl

theorem breaks_of_head (alphabet : Alphabet) (starts : first.toList.head? = some c)
    (breaks : isBreak c = true) (second : String) : Breaks alphabet (first ++ second).toList := by
  obtain ⟨following, isFirst⟩ := List.head?_eq_some_iff.mp starts
  rw [String.toList_append, isFirst]
  exact breaks_cons alphabet breaks _

theorem symbols?_spaces {blanks : List Char} (spaces : ∀ c ∈ blanks, c = ' ')
    (behind : List Char) : symbols? (blanks ++ behind) = symbols? behind := by
  induction blanks with
  | nil => rfl
  | cons c blanks inductionHypothesis =>
    rw [List.forall_mem_cons] at spaces
    rw [List.cons_append, symbols?, if_pos (Or.inl spaces.1)]
    exact inductionHypothesis spaces.2

/-- The blanks of an indent separate nothing. -/
theorem symbols?_indented (front back : String) {indent : String}
    (spaces : ∀ c ∈ indent.toList, c = ' ') :
    symbols? (front ++ indent ++ back).toList = symbols? (front.toList ++ back.toList) := by
  rw [String.toList_append, String.toList_append, List.append_assoc]
  induction front.toList with
  | nil => exact symbols?_spaces spaces back.toList
  | cons c following inductionHypothesis =>
    simp only [List.cons_append, symbols?, inductionHypothesis]

/-- Texts with a separator between them are cut one after another. -/
theorem lexes_intercalate {separator : String} {texts : List String}
    {tokenLists : List (List Token)}
    (isSeparator : symbols? separator.toList = some [.mark ','])
    (starts : separator.toList.head? = some ',')
    (each : List.Forall₂ (Lexes alphabet) texts tokenLists) :
    Lexes alphabet (String.intercalate separator texts) ([.mark ','].intercalate tokenLists) := by
  induction each with
  | nil => exact lexes_nil alphabet
  | cons lexes others inductionHypothesis =>
    cases others with
    | nil =>
      rw [String.intercalate_singleton, List.intercalate_singleton]
      exact lexes
    | cons next others =>
      have breaks := breaks_of_head alphabet starts (by decide)
      rw [String.intercalate_cons_cons, List.intercalate_cons_cons, String.append_assoc,
        List.append_assoc]
      exact lexes_append lexes (lexes_symbols_append isSeparator inductionHypothesis) (breaks _)

/-! ### From tokens to expressions -/

namespace Machine

theorem run?_cons (machine : Machine) (token : Token) (rest : List Token) :
    machine.run? (token :: rest) = (machine.step? token).bind fun next => next.run? rest :=
  List.foldlM_cons ..

theorem run?_append (machine : Machine) (first second : List Token) :
    machine.run? (first ++ second) = (machine.run? first).bind fun next => next.run? second :=
  List.foldlM_append ..

/-- Reads tokens of which the first starts an expression inside the given
frames. -/
def runValue? (frames : List Frame) : List Token → Option Machine
  | [] => none
  | token :: rest => (startValue? frames token).bind fun next => next.run? rest

end Machine

open Machine

variable {expression : Expression} {items : List Expression} {tag : List String}
  {property : String × PropValue} {properties : List (String × PropValue)}
  {props : Option (List (String × PropValue))} {arguments : List Expression}
  {tokenLists : List (List Token)}

/-- The tokens are read as the expression wherever an expression is due. -/
def Spells (tokens : List Token) (expression : Expression) : Prop :=
  ∀ frames, runValue? frames tokens = some (complete expression frames)

theorem run?_value (spells : Spells tokens expression) (frames : List Frame) :
    run? ⟨.value, frames⟩ tokens = some (complete expression frames) := by
  cases tokens with
  | nil => exact absurd (spells frames) (by simp [runValue?])
  | cons token rest => exact spells frames

theorem run?_item (spells : Spells tokens expression) (done : List Expression)
    (frames : List Frame) :
    run? ⟨.item done, frames⟩ tokens = some ⟨.itemEnd (done ++ [expression]), frames⟩ := by
  have read := spells (.list done :: frames)
  cases tokens with
  | nil => simp [runValue?] at read
  | cons token rest =>
    -- No expression starts with the bracket that would end the list here.
    have noEnd : token ≠ .mark ']' := by
      rintro rfl
      simp [runValue?, startValue?] at read
    have step : step? ⟨.item done, frames⟩ token = startValue? (.list done :: frames) token := by
      unfold step?
      split <;> simp_all
    rw [run?_cons, step]
    exact read

/-- What is collected one by one, with commas between, is collected as a
whole. -/
theorem run?_intercalate {Item : Type} {items : List Item} (before behind : List Item → Machine)
    (separates : ∀ done, step? (behind done) (.mark ',') = some (before done))
    (each : List.Forall₂
      (fun tokens item => ∀ done, run? (before done) tokens = some (behind (done ++ [item])))
      tokenLists items)
    (notEmpty : items ≠ []) (done : List Item) :
    run? (before done) ([.mark ','].intercalate tokenLists) = some (behind (done ++ items)) := by
  induction each generalizing done with
  | nil => exact absurd rfl notEmpty
  | @cons tokens item _ _ collects others inductionHypothesis =>
    cases others with
    | nil =>
      rw [List.intercalate_singleton]
      exact collects done
    | cons next others =>
      have read := inductionHypothesis (List.cons_ne_nil _ _) (done ++ [item])
      rw [List.append_assoc] at read
      rw [List.intercalate_cons_cons, List.append_assoc, run?_append, collects, Option.bind_some,
        List.singleton_append, run?_cons, separates]
      exact read

theorem spells_list (each : List.Forall₂ Spells tokenLists items) :
    Spells (.mark '[' :: [.mark ','].intercalate tokenLists ++ [.mark ']']) (.list items) := by
  intro frames
  change run? ⟨.item [], frames⟩ ([.mark ','].intercalate tokenLists ++ [.mark ']']) = _
  by_cases isEmpty : items = []
  · subst isEmpty
    cases each
    rfl
  · have collect := run?_intercalate (⟨.item ·, frames⟩) (⟨.itemEnd ·, frames⟩) (fun _ => rfl)
      (each.imp fun _ _ spells done => run?_item spells done frames) isEmpty []
    rw [run?_append, collect]
    rfl

/-- The tokens are read as the property wherever one is due. -/
def SpellsProp (tokens : List Token) (property : String × PropValue) : Prop :=
  ∀ tag done frames,
    run? ⟨.prop tag done, frames⟩ tokens = some ⟨.propEnd tag (done ++ [property]), frames⟩

/-- The tokens are read as the second argument of an element's call. -/
def SpellsProps (tokens : List Token) (props : Option (List (String × PropValue))) : Prop :=
  ∀ tag frames, run? ⟨.props tag, frames⟩ tokens = some ⟨.argumentEnd tag props [], frames⟩

/-- The tokens are read as the rest of an element's call, behind its first two
arguments. -/
def SpellsEnd (tokens : List Token) (arguments : List Expression) : Prop :=
  ∀ tag props frames,
    run? ⟨.argumentEnd tag props [], frames⟩ tokens =
      some (complete (.create tag props arguments) frames)

theorem spellsProps_object (each : List.Forall₂ SpellsProp tokenLists properties) :
    SpellsProps (.mark '\x7b' :: [.mark ','].intercalate tokenLists ++ [.mark '\x7d'])
      (some properties) := by
  intro tag frames
  change run? ⟨.prop tag [], frames⟩ ([.mark ','].intercalate tokenLists ++ [.mark '\x7d']) = _
  by_cases isEmpty : properties = []
  · subst isEmpty
    cases each
    rfl
  · have collect := run?_intercalate (⟨.prop tag ·, frames⟩) (⟨.propEnd tag ·, frames⟩)
      (fun _ => rfl) (each.imp fun _ _ spells done => spells tag done frames) isEmpty []
    rw [run?_append, collect]
    rfl

theorem spellsEnd_argument (spells : Spells tokens expression) :
    SpellsEnd (.mark ',' :: tokens ++ [.mark ')']) [expression] := by
  intro tag props frames
  change run? ⟨.value, .create tag props [] :: frames⟩ (tokens ++ [.mark ')']) = _
  rw [run?_append, run?_value spells]
  rfl

theorem spells_create {propTokens endTokens : List Token} (first second : String)
    (spellsProps : SpellsProps propTokens props) (spellsEnd : SpellsEnd endTokens arguments) :
    Spells
      ([.word "React", .mark '.', .word "createElement", .mark '(', .word first, .mark '.',
        .word second, .mark ','] ++ (propTokens ++ endTokens))
      (.create [first, second] props arguments) := by
  intro frames
  change run? ⟨.props [first, second], frames⟩ (propTokens ++ endTokens) = _
  rw [run?_append, spellsProps, Option.bind_some, spellsEnd]

/-! ### Texts -/

variable {texts : List String} {props : Option (List (String × PropValue))}

/-- The text is the expression, wherever it stands. -/
def Reads (alphabet : Alphabet) (text : String) (expression : Expression) : Prop :=
  ∃ tokens, Lexes alphabet text tokens ∧ Spells tokens expression

def ReadsProp (alphabet : Alphabet) (text : String) (property : String × PropValue) : Prop :=
  ∃ tokens, Lexes alphabet text tokens ∧ SpellsProp tokens property

def ReadsProps (alphabet : Alphabet) (text : String)
    (props : Option (List (String × PropValue))) : Prop :=
  ∃ tokens, Lexes alphabet text tokens ∧ SpellsProps tokens props

/-- The text is the rest of an element's call, behind its first two arguments. -/
def ReadsEnd (alphabet : Alphabet) (text : String) (arguments : List Expression) : Prop :=
  Breaks alphabet text.toList ∧
    ∃ tokens, Lexes alphabet text tokens ∧ SpellsEnd tokens arguments

theorem read?_of_reads (reads : Reads alphabet text expression) :
    Expression.read? alphabet text = some expression := by
  obtain ⟨tokens, lexes, spells⟩ := reads
  have cut := lexes [] breaks_nil
  have noTokens : tokens? alphabet [] = some [] := by rw [tokens?.eq_def]
  rw [List.append_nil, noTokens, Option.map_some, List.append_nil] at cut
  have run : Machine.start.run? tokens = some ⟨.nothing expression, []⟩ := run?_value spells []
  simp only [Expression.read?, cut, run, Option.bind_eq_bind, Option.bind_some]

/-- Texts that are each cut into tokens of a kind have lists of such tokens. -/
theorem exists_tokenLists {Item : Type} {items : List Item} {spells : List Token → Item → Prop}
    (each : List.Forall₂
      (fun text item => ∃ tokens, Lexes alphabet text tokens ∧ spells tokens item) texts items) :
    ∃ tokenLists, List.Forall₂ (Lexes alphabet) texts tokenLists ∧
      List.Forall₂ spells tokenLists items := by
  induction each with
  | nil => exact ⟨[], .nil, .nil⟩
  | cons exists_tokens _ inductionHypothesis =>
    obtain ⟨tokens, lexes, spells⟩ := exists_tokens
    obtain ⟨tokenLists, lexesOthers, spellsOthers⟩ := inductionHypothesis
    exact ⟨tokens :: tokenLists, .cons lexes lexesOthers, .cons spells spellsOthers⟩

theorem reads_literal (text : String) : Reads alphabet (literal text) (.text text) :=
  ⟨_, lexes_literal text, fun _ => rfl⟩

theorem reads_null : Reads alphabet "null" .null :=
  ⟨_, lexes_word (alphabet.isIdentifier_of_ascii (by decide)), fun _ => rfl⟩

/-- Texts between brackets and commas are a list, however marks and blanks are
laid out around them. -/
theorem reads_list (opening separator closing : String)
    (isOpening : symbols? opening.toList = some [.mark '['])
    (isSeparator : symbols? separator.toList = some [.mark ','])
    (starts : separator.toList.head? = some ',')
    (isClosing : symbols? closing.toList = some [.mark ']'])
    (each : List.Forall₂ (Reads alphabet) texts items) :
    Reads alphabet (opening ++ String.intercalate separator texts ++ closing) (.list items) := by
  obtain ⟨tokenLists, lexesEach, spellsEach⟩ := exists_tokenLists each
  refine ⟨_, ?_, spells_list spellsEach⟩
  have lexesItems := lexes_intercalate isSeparator starts lexesEach
  have lexes := lexes_symbols_append isOpening
    (lexes_append lexesItems (lexes_symbols isClosing) (breaks_of_symbols? alphabet isClosing))
  rw [String.append_assoc]
  exact lexes

theorem reads_indentedList {indent : String} (spaces : ∀ c ∈ indent.toList, c = ' ')
    (each : List.Forall₂ (Reads alphabet) texts items) :
    Reads alphabet (indentedList indent texts) (.list items) := by
  have isOpening : symbols? ("[\n" ++ indent ++ "  ").toList = some [.mark '['] :=
    symbols?_indented "[\n" "  " spaces
  have isSeparator : symbols? (",\n" ++ indent ++ "  ").toList = some [.mark ','] :=
    symbols?_indented ",\n" "  " spaces
  have starts : (",\n" ++ indent ++ "  ").toList.head? = some ',' := by
    rw [String.toList_append, String.toList_append]
    rfl
  have isClosing : symbols? ("\n" ++ indent ++ "]").toList = some [.mark ']'] :=
    symbols?_indented "\n" "]" spaces
  have reads := reads_list _ _ _ isOpening isSeparator starts isClosing each
  simp only [indentedList, String.append_assoc] at reads ⊢
  exact reads

theorem readsProps_null : ReadsProps alphabet "null" none :=
  ⟨_, lexes_word (alphabet.isIdentifier_of_ascii (by decide)), fun _ _ => rfl⟩

theorem readsProps_object (each : List.Forall₂ (ReadsProp alphabet) texts properties) :
    ReadsProps alphabet ("\x7b" ++ String.intercalate ", " texts ++ "\x7d")
      (some properties) := by
  obtain ⟨tokenLists, lexesEach, spellsEach⟩ := exists_tokenLists each
  refine ⟨_, ?_, spellsProps_object spellsEach⟩
  have lexesItems : Lexes alphabet (String.intercalate ", " texts) _ :=
    lexes_intercalate rfl rfl lexesEach
  have lexesClosing : Lexes alphabet "\x7d" [.mark '\x7d'] := lexes_symbols rfl
  have breaks : Breaks alphabet "\x7d".toList := breaks_cons alphabet (by decide) []
  have opening : symbols? "\x7b".toList = some [.mark '\x7b'] := rfl
  have lexes := lexes_symbols_append opening (lexes_append lexesItems lexesClosing breaks)
  rw [String.append_assoc]
  exact lexes

theorem readsEnd_nothing : ReadsEnd alphabet ")" [] :=
  ⟨breaks_cons alphabet (by decide) [], _, lexes_symbols rfl, fun _ _ _ => rfl⟩

theorem readsEnd_argument (reads : Reads alphabet text expression) :
    ReadsEnd alphabet (", " ++ (text ++ ")")) [expression] := by
  obtain ⟨tokens, lexes, spells⟩ := reads
  have lexesClosing : Lexes alphabet ")" [.mark ')'] := lexes_symbols rfl
  have breaks : Breaks alphabet ")".toList := breaks_cons alphabet (by decide) []
  have comma : symbols? ", ".toList = some [.mark ','] := rfl
  exact ⟨breaks_of_head alphabet rfl (by decide) _, _,
    lexes_symbols_append comma (lexes_append lexes lexesClosing breaks), spellsEnd_argument spells⟩

theorem lexes_dotted (isFirst : alphabet.isIdentifier first = true)
    (isSecond : alphabet.isIdentifier second = true) :
    Lexes alphabet (first ++ ("." ++ second)) [.word first, .mark '.', .word second] := by
  have dot : symbols? ".".toList = some [.mark '.'] := rfl
  exact lexes_append (lexes_word isFirst) (lexes_symbols_append dot (lexes_word isSecond))
    (breaks_of_head alphabet rfl (by decide) _)

theorem reads_create {propText endText : String} (isFirst : alphabet.isIdentifier first = true)
    (isSecond : alphabet.isIdentifier second = true)
    (readsProps : ReadsProps alphabet propText props)
    (readsEnd : ReadsEnd alphabet endText arguments) :
    Reads alphabet
      ("React.createElement(" ++ (first ++ ("." ++ second)) ++ ", " ++ propText ++ endText)
      (.create [first, second] props arguments) := by
  obtain ⟨propTokens, lexesProps, spellsProps⟩ := readsProps
  obtain ⟨breaks, endTokens, lexesEnd, spellsEnd⟩ := readsEnd
  refine ⟨_, ?_, spells_create first second spellsProps spellsEnd⟩
  have lexesCreator : Lexes alphabet ("React" ++ ("." ++ "createElement")) _ :=
    lexes_dotted (alphabet.isIdentifier_of_ascii (by decide))
      (alphabet.isIdentifier_of_ascii (by decide))
  have opening : symbols? "(".toList = some [.mark '('] := rfl
  have comma : symbols? ", ".toList = some [.mark ','] := rfl
  have lexesArguments := lexes_append (lexes_dotted isFirst isSecond)
    (lexes_symbols_append comma (lexes_append lexesProps lexesEnd breaks))
    (breaks_of_head alphabet rfl (by decide) _)
  have lexes := lexes_append lexesCreator (lexes_symbols_append opening lexesArguments)
    (breaks_of_head alphabet rfl (by decide) _)
  have isStart : "React.createElement(" = "React" ++ ("." ++ "createElement") ++ "(" := rfl
  simp only [isStart, String.append_assoc] at lexes ⊢
  exact lexes

theorem reads_create_argument {propText : String} (isFirst : alphabet.isIdentifier first = true)
    (isSecond : alphabet.isIdentifier second = true)
    (readsProps : ReadsProps alphabet propText props) (reads : Reads alphabet text expression) :
    Reads alphabet
      ("React.createElement(" ++ (first ++ ("." ++ second)) ++ ", " ++ propText ++ ", " ++ text ++
        ")")
      (.create [first, second] props [expression]) := by
  have created := reads_create isFirst isSecond readsProps (readsEnd_argument reads)
  simp only [String.append_assoc] at created ⊢
  exact created

end IconForge.Script.Reader
