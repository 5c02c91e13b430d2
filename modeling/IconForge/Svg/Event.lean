import IconForge.Svg.Attribute

/-!
Contract: markup as a list of events.

Owns:
- tags, and the events that a text delivers: start tags, empty-element tags,
  end tags, texts, character data, and everything that says nothing about the
  tree;
- the check that every end tag closes the element opened last;
- the place and the cause of the first fault.

Does not own: attributes inside tags, references inside texts, and whether all
elements are closed when the text ends.
-/

namespace IconForge.Svg

open IconForge.Text

/-- What keeps a text from being markup. -/
inductive MarkupError where
  | unclosedTag
  /-- The text ends inside a processing instruction, or that has no content. -/
  | unclosedInstruction
  /-- The text ends inside a comment, or that starts wrongly. -/
  | unclosedComment
  /-- The text ends inside character data, or that starts wrongly. -/
  | unclosedCharacterData
  /-- The text ends inside a document type, or that starts wrongly. -/
  | unclosedDoctype
  /-- An exclamation mark starts no known construct. -/
  | unknownDeclaration
  | namelessDoctype
  /-- An end tag names another element than the one opened last. -/
  | mismatchedEnd (expected found : String)
  | unmatchedEnd (found : String)
deriving DecidableEq, Repr

namespace MarkupError

def detail : MarkupError → String
  | unclosedTag => "tag not closed: `>` not found before end of input"
  | unclosedInstruction =>
    "processing instruction or xml declaration not closed: `?>` not found before end of input"
  | unclosedComment => "comment not closed: `-->` not found before end of input"
  | unclosedCharacterData => "CDATA not closed: `]]>` not found before end of input"
  | unclosedDoctype => "DOCTYPE not closed: `>` not found before end of input"
  | unknownDeclaration => "unknown or missed symbol in markup"
  | namelessDoctype =>
    "`<!DOCTYPE>` declaration does not contain a name of a document type"
  | mismatchedEnd expected found =>
    "expected `</" ++ expected ++ ">`, but `</" ++ found ++ ">` was found"
  | unmatchedEnd found => "close tag `</" ++ found ++ ">` does not match any open tag"

/-- Whether the text breaks the rules on how tags belong together, and not
those on how a single construct is written. -/
def isIllFormed : MarkupError → Bool
  | namelessDoctype | mismatchedEnd _ _ | unmatchedEnd _ => true
  | _ => false

def message (error : MarkupError) : String :=
  (if error.isIllFormed then "ill-formed document: " else "syntax error: ") ++ error.detail

/-- The error's wording, followed by that of the cause behind it. -/
def chain (error : MarkupError) : List String :=
  [error.message, error.detail]

end MarkupError

/-- The name of a start tag, and the text in which its attributes stand. -/
structure Tag where
  name : String
  attributeText : List Char
deriving DecidableEq, Repr

/-- A step of a document as it is read from front to back. -/
inductive Event where
  | opening (tag : Tag)
  /-- A tag that is start and end of an element at once. -/
  | selfClosing (tag : Tag)
  /-- The end tag of the element opened last. -/
  | closing
  /-- A text without the blanks around it, references still in it. -/
  | text (raw : List Char)
  /-- Character data, which holds no references. -/
  | characterData (value : String)
  /-- A declaration, processing instruction, document type or comment. -/
  | aside
deriving DecidableEq, Repr

/-- An event and the byte offset that is reached when it has been read. -/
structure Delivery where
  event : Event
  offset : Nat
deriving DecidableEq, Repr

/-- All that reading a text delivers: events up to its end, or up to the first
fault and where that came up. -/
structure Reading where
  deliveries : List Delivery
  fault : Option (Nat × MarkupError)
deriving DecidableEq, Repr

/-- Where a scan through a tag stands: outside quotes, or inside those of one
kind. -/
inductive QuoteState where
  | outside
  | inside (quote : Char)
deriving DecidableEq, Repr

def QuoteState.step (state : QuoteState) (c : Char) : QuoteState :=
  match state with
  | outside => if c = '"' ∨ c = '\'' then inside c else outside
  | inside quote => if c = quote then outside else inside quote

def cutTag? (state : QuoteState) : List Char → Option (List Char × List Char)
  | [] => none
  | c :: rest =>
    if c = '>' ∧ state = .outside then some ([], rest)
    else (cutTag? (state.step c) rest).map fun (content, behind) => (c :: content, behind)

/-- Cuts a text at the first `>` that does not close a `<` inside it, given
the number of those still open. -/
def cutBalanced? (depth : Nat) : List Char → Option (List Char × List Char)
  | [] => none
  | c :: rest =>
    if c = '>' ∧ depth = 0 then some ([], rest)
    else
      (cutBalanced? (if c = '<' then depth + 1 else if c = '>' then depth - 1 else depth) rest).map
        fun (content, behind) => (c :: content, behind)

/-- The tag with the given content: its name runs to the first blank. -/
def tagOf (content : List Char) : Tag where
  name := String.ofList (content.takeWhile fun c => !isSpace c)
  attributeText := content.dropWhile fun c => !isSpace c

/-- The name in an end tag: blanks at its end are left out, unless there is
nothing else. -/
def closingName (content : List Char) : List Char :=
  let trimmed := dropEndWhile isSpace content
  if trimmed.isEmpty then content else trimmed

/-- Whether two texts are equal up to the case of ASCII letters. -/
def equalIgnoringCase (left right : List Char) : Bool :=
  left.map Char.toLower == right.map Char.toLower

/-- A construct behind a `<`: the event it is, the elements open after it, the
number of bytes it takes and the text behind it. -/
structure Construct where
  event : Event
  opened : List String
  length : Nat
  rest : List Char

/-- The outcome of reading a construct; a fault comes with the number of bytes
read before it came up. -/
abbrev ConstructResult := Except (Nat × MarkupError) Construct

def readComment (opened : List String) (body : List Char) : ConstructResult :=
  match body with
  | '-' :: '-' :: inside =>
    match cutAt? ['-', '-', '>'] inside with
    | some (content, rest) => .ok ⟨.aside, opened, byteLength content + 6, rest⟩
    | none => .error (byteLength body + 1, .unclosedComment)
  | _ =>
    -- A dash that does not start a comment: all up to the next `-->` is skipped.
    match cutAt? ['-', '-', '>'] (body.drop 1) with
    | some (content, _) => .error (byteLength content + 5, .unclosedComment)
    | none => .error (byteLength body + 1, .unclosedComment)

def readCharacterData (opened : List String) (body : List Char) : ConstructResult :=
  match cutAt? [']', ']', '>'] body with
  | none => .error (byteLength body + 1, .unclosedCharacterData)
  | some (content, rest) =>
    let length := byteLength content + 4
    match dropStart? ['[', 'C', 'D', 'A', 'T', 'A', '['] content with
    | some value => .ok ⟨.characterData (String.ofList value), opened, length, rest⟩
    | none => .error (length, .unclosedCharacterData)

/-- Reads a document type, of which `body` is what stands behind the `<!`. -/
def readDoctype (opened : List String) (body : List Char) : ConstructResult :=
  match cutBalanced? 0 body with
  | none => .error (byteLength body + 1, .unclosedDoctype)
  | some (content, rest) =>
    let length := byteLength content + 2
    if equalIgnoringCase (content.take 7) ['d', 'o', 'c', 't', 'y', 'p', 'e'] then
      if (content.drop 7).all isSpace then .error (length, .namelessDoctype)
      else .ok ⟨.aside, opened, length, rest⟩
    else
      .error (length, .unclosedDoctype)

/-- Reads a processing instruction, of which `body` is what stands behind the
`<?`. -/
def readInstruction (opened : List String) (body : List Char) : ConstructResult :=
  match body with
  | '>' :: _ => .error (2, .unclosedInstruction)
  | _ =>
    match cutAt? ['?', '>'] body with
    | some (content, rest) => .ok ⟨.aside, opened, byteLength content + 3, rest⟩
    | none => .error (byteLength body + 1, .unclosedInstruction)

def readClosing (opened : List String) (body : List Char) : ConstructResult :=
  match cutTag? .outside body with
  | none => .error (byteLength body + 1, .unclosedTag)
  | some (content, rest) =>
    let length := byteLength content + 2
    let found := String.ofList (closingName content)
    match opened with
    | [] => .error (length, .unmatchedEnd found)
    | expected :: outer =>
      if expected = found then .ok ⟨.closing, outer, length, rest⟩
      else .error (length, .mismatchedEnd expected found)

/-- Reads a start tag or an empty-element tag, of which `body` is what stands
behind the `<`. -/
def readOpening (opened : List String) (body : List Char) : ConstructResult :=
  match cutTag? .outside body with
  | none => .error (byteLength body, .unclosedTag)
  | some (content, rest) =>
    let length := byteLength content + 1
    match dropEnd? ['/'] content with
    | some shorter => .ok ⟨.selfClosing (tagOf shorter), opened, length, rest⟩
    | none => .ok ⟨.opening (tagOf content), (tagOf content).name :: opened, length, rest⟩

/-- Reads what starts with `<!`, of which `body` is what stands behind that. -/
def readDeclaration (opened : List String) (body : List Char) : ConstructResult :=
  match body with
  | '[' :: _ => readCharacterData opened body
  | '-' :: _ => readComment opened body
  | 'D' :: _ => readDoctype opened body
  | 'd' :: _ => readDoctype opened body
  | _ => .error (0, .unknownDeclaration)

def readConstruct (opened : List String) (text : List Char) : ConstructResult :=
  match text with
  | '!' :: body => readDeclaration opened body
  | '?' :: body => readInstruction opened body
  | '/' :: body => readClosing opened body
  | _ => readOpening opened text

/-! ### Every construct leaves less text than there was -/

theorem length_lt_of_cutTag? {state : QuoteState} {text content rest : List Char}
    (cut : cutTag? state text = some (content, rest)) : rest.length < text.length := by
  induction text generalizing state content with
  | nil => simp [cutTag?] at cut
  | cons c behind inductionHypothesis =>
    rw [cutTag?] at cut
    split at cut
    · simp only [Option.some.injEq, Prod.mk.injEq] at cut
      simp [← cut.2]
    · obtain ⟨inner, innerCut, pairEqual⟩ := Option.map_eq_some_iff.mp cut
      simp only [Prod.mk.injEq] at pairEqual
      have shorter := inductionHypothesis (innerCut.trans (by rw [← pairEqual.2]))
      rw [List.length_cons]
      omega

theorem length_lt_of_cutBalanced? {depth : Nat} {text content rest : List Char}
    (cut : cutBalanced? depth text = some (content, rest)) : rest.length < text.length := by
  induction text generalizing depth content with
  | nil => simp [cutBalanced?] at cut
  | cons c behind inductionHypothesis =>
    rw [cutBalanced?] at cut
    split at cut
    · simp only [Option.some.injEq, Prod.mk.injEq] at cut
      simp [← cut.2]
    · obtain ⟨inner, innerCut, pairEqual⟩ := Option.map_eq_some_iff.mp cut
      simp only [Prod.mk.injEq] at pairEqual
      have shorter := inductionHypothesis (innerCut.trans (by rw [← pairEqual.2]))
      rw [List.length_cons]
      omega

theorem length_lt_of_readComment {opened : List String} {body : List Char}
    {construct : Construct} (read : readComment opened body = .ok construct) :
    construct.rest.length < body.length := by
  simp only [readComment] at read
  split at read
  · split at read
    · next content rest cut =>
      have shorter := length_le_of_cutAt? cut
      simp only [Except.ok.injEq] at read
      simp only [← read, List.length_cons]
      omega
    · simp at read
  · split at read <;> simp at read

theorem length_le_of_readCharacterData {opened : List String} {body : List Char}
    {construct : Construct} (read : readCharacterData opened body = .ok construct) :
    construct.rest.length ≤ body.length := by
  simp only [readCharacterData] at read
  split at read
  · simp at read
  · next content rest cut =>
    have shorter := length_le_of_cutAt? cut
    split at read
    · simp only [Except.ok.injEq] at read
      simpa only [← read] using shorter
    · simp at read

theorem length_lt_of_readDoctype {opened : List String} {body : List Char}
    {construct : Construct} (read : readDoctype opened body = .ok construct) :
    construct.rest.length < body.length := by
  simp only [readDoctype] at read
  split at read
  · simp at read
  · next content rest cut =>
    have shorter := length_lt_of_cutBalanced? cut
    split at read
    · split at read
      · simp at read
      · simp only [Except.ok.injEq] at read
        simpa only [← read] using shorter
    · simp at read

theorem length_le_of_readInstruction {opened : List String} {body : List Char}
    {construct : Construct} (read : readInstruction opened body = .ok construct) :
    construct.rest.length ≤ body.length := by
  simp only [readInstruction] at read
  split at read
  · simp at read
  · split at read
    · next content rest cut =>
      have shorter := length_le_of_cutAt? cut
      simp only [Except.ok.injEq] at read
      simpa only [← read] using shorter
    · simp at read

theorem length_lt_of_readClosing {opened : List String} {body : List Char}
    {construct : Construct} (read : readClosing opened body = .ok construct) :
    construct.rest.length < body.length := by
  simp only [readClosing] at read
  split at read
  · simp at read
  · next content rest cut =>
    have shorter := length_lt_of_cutTag? cut
    split at read
    · simp at read
    · split at read
      · simp only [Except.ok.injEq] at read
        simpa only [← read] using shorter
      · simp at read

theorem length_lt_of_readOpening {opened : List String} {body : List Char}
    {construct : Construct} (read : readOpening opened body = .ok construct) :
    construct.rest.length < body.length := by
  simp only [readOpening] at read
  split at read
  · simp at read
  · next content rest cut =>
    have shorter := length_lt_of_cutTag? cut
    split at read
    · simp only [Except.ok.injEq] at read
      simpa only [← read] using shorter
    · simp only [Except.ok.injEq] at read
      simpa only [← read] using shorter

theorem length_le_of_readDeclaration {opened : List String} {body : List Char}
    {construct : Construct} (read : readDeclaration opened body = .ok construct) :
    construct.rest.length ≤ body.length := by
  unfold readDeclaration at read
  split at read
  · exact length_le_of_readCharacterData read
  · exact Nat.le_of_lt (length_lt_of_readComment read)
  · exact Nat.le_of_lt (length_lt_of_readDoctype read)
  · exact Nat.le_of_lt (length_lt_of_readDoctype read)
  · simp at read

theorem length_le_of_readConstruct {opened : List String} {text : List Char}
    {construct : Construct} (read : readConstruct opened text = .ok construct) :
    construct.rest.length ≤ text.length := by
  unfold readConstruct at read
  split at read
  · have notLonger := length_le_of_readDeclaration read
    rw [List.length_cons]
    omega
  · have notLonger := length_le_of_readInstruction read
    rw [List.length_cons]
    omega
  · have shorter := length_lt_of_readClosing read
    rw [List.length_cons]
    omega
  · exact Nat.le_of_lt (length_lt_of_readOpening read)

/-! ### All events of a text -/

/-- What the rest of a text delivers, given the elements that are open, the
last one first, and the byte offset of the rest. -/
def readFrom (opened : List String) (offset : Nat) (text : List Char) : Reading :=
  let start := offset + byteLength (text.takeWhile isSpace)
  match _nonBlank : text.dropWhile isSpace with
  | [] => ⟨[], none⟩
  | c :: behind =>
    if c = '<' then
      match read : readConstruct opened behind with
      | .error (length, cause) => ⟨[], some (start + 1 + length, cause)⟩
      | .ok construct =>
        let stop := start + 1 + construct.length
        let following := readFrom construct.opened stop construct.rest
        ⟨⟨construct.event, stop⟩ :: following.deliveries, following.fault⟩
    else
      let run := c :: behind.takeWhile (· != '<')
      let stop := start + byteLength run
      let following := readFrom opened stop (behind.dropWhile (· != '<'))
      ⟨⟨.text (dropEndWhile isSpace run), stop⟩ :: following.deliveries, following.fault⟩
termination_by text.length
decreasing_by
  · have notLonger := length_dropWhile_le isSpace text
    have shorter := length_le_of_readConstruct read
    rw [_nonBlank, List.length_cons] at notLonger
    omega
  · have notLonger := length_dropWhile_le isSpace text
    have runNotLonger := length_dropWhile_le (· != '<') behind
    rw [_nonBlank, List.length_cons] at notLonger
    omega

/-- What a document delivers. A byte order mark in front is passed over and
does not count in offsets. -/
def readDocument (text : List Char) : Reading :=
  match text with
  | '\uFEFF' :: rest => readFrom [] 0 rest
  | _ => readFrom [] 0 text

end IconForge.Svg
