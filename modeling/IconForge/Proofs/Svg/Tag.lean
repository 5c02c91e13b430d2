import IconForge.Proofs.Svg.TagAttributes
import IconForge.Svg.Event

/-!
Contract: where tags end, and what the text of a tag says.

Owns:
- texts that close all quotes they open, as the contents of tags;
- the ways in which a construct is read, and in which tags are read that are
  given;
- names at the front of tags and in end tags.

Main statements: `from_of_readConstruct`, `readConstruct_opening`,
`readConstruct_selfClosing`, `readConstruct_closing`.

Does not own: the attributes behind a name.
-/

namespace IconForge.Svg

open IconForge.Text

/-! ### Quotes in a tag -/

/-- Where a scan through the content of a tag stands at its end, unless a `>`
outside quotes ends the tag earlier. -/
def scan? (state : QuoteState) : List Char → Option QuoteState
  | [] => some state
  | c :: rest => if c = '>' ∧ state = .outside then none else scan? (state.step c) rest

theorem scan?_append (state : QuoteState) (front back : List Char) :
    scan? state (front ++ back) = (scan? state front).bind fun middle => scan? middle back := by
  induction front generalizing state with
  | nil => rfl
  | cons c rest inductionHypothesis =>
    simp only [List.cons_append, scan?]
    by_cases ends : c = '>' ∧ state = .outside
    · rw [if_pos ends, if_pos ends]
      rfl
    · rw [if_neg ends, if_neg ends, inductionHypothesis]

/-- A tag is cut at a `>` that stands outside quotes, if no other one does
before it. -/
theorem cutTag?_of_scan? {state : QuoteState} {content : List Char} (rest : List Char)
    (scanned : scan? state content = some .outside) :
    cutTag? state (content ++ '>' :: rest) = some (content, rest) := by
  induction content generalizing state with
  | nil =>
    rw [scan?, Option.some.injEq] at scanned
    rw [List.nil_append, cutTag?, if_pos ⟨rfl, scanned⟩]
  | cons c others inductionHypothesis =>
    rw [scan?] at scanned
    split at scanned
    · cases scanned
    · next continues =>
      rw [List.cons_append, cutTag?, if_neg continues, inductionHypothesis scanned]
      rfl

theorem scan?_of_cutTag? {state : QuoteState} {text content rest : List Char}
    (cut : cutTag? state text = some (content, rest)) :
    text = content ++ '>' :: rest ∧ scan? state content = some .outside := by
  induction text generalizing state content with
  | nil => cases cut
  | cons c behind inductionHypothesis =>
    rw [cutTag?] at cut
    split at cut
    · next ends =>
      cases cut
      rw [ends.1, ends.2]
      exact ⟨rfl, rfl⟩
    · next continues =>
      obtain ⟨inner, innerCut, pairEqual⟩ := Option.map_eq_some_iff.mp cut
      cases pairEqual
      obtain ⟨split, scanned⟩ := inductionHypothesis innerCut
      refine ⟨by rw [List.cons_append, ← split], ?_⟩
      rw [scan?, if_neg continues, scanned]

theorem scan?_steady {state : QuoteState} {text : List Char}
    (steady : ∀ c ∈ text, (c ≠ '>' ∨ state ≠ .outside) ∧ state.step c = state) :
    scan? state text = some state := by
  induction text with
  | nil => rfl
  | cons c rest inductionHypothesis =>
    obtain ⟨continues, stays⟩ := steady c List.mem_cons_self
    rw [scan?, if_neg (not_and_or.mpr continues), stays,
      inductionHypothesis fun other member => steady other (List.mem_cons_of_mem _ member)]

/-- A text without the characters that give markup its structure says nothing
to a scan. -/
theorem scan?_unsigned {text : List Char} (unsigned : ∀ c ∈ text, isMarkupSign c = false) :
    scan? .outside text = some .outside := by
  apply scan?_steady
  intro c member
  have noSign := unsigned c member
  simp only [isMarkupSign, Bool.or_eq_false_iff, beq_eq_false_iff_ne] at noSign
  obtain ⟨⟨⟨-, notGreater⟩, notQuote⟩, notApostrophe⟩ := noSign
  refine ⟨Or.inl notGreater, if_neg ?_⟩
  exact not_or.mpr ⟨notQuote, notApostrophe⟩

/-- Whether a scan is inside quotes of one of the two kinds, if inside any. -/
def QuoteState.Quoted (state : QuoteState) : Prop :=
  ∀ quote, state = .inside quote → quote = '"' ∨ quote = '\''

theorem QuoteState.Quoted.step {state : QuoteState} (quoted : state.Quoted) (c : Char) :
    (state.step c).Quoted := by
  intro quote isInside
  cases state with
  | outside =>
    simp only [QuoteState.step] at isInside
    split at isInside
    · next isQuote =>
      cases isInside
      exact isQuote
    · cases isInside
  | inside current =>
    simp only [QuoteState.step] at isInside
    split at isInside
    · cases isInside
    · cases isInside
      exact quoted quote rfl

theorem quoted_of_scan? {text : List Char} {state final : QuoteState} (quoted : state.Quoted)
    (scanned : scan? state text = some final) : final.Quoted := by
  induction text generalizing state with
  | nil =>
    cases scanned
    exact quoted
  | cons c rest inductionHypothesis =>
    rw [scan?] at scanned
    split at scanned
    · cases scanned
    · exact inductionHypothesis (quoted.step c) scanned

theorem scan?_outside_of_slash {content : List Char}
    (scanned : scan? .outside (content ++ ['/']) = some .outside) :
    scan? .outside content = some .outside := by
  rw [scan?_append] at scanned
  obtain ⟨middle, scannedContent, scannedSlash⟩ := Option.bind_eq_some_iff.mp scanned
  have startQuoted : QuoteState.outside.Quoted := fun quote isInside => nomatch isInside
  have quoted := quoted_of_scan? startQuoted scannedContent
  cases middle with
  | outside => exact scannedContent
  | inside quote =>
    rcases quoted quote rfl with rfl | rfl <;> cases scannedSlash

theorem scan?_value (value : List Char) :
    scan? .outside ('"' :: (value.flatMap escapeChar ++ ['"'])) = some .outside := by
  have inside : scan? (.inside '"') (value.flatMap escapeChar) = some (.inside '"') := by
    apply scan?_steady
    intro c member
    have notQuote := bne_iff_ne.mp (noQuote_of_escaped value c member)
    exact ⟨Or.inr nofun, if_neg notQuote⟩
  have opened : QuoteState.step .outside '"' = .inside '"' := rfl
  rw [scan?, if_neg (by decide), opened, scan?_append, inside]
  rfl

theorem scan?_outside_append {front back : List Char}
    (frontScanned : scan? .outside front = some .outside)
    (backScanned : scan? .outside back = some .outside) :
    scan? .outside (front ++ back) = some .outside := by
  rw [scan?_append, frontScanned, Option.bind_some, backScanned]

theorem scan?_attributeMarkup {pair : String × String}
    (unsigned : ∀ c ∈ pair.1.toList, isMarkupSign c = false) :
    scan? .outside (attributeMarkup pair).toList = some .outside := by
  have parts : (attributeMarkup pair).toList = [' '] ++ (pair.1.toList ++
      (['='] ++ '"' :: (pair.2.toList.flatMap escapeChar ++ ['"']))) :=
    toList_attributeMarkup pair
  rw [parts]
  apply scan?_outside_append rfl
  apply scan?_outside_append (scan?_unsigned unsigned)
  exact scan?_outside_append rfl (scan?_value pair.2.toList)

/-- Attributes whose keys have no quotes and no `>` close all quotes they open. -/
theorem scan?_attributesText {entries : List (String × String)}
    (unsigned : ∀ key ∈ entries.map Prod.fst, ∀ c ∈ key.toList, isMarkupSign c = false) :
    scan? .outside (attributesText entries) = some .outside := by
  induction entries with
  | nil => rfl
  | cons entry others inductionHypothesis =>
    apply scan?_outside_append (scan?_attributeMarkup (unsigned entry.1 List.mem_cons_self))
    exact inductionHypothesis fun key member => unsigned key (List.mem_cons_of_mem _ member)

/-! ### The slash at the end of a tag -/

theorem dropEnd?_slash (content : List Char) : dropEnd? ['/'] (content ++ ['/']) = some content := by
  unfold dropEnd?
  rw [List.reverse_append]
  exact congrArg some (List.reverse_reverse content)

theorem dropEnd?_slash_cases {content shorter : List Char}
    (dropped : dropEnd? ['/'] content = some shorter) : content = shorter ++ ['/'] := by
  unfold dropEnd? at dropped
  obtain ⟨behind, dropStart, isReverse⟩ := Option.map_eq_some_iff.mp dropped
  cases reversed : content.reverse with
  | nil =>
    rw [reversed] at dropStart
    cases dropStart
  | cons c rest =>
    rw [reversed] at dropStart
    have startIs : (if '/' = c then some rest else none) = some behind := dropStart
    split at startIs
    · next isSlash =>
      cases startIs
      have content_eq := congrArg List.reverse reversed
      rw [List.reverse_reverse, List.reverse_cons, isReverse, ← isSlash] at content_eq
      exact content_eq
    · cases startIs

theorem dropEnd?_slash_none {content : List Char}
    (noSlash : content.getLast? ≠ some '/') : dropEnd? ['/'] content = none := by
  cases dropped : dropEnd? ['/'] content with
  | none => rfl
  | some shorter =>
    rw [dropEnd?_slash_cases dropped, List.getLast?_append] at noSlash
    exact absurd rfl noSlash

theorem getLast?_of_dropEnd?_slash {content : List Char}
    (noSlash : dropEnd? ['/'] content = none) : content.getLast? ≠ some '/' := by
  intro isSlash
  obtain ⟨front, rfl⟩ := List.getLast?_eq_some_iff.mp isSlash
  rw [dropEnd?_slash] at noSlash
  cases noSlash

/-! ### Names -/

theorem tagOf_append {name behind : List Char} (unspaced : ∀ c ∈ name, isSpace c = false)
    (separated : behind.takeWhile (fun c => !isSpace c) = []) :
    tagOf (name ++ behind) = ⟨String.ofList name, behind⟩ := by
  have allName : ∀ c ∈ name, (!isSpace c) = true := by
    intro c member
    rw [unspaced c member]
    rfl
  have left := List.takeWhile_append_dropWhile (p := fun c => !isSpace c) (l := behind)
  unfold tagOf
  rw [List.takeWhile_append_of_pos allName, List.dropWhile_append_of_pos allName, separated,
    List.append_nil]
  rw [separated, List.nil_append] at left
  rw [left]

theorem tagOf_name_unspaced (content : List Char) :
    ∀ c ∈ (tagOf content).name.toList, isSpace c = false := by
  intro c member
  unfold tagOf at member
  rw [String.toList_ofList] at member
  have isNoSpace := List.mem_takeWhile_imp member
  exact (Bool.not_eq_true' _).mp isNoSpace

theorem tagOf_eq (content : List Char) :
    content = (tagOf content).name.toList ++ (tagOf content).attributeText := by
  unfold tagOf
  rw [String.toList_ofList, List.takeWhile_append_dropWhile]

theorem dropEndWhile_of_unspaced {text : List Char} (unspaced : ∀ c ∈ text, isSpace c = false) :
    dropEndWhile isSpace text = text := by
  unfold dropEndWhile
  cases reversed : text.reverse with
  | nil => exact (List.reverse_eq_nil_iff.mp reversed).symm
  | cons c rest =>
    have isMember : c ∈ text := by
      rw [← List.mem_reverse, reversed]
      exact List.mem_cons_self
    rw [List.dropWhile_cons_of_neg (Bool.eq_false_iff.mp (unspaced c isMember)), ← reversed,
      List.reverse_reverse]

theorem closingName_of_unspaced {name : List Char} (unspaced : ∀ c ∈ name, isSpace c = false) :
    closingName name = name := by
  unfold closingName
  simp only [dropEndWhile_of_unspaced unspaced, ite_self]

/-- Only blanks can stand behind the name in an end tag. -/
theorem closingName_append (content : List Char) :
    ∃ blanks, blanks.dropWhile isSpace = [] ∧ content = closingName content ++ blanks := by
  unfold closingName
  by_cases allBlank : (dropEndWhile isSpace content).isEmpty = true
  · refine ⟨[], rfl, ?_⟩
    simp only [allBlank, if_true, List.append_nil]
  · refine ⟨(content.reverse.takeWhile isSpace).reverse, ?_, ?_⟩
    · rw [List.dropWhile_eq_nil_iff]
      intro c member
      exact List.mem_takeWhile_imp (List.mem_reverse.mp member)
    · simp only [allBlank]
      unfold dropEndWhile
      rw [if_neg Bool.false_ne_true, ← List.reverse_append, List.takeWhile_append_dropWhile,
        List.reverse_reverse]

/-! ### What a construct is read from -/

/-- Whether the text behind a `<` starts a start tag or an empty-element tag. -/
def startsTag : List Char → Bool
  | '!' :: _ => false
  | '?' :: _ => false
  | '/' :: _ => false
  | _ => true

theorem readConstruct_of_startsTag {text : List Char} (opened : List String)
    (starts : startsTag text = true) : readConstruct opened text = readOpening opened text := by
  unfold readConstruct
  split
  · cases starts
  · cases starts
  · cases starts
  · rfl

/-- A construct, and the text behind the `<` that it is read from. -/
inductive Construct.From (opened : List String) : List Char → Construct → Prop where
  | opening {content rest : List Char} {length : Nat}
      (starts : startsTag (content ++ '>' :: rest) = true)
      (scanned : scan? .outside content = some .outside)
      (noSlash : dropEnd? ['/'] content = none) :
      From opened (content ++ '>' :: rest)
        ⟨.opening (tagOf content), (tagOf content).name :: opened, length, rest⟩
  | selfClosing {content rest : List Char} {length : Nat}
      (starts : startsTag (content ++ '/' :: '>' :: rest) = true)
      (scanned : scan? .outside (content ++ ['/']) = some .outside) :
      From opened (content ++ '/' :: '>' :: rest)
        ⟨.selfClosing (tagOf content), opened, length, rest⟩
  | closing {content rest : List Char} {outer : List String} {length : Nat}
      (scanned : scan? .outside content = some .outside)
      (named : opened = String.ofList (closingName content) :: outer) :
      From opened ('/' :: (content ++ '>' :: rest)) ⟨.closing, outer, length, rest⟩
  | characterData {body rest : List Char} {value : String} {length : Nat} :
      From opened ('!' :: body) ⟨.characterData value, opened, length, rest⟩
  | aside {c : Char} {body rest : List Char} {length : Nat} (declares : c = '!' ∨ c = '?') :
      From opened (c :: body) ⟨.aside, opened, length, rest⟩

theorem from_of_readOpening {opened : List String} {text : List Char} {construct : Construct}
    (starts : startsTag text = true) (read : readOpening opened text = .ok construct) :
    construct.From opened text := by
  simp only [readOpening] at read
  split at read
  · cases read
  · next content rest cut =>
    obtain ⟨split, scanned⟩ := scan?_of_cutTag? cut
    subst split
    split at read
    · next shorter slash =>
      cases read
      cases dropEnd?_slash_cases slash
      rw [List.append_assoc] at starts ⊢
      exact .selfClosing starts scanned
    · next noSlash =>
      cases read
      exact .opening starts scanned noSlash

theorem from_of_readClosing {opened : List String} {body : List Char} {construct : Construct}
    (read : readClosing opened body = .ok construct) :
    construct.From opened ('/' :: body) := by
  simp only [readClosing] at read
  split at read
  · cases read
  · next content rest cut =>
    obtain ⟨split, scanned⟩ := scan?_of_cutTag? cut
    subst split
    split at read
    · cases read
    · split at read
      · next isExpected =>
        cases read
        rw [isExpected]
        exact .closing scanned rfl
      · cases read

theorem from_of_readInstruction {opened : List String} {body : List Char}
    {construct : Construct} (read : readInstruction opened body = .ok construct) :
    construct.From opened ('?' :: body) := by
  simp only [readInstruction] at read
  split at read
  · cases read
  · split at read
    · cases read
      exact .aside (Or.inr rfl)
    · cases read

theorem from_of_readComment {opened : List String} {body : List Char} {construct : Construct}
    (read : readComment opened body = .ok construct) : construct.From opened ('!' :: body) := by
  simp only [readComment] at read
  split at read
  · split at read
    · cases read
      exact .aside (Or.inl rfl)
    · cases read
  · split at read <;> cases read

theorem from_of_readCharacterData {opened : List String} {body : List Char}
    {construct : Construct} (read : readCharacterData opened body = .ok construct) :
    construct.From opened ('!' :: body) := by
  simp only [readCharacterData] at read
  split at read
  · cases read
  · split at read
    · cases read
      exact .characterData
    · cases read

theorem from_of_readDoctype {opened : List String} {body : List Char} {construct : Construct}
    (read : readDoctype opened body = .ok construct) : construct.From opened ('!' :: body) := by
  simp only [readDoctype] at read
  split at read
  · cases read
  · split at read
    · split at read
      · cases read
      · cases read
        exact .aside (Or.inl rfl)
    · cases read

/-- Every construct is read from a text of one of five forms. -/
theorem from_of_readConstruct {opened : List String} {text : List Char} {construct : Construct}
    (read : readConstruct opened text = .ok construct) : construct.From opened text := by
  by_cases starts : startsTag text = true
  · rw [readConstruct_of_startsTag opened starts] at read
    exact from_of_readOpening starts read
  · unfold readConstruct at read
    split at read
    · unfold readDeclaration at read
      split at read
      · exact from_of_readCharacterData read
      · exact from_of_readComment read
      · exact from_of_readDoctype read
      · exact from_of_readDoctype read
      · cases read
    · exact from_of_readInstruction read
    · exact from_of_readClosing read
    · next noDeclaration noInstruction noClosing =>
      unfold startsTag at starts
      split at starts
      · next body => exact absurd rfl (noDeclaration body)
      · next body => exact absurd rfl (noInstruction body)
      · next body => exact absurd rfl (noClosing body)
      · exact absurd rfl starts

/-! ### Tags that are given -/

theorem readConstruct_opening {content rest : List Char} (opened : List String)
    (starts : startsTag (content ++ '>' :: rest) = true)
    (scanned : scan? .outside content = some .outside)
    (noSlash : content.getLast? ≠ some '/') :
    readConstruct opened (content ++ '>' :: rest) =
      .ok ⟨.opening (tagOf content), (tagOf content).name :: opened, byteLength content + 1,
        rest⟩ := by
  rw [readConstruct_of_startsTag opened starts]
  simp only [readOpening, cutTag?_of_scan? rest scanned, dropEnd?_slash_none noSlash]

theorem readConstruct_selfClosing {content rest : List Char} (opened : List String)
    (starts : startsTag (content ++ '/' :: '>' :: rest) = true)
    (scanned : scan? .outside content = some .outside) :
    readConstruct opened (content ++ '/' :: '>' :: rest) =
      .ok ⟨.selfClosing (tagOf content), opened, byteLength (content ++ ['/']) + 1, rest⟩ := by
  have scannedSlash : scan? .outside (content ++ ['/']) = some .outside :=
    scan?_outside_append scanned rfl
  rw [readConstruct_of_startsTag opened starts, ← List.singleton_append, ← List.append_assoc]
  simp only [readOpening, cutTag?_of_scan? rest scannedSlash, dropEnd?_slash]

theorem readConstruct_closing {name : String} (outer : List String) (rest : List Char)
    (unspaced : ∀ c ∈ name.toList, isSpace c = false)
    (scanned : scan? .outside name.toList = some .outside) :
    readConstruct (name :: outer) ('/' :: (name.toList ++ '>' :: rest)) =
      .ok ⟨.closing, outer, byteLength name.toList + 2, rest⟩ := by
  unfold readConstruct
  simp only [readClosing, cutTag?_of_scan? rest scanned, closingName_of_unspaced unspaced,
    String.ofList_toList, if_true]

end IconForge.Svg
