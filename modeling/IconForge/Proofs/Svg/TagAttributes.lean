import IconForge.Proofs.Svg.Attributes
import IconForge.Proofs.Svg.Reference
import IconForge.Svg.Tree
import Mathlib.Data.List.TakeWhile

/-!
Contract: the attributes that are read from the text of a tag.

Owns:
- that reading does not look ahead: what stands behind a tag's attributes is
  read as if they were not there;
- the form of the keys that are read, and that none is read twice;
- that attributes as they are written are read as themselves.

Main statements: `readAttributesFrom_split`, `readAttributesFrom_written`.

Does not own: where the text of a tag ends.
-/

namespace IconForge.Svg

open IconForge.Text

/-! ### Cuts do not depend on what comes later -/

theorem span_append {inClass : Char → Bool} {text rest : List Char} {c : Char}
    (split : text.dropWhile inClass = c :: rest) (more : List Char) :
    (text ++ more).takeWhile inClass = text.takeWhile inClass ∧
      (text ++ more).dropWhile inClass = c :: (rest ++ more) := by
  induction text with
  | nil => cases split
  | cons first others inductionHypothesis =>
    by_cases member : inClass first = true
    · rw [List.dropWhile_cons_of_pos member] at split
      obtain ⟨sameTaken, sameLeft⟩ := inductionHypothesis split
      constructor
      · rw [List.cons_append, List.takeWhile_cons_of_pos member,
          List.takeWhile_cons_of_pos member, sameTaken]
      · rw [List.cons_append, List.dropWhile_cons_of_pos member, sameLeft]
    · rw [List.dropWhile_cons_of_neg member] at split
      cases split
      constructor
      · rw [List.cons_append, List.takeWhile_cons_of_neg member,
          List.takeWhile_cons_of_neg member]
      · rw [List.cons_append, List.dropWhile_cons_of_neg member]

/-- What stands between a key's first character and its value. -/
theorem cutKey_cases {place stop : Nat} {first : Char} {text rest : List Char} {key : SeenKey}
    (cut : cutKey place first text = .ok (key, stop, rest)) :
    ∃ c behind, text.dropWhile (fun c => !endsKey c) = c :: behind ∧
      (c :: behind).dropWhile isSpace = '=' :: rest ∧
      key = ⟨first :: text.takeWhile (fun c => !endsKey c), place⟩ := by
  simp only [cutKey] at cut
  split at cut
  · cases cut
  · next sign following afterSpaces =>
    split at cut
    · next isEquals =>
      subst isEquals
      simp only [Except.ok.injEq, Prod.mk.injEq] at cut
      obtain ⟨sameKey, -, sameRest⟩ := cut
      subst sameKey sameRest
      cases afterKey : text.dropWhile (fun c => !endsKey c) with
      | nil =>
        rw [afterKey] at afterSpaces
        cases afterSpaces
      | cons c behind =>
        rw [afterKey] at afterSpaces
        exact ⟨c, behind, rfl, afterSpaces, rfl⟩
    · cases cut

theorem cutKey_append {place stop : Nat} {first : Char} {text rest : List Char} {key : SeenKey}
    (cut : cutKey place first text = .ok (key, stop, rest)) (more : List Char) :
    cutKey place first (text ++ more) = .ok (key, stop, rest ++ more) := by
  obtain ⟨c, behind, afterKey, afterSpaces, -⟩ := cutKey_cases cut
  obtain ⟨sameKey, stillAfterKey⟩ := span_append afterKey more
  obtain ⟨sameSpaces, stillAfterSpaces⟩ := span_append afterSpaces more
  rw [List.cons_append] at sameSpaces stillAfterSpaces
  simp only [cutKey, afterKey, afterSpaces] at cut
  simp only [cutKey, sameKey, stillAfterKey, sameSpaces, stillAfterSpaces]
  rw [if_pos trivial] at cut ⊢
  simp only [Except.ok.injEq, Prod.mk.injEq] at cut ⊢
  exact ⟨cut.1, cut.2.1, trivial⟩

theorem cutValue_append {place stop : Nat} {text value rest : List Char}
    (cut : cutValue place text = .ok (value, stop, rest)) (more : List Char) :
    cutValue place (text ++ more) = .ok (value, stop, rest ++ more) := by
  simp only [cutValue] at cut ⊢
  split at cut
  · cases cut
  · next quote inside split =>
    obtain ⟨sameSpaces, stillInside⟩ := span_append split more
    simp only [sameSpaces, stillInside]
    split at cut
    · next isQuote =>
      rw [if_pos isQuote]
      split at cut
      · cases cut
      · next closing behind insideSplit =>
        obtain ⟨sameValue, stillBehind⟩ := span_append insideSplit more
        rw [sameValue, stillBehind]
        simp only [Except.ok.injEq, Prod.mk.injEq] at cut ⊢
        obtain ⟨sameCut, sameStop, sameRest⟩ := cut
        exact ⟨sameCut, sameStop, by rw [sameRest]⟩
    · cases cut

/-- A cut attribute has a new key, and is put together from its two parts. -/
theorem cutAttribute_cases {seen : List SeenKey} {place : Nat} {first : Char} {text : List Char}
    {found : AttributeCut} (cut : cutAttribute seen place first text = .ok found) :
    ∃ stop valueText, cutKey place first text = .ok (found.key, stop, valueText) ∧
      seen.find? (fun earlier => earlier.key == found.key.key) = none ∧
      cutValue stop valueText = .ok (found.value, found.place, found.rest) := by
  simp only [cutAttribute, bind, Except.bind] at cut
  split at cut
  · cases cut
  · next keyCut keyEqual =>
    obtain ⟨key, stop, valueText⟩ := keyCut
    split at cut
    · cases cut
    · next isNew =>
      split at cut
      · cases cut
      · next valueCut valueEqual =>
        obtain ⟨value, valueStop, rest⟩ := valueCut
        simp only [Except.ok.injEq] at cut
        subst cut
        exact ⟨stop, valueText, keyEqual, isNew, valueEqual⟩

theorem cutAttribute_of_parts {seen : List SeenKey} {place stop valueStop : Nat} {first : Char}
    {text valueText value rest : List Char} {key : SeenKey}
    (keyCut : cutKey place first text = .ok (key, stop, valueText))
    (isNew : seen.find? (fun earlier => earlier.key == key.key) = none)
    (valueCut : cutValue stop valueText = .ok (value, valueStop, rest)) :
    cutAttribute seen place first text = .ok ⟨key, value, valueStop, rest⟩ := by
  simp only [cutAttribute, bind, Except.bind, keyCut, isNew, valueCut]

theorem cutAttribute_append {seen : List SeenKey} {place : Nat} {first : Char}
    {text : List Char} {found : AttributeCut}
    (cut : cutAttribute seen place first text = .ok found) (more : List Char) :
    cutAttribute seen place first (text ++ more) =
      .ok { found with rest := found.rest ++ more } := by
  obtain ⟨stop, valueText, keyCut, isNew, valueCut⟩ := cutAttribute_cases cut
  exact cutAttribute_of_parts (cutKey_append keyCut more) isNew (cutValue_append valueCut more)

/-! ### Reading step by step -/

theorem readAttributesFrom_blank {text : List Char} (seen : List SeenKey) (place : Nat)
    (blank : text.dropWhile isSpace = []) : readAttributesFrom seen place text = .ok [] := by
  rw [readAttributesFrom]
  split
  · rfl
  · next first behind nonBlank =>
    rw [blank] at nonBlank
    cases nonBlank

theorem readAttributesFrom_attribute {seen : List SeenKey} {place : Nat}
    {text behind value : List Char} {first : Char} {found : AttributeCut}
    (start : text.dropWhile isSpace = first :: behind)
    (cut : cutAttribute seen (place + byteLength (text.takeWhile isSpace)) first behind =
      .ok found)
    (resolved : resolve found.value = .ok value) :
    readAttributesFrom seen place text =
      (readAttributesFrom (found.key :: seen) found.place found.rest).map
        ((String.ofList found.key.key, String.ofList value) :: ·) := by
  rw [readAttributesFrom]
  split
  · next blank =>
    rw [start] at blank
    cases blank
  · next c rest nonBlank =>
    rw [start] at nonBlank
    cases nonBlank
    split
    · next cause isError =>
      rw [cut] at isError
      cases isError
    · next other isOther =>
      rw [cut] at isOther
      cases isOther
      rw [resolved]
      cases readAttributesFrom (found.key :: seen) found.place found.rest <;> rfl

/-- Reading succeeds only on blanks, or on an attribute in front of more. -/
theorem readAttributesFrom_cases {seen : List SeenKey} {place : Nat} {text : List Char}
    {pairs : List (String × String)} (read : readAttributesFrom seen place text = .ok pairs) :
    (text.dropWhile isSpace = [] ∧ pairs = []) ∨
      ∃ first behind found value following,
        text.dropWhile isSpace = first :: behind ∧
        cutAttribute seen (place + byteLength (text.takeWhile isSpace)) first behind =
          .ok found ∧
        resolve found.value = .ok value ∧
        readAttributesFrom (found.key :: seen) found.place found.rest = .ok following ∧
        pairs = (String.ofList found.key.key, String.ofList value) :: following := by
  rw [readAttributesFrom] at read
  split at read
  · next blank =>
    cases read
    exact Or.inl ⟨blank, rfl⟩
  · next first behind nonBlank =>
    split at read
    · cases read
    · next found cut =>
      split at read
      · cases read
      · next value resolved =>
        split at read
        · cases read
        · next following readFollowing =>
          cases read
          exact Or.inr ⟨first, behind, found, value, following, nonBlank, cut, resolved,
            readFollowing, rfl⟩

theorem blank_of_readAttributesFrom_nil {seen : List SeenKey} {place : Nat} {text : List Char}
    (read : readAttributesFrom seen place text = .ok []) : text.dropWhile isSpace = [] := by
  rcases readAttributesFrom_cases read with ⟨blank, -⟩ | ⟨_, _, _, _, _, _, _, _, _, isCons⟩
  · exact blank
  · cases isCons

/-! ### Reading in two parts -/

theorem dropWhile_append_blank {front : List Char} (back : List Char)
    (blank : front.dropWhile isSpace = []) :
    (front ++ back).dropWhile isSpace = back.dropWhile isSpace := by
  rw [List.dropWhile_append, blank]
  rfl

theorem byteLength_append (front back : List Char) :
    byteLength (front ++ back) = byteLength front + byteLength back := by
  induction front with
  | nil => simp [byteLength]
  | cons c front inductionHypothesis =>
    rw [List.cons_append, byteLength, byteLength, inductionHypothesis, Nat.add_assoc]

theorem readAttributesFrom_skip {seen : List SeenKey} {place : Nat} {front back : List Char}
    {pairs : List (String × String)} (blank : front.dropWhile isSpace = [])
    (read : readAttributesFrom seen place (front ++ back) = .ok pairs) :
    ∃ stop, readAttributesFrom seen stop back = .ok pairs := by
  have sameStart := dropWhile_append_blank back blank
  rcases readAttributesFrom_cases read with
    ⟨allBlank, rfl⟩ | ⟨first, behind, found, value, following, start, cut, resolved,
      readFollowing, rfl⟩
  · rw [sameStart] at allBlank
    exact ⟨place, readAttributesFrom_blank seen place allBlank⟩
  · rw [sameStart] at start
    have samePlace : (front ++ back).takeWhile isSpace = front ++ back.takeWhile isSpace :=
      List.takeWhile_append_of_pos (List.dropWhile_eq_nil_iff.mp blank)
    rw [samePlace, byteLength_append, ← Nat.add_assoc] at cut
    refine ⟨place + byteLength front, ?_⟩
    rw [readAttributesFrom_attribute start cut resolved, readFollowing]
    rfl

/-- If a text and a part at its front are read, then what is read from the
whole is what is read from the part, followed by what is read from the rest. -/
theorem readAttributesFrom_split {seen : List SeenKey} {place : Nat} {front back : List Char}
    {frontPairs pairs : List (String × String)}
    (readFront : readAttributesFrom seen place front = .ok frontPairs)
    (read : readAttributesFrom seen place (front ++ back) = .ok pairs) :
    ∃ later stop following, readAttributesFrom later stop back = .ok following ∧
      pairs = frontPairs ++ following := by
  induction frontPairs generalizing seen place front pairs with
  | nil =>
    obtain ⟨stop, readBack⟩ :=
      readAttributesFrom_skip (blank_of_readAttributesFrom_nil readFront) read
    exact ⟨seen, stop, pairs, readBack, rfl⟩
  | cons pair others inductionHypothesis =>
    rcases readAttributesFrom_cases readFront with
      ⟨-, isNil⟩ | ⟨first, behind, found, value, following, start, cut, resolved,
        readFollowing, isCons⟩
    · cases isNil
    · cases isCons
      obtain ⟨samePlace, stillStart⟩ := span_append start back
      rw [← samePlace] at cut
      have wholeRead :=
        readAttributesFrom_attribute stillStart (cutAttribute_append cut back) resolved
      rw [wholeRead] at read
      cases restRead : readAttributesFrom (found.key :: seen) found.place
          (found.rest ++ back) with
      | error error =>
        simp only [restRead] at read
        cases read
      | ok restPairs =>
        simp only [restRead] at read
        cases read
        obtain ⟨later, stop, behindPairs, readBack, split⟩ :=
          inductionHypothesis readFollowing restRead
        exact ⟨later, stop, behindPairs, readBack, by rw [split, List.cons_append]⟩

/-! ### Keys -/

/-- Whether a text is read as one key: only its first character may be an
equals sign. -/
def isKey : List Char → Bool
  | [] => false
  | first :: rest => !isSpace first && rest.all fun c => !endsKey c

theorem not_isSpace_of_dropWhile {text behind : List Char} {first : Char}
    (start : text.dropWhile isSpace = first :: behind) : isSpace first = false := by
  have notBlank := List.head?_dropWhile_not isSpace text
  rw [start] at notBlank
  exact Bool.eq_false_iff.mpr (by simpa using notBlank)

/-- The keys read from a tag are keys, are new, and differ from each other. -/
theorem keys_of_readAttributesFrom {seen : List SeenKey} {place : Nat} {text : List Char}
    {pairs : List (String × String)} (read : readAttributesFrom seen place text = .ok pairs) :
    (pairs.map Prod.fst).Nodup ∧ ∀ key ∈ pairs.map Prod.fst,
      isKey key.toList = true ∧ ∀ earlier ∈ seen, earlier.key ≠ key.toList := by
  induction pairs generalizing seen place text with
  | nil =>
    exact ⟨List.nodup_nil, fun key member => nomatch member⟩
  | cons pair others inductionHypothesis =>
    rcases readAttributesFrom_cases read with
      ⟨-, isNil⟩ | ⟨first, behind, found, value, following, start, cut, resolved,
        readFollowing, isCons⟩
    · cases isNil
    · cases isCons
      obtain ⟨distinct, otherKeys⟩ := inductionHypothesis readFollowing
      obtain ⟨stop, valueText, keyCut, isNew, -⟩ := cutAttribute_cases cut
      obtain ⟨-, -, -, -, keyIs⟩ := cutKey_cases keyCut
      have isKeyFound : isKey found.key.key = true := by
        rw [keyIs]
        simp only [isKey, not_isSpace_of_dropWhile start, List.all_takeWhile]
        rfl
      rw [List.map_cons, List.nodup_cons]
      refine ⟨⟨?_, distinct⟩, ?_⟩
      · intro again
        exact (otherKeys _ again).2 found.key List.mem_cons_self String.toList_ofList.symm
      · intro key member
        rcases List.mem_cons.mp member with isHead | isLater
        · subst isHead
          rw [String.toList_ofList]
          refine ⟨isKeyFound, ?_⟩
          intro earlier isSeen same
          have differs := List.find?_eq_none.mp isNew earlier isSeen
          exact differs (beq_iff_eq.mpr same)
        · obtain ⟨isKeyLater, notSeen⟩ := otherKeys key isLater
          exact ⟨isKeyLater, fun earlier isSeen =>
            notSeen earlier (List.mem_cons_of_mem _ isSeen)⟩

/-! ### Attributes as they are written -/

theorem toList_attributeMarkup (pair : String × String) :
    (attributeMarkup pair).toList =
      ' ' :: (pair.1.toList ++ '=' :: '"' :: (pair.2.toList.flatMap escapeChar ++ ['"'])) := by
  unfold attributeMarkup
  simp only [String.toList_append, toList_escape]
  simp

/-- The text of a tag behind its name, with the given attributes. -/
def attributesText (entries : List (String × String)) : List Char :=
  entries.flatMap fun pair => (attributeMarkup pair).toList

theorem cutKey_written {first : Char} {rest : List Char} (place : Nat) (more : List Char)
    (key : isKey (first :: rest) = true) :
    ∃ stop, cutKey place first (rest ++ '=' :: more) = .ok (⟨first :: rest, place⟩, stop, more) := by
  rw [isKey, Bool.and_eq_true, List.all_eq_true] at key
  have taken : (rest ++ '=' :: more).takeWhile (fun c => !endsKey c) = rest := by
    rw [List.takeWhile_append_of_pos key.2]
    exact List.append_nil rest
  have left : (rest ++ '=' :: more).dropWhile (fun c => !endsKey c) = '=' :: more := by
    rw [List.dropWhile_append_of_pos key.2]
    rfl
  simp only [cutKey, taken, left]
  exact ⟨_, rfl⟩

theorem cutValue_written {value : List Char} (place : Nat) (more : List Char)
    (noQuote : ∀ c ∈ value, (c != '"') = true) :
    ∃ stop, cutValue place ('"' :: (value ++ '"' :: more)) = .ok (value, stop, more) := by
  have taken : (value ++ '"' :: more).takeWhile (· != '"') = value := by
    rw [List.takeWhile_append_of_pos noQuote]
    exact List.append_nil value
  have left : (value ++ '"' :: more).dropWhile (· != '"') = '"' :: more := by
    rw [List.dropWhile_append_of_pos noQuote]
    rfl
  have isQuote : ('"' :: (value ++ '"' :: more)).dropWhile isSpace =
      '"' :: (value ++ '"' :: more) := rfl
  simp only [cutValue, isQuote, true_or, if_true, taken, left]
  exact ⟨_, rfl⟩

theorem noQuote_of_escaped (value : List Char) :
    ∀ c ∈ value.flatMap escapeChar, (c != '"') = true := by
  intro c member
  have isNoSign := not_isMarkupSign_of_mem_escaped member
  simp only [isMarkupSign, Bool.or_eq_false_iff] at isNoSign
  rw [bne, isNoSign.1.2]
  rfl

/-- An attribute whose key is new is read as it is written, whatever follows. -/
theorem readAttributesFrom_attributeMarkup {seen : List SeenKey} (place : Nat)
    {key : String} (value : String) (more : List Char) (hasKey : isKey key.toList = true)
    (new : ∀ earlier ∈ seen, earlier.key ≠ key.toList) :
    ∃ later stop, later.key = key.toList ∧
      readAttributesFrom seen place ((attributeMarkup (key, value)).toList ++ more) =
        (readAttributesFrom (later :: seen) stop more).map ((key, value) :: ·) := by
  rw [toList_attributeMarkup]
  cases keyIs : key.toList with
  | nil =>
    rw [keyIs] at hasKey
    cases hasKey
  | cons first rest =>
    rw [keyIs] at hasKey new
    simp only [List.cons_append, List.append_assoc, List.nil_append]
    have notSpace : isSpace first = false := by
      rw [isKey, Bool.and_eq_true] at hasKey
      exact Bool.not_eq_true' _ ▸ hasKey.1
    have notSeen : seen.find? (fun earlier => earlier.key == first :: rest) = none := by
      rw [List.find?_eq_none]
      intro earlier isSeen same
      exact new earlier isSeen (beq_iff_eq.mp same)
    obtain ⟨keyStop, keyCut⟩ := cutKey_written (place + byteLength [' '])
      ('"' :: (value.toList.flatMap escapeChar ++ '"' :: more)) hasKey
    obtain ⟨valueStop, valueCut⟩ :=
      cutValue_written keyStop more (noQuote_of_escaped value.toList)
    generalize tailIs : rest ++ '=' :: '"' :: (value.toList.flatMap escapeChar ++ '"' :: more) =
      tail at keyCut
    have start : (' ' :: first :: tail).dropWhile isSpace = first :: tail := by
      rw [List.dropWhile_cons_of_pos rfl,
        List.dropWhile_cons_of_neg (Bool.eq_false_iff.mp notSpace)]
    have blanks : (' ' :: first :: tail).takeWhile isSpace = [' '] := by
      rw [List.takeWhile_cons_of_pos rfl,
        List.takeWhile_cons_of_neg (Bool.eq_false_iff.mp notSpace)]
    have cut : cutAttribute seen (place + byteLength ((' ' :: first :: tail).takeWhile isSpace))
        first tail =
          .ok ⟨⟨first :: rest, place + byteLength [' ']⟩, value.toList.flatMap escapeChar,
            valueStop, more⟩ := by
      rw [blanks]
      exact cutAttribute_of_parts keyCut notSeen valueCut
    refine ⟨⟨first :: rest, place + byteLength [' ']⟩, valueStop, rfl, ?_⟩
    rw [readAttributesFrom_attribute start cut (resolve_escaped value.toList), ← keyIs,
      String.ofList_toList, String.ofList_toList]

/-- Attributes that have keys, and each key once, are read as they are written. -/
theorem readAttributesFrom_written {entries : List (String × String)} (seen : List SeenKey)
    (place : Nat) (distinct : (entries.map Prod.fst).Nodup)
    (keys : ∀ key ∈ entries.map Prod.fst, isKey key.toList = true)
    (new : ∀ key ∈ entries.map Prod.fst, ∀ earlier ∈ seen, earlier.key ≠ key.toList) :
    readAttributesFrom seen place (attributesText entries) = .ok entries := by
  induction entries generalizing seen place with
  | nil => exact readAttributesFrom_blank seen place rfl
  | cons entry others inductionHypothesis =>
    obtain ⟨key, value⟩ := entry
    rw [List.map_cons, List.nodup_cons] at distinct
    obtain ⟨later, stop, laterKey, readHere⟩ := readAttributesFrom_attributeMarkup place value
      (attributesText others) (keys key List.mem_cons_self) (new key List.mem_cons_self)
    have newOthers : ∀ other ∈ others.map Prod.fst, ∀ earlier ∈ later :: seen,
        earlier.key ≠ other.toList := by
      intro other member earlier isSeen same
      rcases List.mem_cons.mp isSeen with isHead | isEarlier
      · rw [isHead, laterKey, String.toList_inj] at same
        exact distinct.1 (same ▸ member)
      · exact new other (List.mem_cons_of_mem _ member) earlier isEarlier same
    have readOthers := inductionHypothesis (later :: seen) stop distinct.2
      (fun other member => keys other (List.mem_cons_of_mem _ member)) newOthers
    unfold attributesText at readHere readOthers ⊢
    rw [List.flatMap_cons, readHere, readOthers]
    rfl

end IconForge.Svg
