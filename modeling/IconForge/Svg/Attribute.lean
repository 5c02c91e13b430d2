import IconForge.Text.Blank
import IconForge.Svg.Node

/-!
Contract: the attributes of a tag, cut out of its text one at a time.

Owns: the four markup blanks, the cut of one attribute (key, value as written,
and what follows), and the ways in which an attribute can be malformed.

Does not own: references inside values.
-/

namespace IconForge.Svg

open IconForge.Text

/-- The four characters that separate the parts of markup. -/
def isSpace (c : Char) : Bool :=
  c == ' ' || c == '\t' || c == '\n' || c == '\r'

/-- How an attribute is malformed. Places are byte offsets behind the `<` of
the tag. -/
inductive AttributeError where
  /-- At the place, something other than an equals sign follows a key. -/
  | noEquals (place : Nat)
  /-- The tag ends at the place where a value should start. -/
  | noValue (place : Nat)
  | unquoted (place : Nat)
  /-- The tag ends at the place before the closing quote. -/
  | unclosedQuote (place : Nat) (quote : Char)
  /-- The key at the place has been there before. -/
  | duplicate (place previous : Nat)
deriving DecidableEq, Repr

namespace AttributeError

def message : AttributeError → String
  | noEquals place =>
    "position " ++ toString place ++ ": attribute key must be directly followed by `=` or space"
  | noValue place =>
    "position " ++ toString place ++ ": `=` must be followed by an attribute value"
  | unquoted place =>
    "position " ++ toString place ++ ": attribute value must be enclosed in `\"` or `'`"
  | unclosedQuote place quote =>
    "position " ++ toString place ++ ": missing closing quote `" ++ quote.toString ++
      "` in attribute value"
  | duplicate place previous =>
    "position " ++ toString place ++
      ": duplicated attribute, previous declaration at position " ++ toString previous

end AttributeError

/-- A key that has been read, and its place. -/
structure SeenKey where
  key : List Char
  place : Nat
deriving DecidableEq, Repr

/-- An attribute as it is written, and what follows it. -/
structure AttributeCut where
  key : SeenKey
  value : List Char
  place : Nat
  rest : List Char
deriving Repr

def endsKey (c : Char) : Bool :=
  c == '=' || isSpace c

/-- Cuts off the key that starts a text, with the blanks and the equals sign
behind it. The first character belongs to the key whatever it is. -/
def cutKey (place : Nat) (first : Char) (text : List Char) :
    Except AttributeError (SeenKey × Nat × List Char) :=
  let key := first :: text.takeWhile (fun c => !endsKey c)
  let afterKey := text.dropWhile (fun c => !endsKey c)
  let spaces := afterKey.takeWhile isSpace
  let afterSpaces := afterKey.dropWhile isSpace
  let stop := place + byteLength key + byteLength spaces
  match afterSpaces with
  | [] => .error (.noEquals stop)
  | c :: rest =>
    if c = '=' then .ok (⟨key, place⟩, stop + 1, rest) else .error (.noEquals stop)

/-- Cuts off the quoted value that starts a text after blanks. -/
def cutValue (place : Nat) (text : List Char) :
    Except AttributeError (List Char × Nat × List Char) :=
  let start := place + byteLength (text.takeWhile isSpace)
  match text.dropWhile isSpace with
  | [] => .error (.noValue start)
  | quote :: inside =>
    if quote = '"' ∨ quote = '\'' then
      let value := inside.takeWhile (· != quote)
      match inside.dropWhile (· != quote) with
      | [] => .error (.unclosedQuote (start + 1 + byteLength value) quote)
      | _ :: rest => .ok (value, start + 2 + byteLength value, rest)
    else
      .error (.unquoted start)

/-- Cuts off the attribute that starts with the given character at the given
place. That its key is new is checked before its value is looked at. -/
def cutAttribute (seen : List SeenKey) (place : Nat) (first : Char) (text : List Char) :
    Except AttributeError AttributeCut := do
  let (key, afterEquals, valueText) ← cutKey place first text
  match seen.find? (fun earlier => earlier.key == key.key) with
  | some earlier => .error (.duplicate key.place earlier.place)
  | none =>
    let (value, stop, rest) ← cutValue afterEquals valueText
    .ok ⟨key, value, stop, rest⟩

theorem length_dropWhile_le (keep : Char → Bool) (text : List Char) :
    (text.dropWhile keep).length ≤ text.length :=
  (List.dropWhile_sublist keep).length_le

theorem length_lt_of_cutKey {place stop : Nat} {first : Char} {text rest : List Char}
    {key : SeenKey} (cut : cutKey place first text = .ok (key, stop, rest)) :
    rest.length < text.length := by
  simp only [cutKey] at cut
  split at cut
  · simp at cut
  · next c behind split =>
    have shorter := length_dropWhile_le isSpace (text.dropWhile fun c => !endsKey c)
    have notLonger := length_dropWhile_le (fun c => !endsKey c) text
    rw [split, List.length_cons] at shorter
    split at cut
    · simp only [Except.ok.injEq, Prod.mk.injEq] at cut
      rw [← cut.2.2]
      omega
    · simp at cut

theorem length_lt_of_cutValue {place stop : Nat} {text value rest : List Char}
    (cut : cutValue place text = .ok (value, stop, rest)) : rest.length < text.length := by
  simp only [cutValue] at cut
  split at cut
  · simp at cut
  · next quote inside split =>
    have notLonger := length_dropWhile_le isSpace text
    rw [split, List.length_cons] at notLonger
    split at cut
    · have shorter := length_dropWhile_le (· != quote) inside
      split at cut
      · simp at cut
      · next behind insideSplit =>
        rw [insideSplit, List.length_cons] at shorter
        simp only [Except.ok.injEq, Prod.mk.injEq] at cut
        rw [← cut.2.2]
        omega
    · simp at cut

theorem length_lt_of_cutAttribute {seen : List SeenKey} {place : Nat} {first : Char}
    {text : List Char} {found : AttributeCut}
    (cut : cutAttribute seen place first text = .ok found) :
    found.rest.length < text.length := by
  simp only [cutAttribute, bind, Except.bind] at cut
  split at cut
  · simp at cut
  · next keyCut keyEqual =>
    obtain ⟨key, afterEquals, valueText⟩ := keyCut
    have keyShorter := length_lt_of_cutKey keyEqual
    split at cut
    · simp at cut
    · split at cut
      · simp at cut
      · next valueCut valueEqual =>
        obtain ⟨value, stop, rest⟩ := valueCut
        have valueShorter := length_lt_of_cutValue valueEqual
        simp only [Except.ok.injEq] at cut
        rw [← cut]
        simp only at valueShorter ⊢
        omega

end IconForge.Svg
