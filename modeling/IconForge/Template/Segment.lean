import IconForge.Text.Blank

/-!
Contract: the text of a template cut into plain text and tags.

Owns:
- where tags start and end, given that a mark inside quotes ends none;
- the trimming of plain text beside a tag that asks for it.

Does not own: what the inside of a tag says.
-/

namespace IconForge.Template

open IconForge.Text

/-- The three kinds of tags. -/
inductive TagKind where
  | output
  | block
  | comment
deriving DecidableEq, Repr

namespace TagKind

/-- The character beside the brace where a tag starts or ends. -/
def mark : TagKind → Char
  | output => '\x7d'
  | block => '%'
  | comment => '#'

def ofStart? (c : Char) : Option TagKind :=
  if c = '\x7b' then some output
  else if c = '%' then some block
  else if c = '#' then some comment
  else none

end TagKind

/-- A tag: its inside, and whether the text beside it is trimmed. -/
structure Tag where
  kind : TagKind
  inside : List Char
  trimsBefore : Bool
  trimsBehind : Bool
deriving DecidableEq, Repr

namespace Tag

/-- The tag with the given inside, of which a dash at either end is a wish to
trim. -/
def ofInside (kind : TagKind) (inside : List Char) : Tag :=
  let trimsBefore := inside.head? == some '-'
  let kept := if trimsBefore then inside.tail else inside
  let trimsBehind := kept.getLast? == some '-'
  ⟨kind, if trimsBehind then kept.dropLast else kept, trimsBefore, trimsBehind⟩

end Tag

/-- A piece of a template. -/
inductive Segment where
  | text (value : List Char)
  | tag (tag : Tag)
deriving DecidableEq, Repr

/-- Where in a template reading has come to. -/
inductive Position where
  | text
  /-- In a tag, perhaps inside quotes. -/
  | tag (kind : TagKind) (quote : Option Char)
deriving DecidableEq, Repr

def quoteAfter (kind : TagKind) (quote : Option Char) (c : Char) : Option Char :=
  match quote with
  | some opened => if c = opened then none else quote
  | none =>
    if kind ≠ .comment && (c == '"' || c == '\'' || c == '\x60') then some c else none

/-- The segments of what remains of a template, given what has been read of the
present one, its last character first. A tag has to end. -/
def segmentsFrom? (position : Position) (read : List Char) : List Char → Option (List Segment)
  | [] =>
    match position with
    | .text => some [.text read.reverse]
    | .tag _ _ => none
  | [c] =>
    match position with
    | .text => some [.text (c :: read).reverse]
    | .tag _ _ => none
  | c :: next :: rest =>
    match position with
    | .text =>
      match if c = '\x7b' then TagKind.ofStart? next else none with
      | some kind =>
        (segmentsFrom? (.tag kind none) [] rest).map (.text read.reverse :: ·)
      | none => segmentsFrom? .text (c :: read) (next :: rest)
    | .tag kind quote =>
      if quote.isNone && c == kind.mark && next == '\x7d' then
        (segmentsFrom? .text [] rest).map (.tag (Tag.ofInside kind read.reverse) :: ·)
      else
        segmentsFrom? (.tag kind (quoteAfter kind quote c)) (c :: read) (next :: rest)

/-- The segments of a template with plain text trimmed where a tag beside it
asks for that; `trimsStart` says so for the tag in front. -/
def trimSegments (trimsStart : Bool) : List Segment → List Segment
  | [] => []
  | .tag tag :: rest => .tag tag :: trimSegments tag.trimsBehind rest
  | .text value :: rest =>
    let started := if trimsStart then value.dropWhile isBlank else value
    let kept :=
      match rest with
      | .tag tag :: _ => if tag.trimsBefore then trimEnd started else started
      | _ => started
    .text kept :: trimSegments false rest

/-- The segments of a template, if all its tags end. -/
def segments? (text : List Char) : Option (List Segment) :=
  (segmentsFrom? .text [] text).map (trimSegments false)

end IconForge.Template
