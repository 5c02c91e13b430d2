import IconForge.Text.Blank
import IconForge.Text.Case

/-!
Contract: names of icons and the identifiers made from them.

Owns:
- which texts are icon names;
- the component identifier (every word capitalized) and the binding identifier
  (every word but the first capitalized) of a name;
- the identifier form of an attribute key.

Does not own: the attribute keys whose property name is fixed by a list.
-/

namespace IconForge.Naming

open IconForge.Text

/-- The text with its first character in upper form. -/
def capitalizeChars : List Char → List Char
  | [] => []
  | c :: rest => Case.upper c ++ rest

/-- The text with its first character in lower form. -/
def uncapitalizeChars : List Char → List Char
  | [] => []
  | c :: rest => Case.lower c ++ rest

/-- The text with its first character in upper form and the rest as it is. -/
def capitalize (text : String) : String :=
  String.ofList (capitalizeChars text.toList)

def isWordBreak (c : Char) : Bool :=
  c == '-' || c == '_' || isBlank c

/-- The component identifier of a name: its words, each in lower form but for
the first character, which is in upper form. -/
def pascal (name : String) : String :=
  let words := (splitAt isWordBreak name.toList).filter (fun word => !word.isEmpty)
  String.ofList (words.flatMap fun word => capitalizeChars (Case.lowerText word))

/-- Words run together: the first starts in lower form, each later one in
upper form, and all other characters stay as they are. -/
def joinWords : List (List Char) → List Char
  | [] => []
  | first :: later => uncapitalizeChars first ++ later.flatMap capitalizeChars

/-- The binding identifier of a name: its hyphen-separated words run together. -/
def camel (name : String) : String :=
  String.ofList (joinWords (splitAt (· == '-') name.toList))

/-- The identifier form of an attribute key, in which a colon separates words
as a hyphen does. -/
def attributeCamel (key : String) : String :=
  String.ofList (joinWords (splitAt (fun c => c == '-' || c == ':') key.toList))

/-- Lower-case ASCII letters and digits, the characters of an icon name's
segments. -/
def isNameChar (c : Char) : Bool :=
  c.isLower || c.isDigit

/-- Whether a text is an icon name: segments of lower-case letters and digits
between single hyphens, of which the first starts with a letter. -/
def isIconName (name : String) : Bool :=
  match splitAt (· == '-') name.toList with
  | [] => false
  | head :: segments =>
    (match head with
      | [] => false
      | c :: rest => c.isLower && rest.all isNameChar) &&
    segments.all fun segment => !segment.isEmpty && segment.all isNameChar

end IconForge.Naming
