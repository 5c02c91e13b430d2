/-!
Contract: text written as a script's string literals and object keys.

Owns: the double-quoted literal of a text, the class of identifiers, and the
written form of an object key.

Does not own: reading literals back.
-/

namespace IconForge.Script

/-- The hexadecimal digit of a value below sixteen, in lower case. -/
def hexDigit (value : Nat) : Char :=
  Char.ofNat (if value < 10 then 0x30 + value else 0x57 + value)

def unicodeEscape (c : Char) : List Char :=
  let code := c.toNat
  ['\\', 'u', hexDigit (code / 0x1000 % 16), hexDigit (code / 0x100 % 16),
    hexDigit (code / 0x10 % 16), hexDigit (code % 16)]

/-- A character as it stands inside a double-quoted literal: quotes,
backslashes, control characters and the two line separators are escaped. -/
def escapeChar (c : Char) : List Char :=
  match c with
  | '"' => ['\\', '"']
  | '\\' => ['\\', '\\']
  | '\x08' => ['\\', 'b']
  | '\x0c' => ['\\', 'f']
  | '\n' => ['\\', 'n']
  | '\r' => ['\\', 'r']
  | '\t' => ['\\', 't']
  | '\u2028' | '\u2029' => unicodeEscape c
  | _ => if c.toNat < 0x20 then unicodeEscape c else [c]

def literalBody (text : List Char) : List Char :=
  text.flatMap escapeChar

def literal (text : String) : String :=
  String.ofList ('"' :: (literalBody text.toList ++ ['"']))

def isIdentifierStart (c : Char) : Bool :=
  c.isAlpha || c == '_' || c == '$'

def isIdentifierPart (c : Char) : Bool :=
  isIdentifierStart c || c.isDigit

def isIdentifier (text : String) : Bool :=
  match text.toList with
  | [] => false
  | c :: rest => isIdentifierStart c && rest.all isIdentifierPart

/-- An object key: an identifier as it is, any other text as a literal. -/
def key (text : String) : String :=
  if isIdentifier text then text else literal text

end IconForge.Script
