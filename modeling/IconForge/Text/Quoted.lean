import IconForge.Text.Quoted.Table

/-!
Contract: a text between quotes as messages show it.

Owns: which characters are escaped, and how.

Does not own: the literals of scripts.
-/

namespace IconForge.Text.Quoted

/-- The hexadecimal digits of a number, lower case, without leading zeros. -/
def hexDigits (value : Nat) : List Char :=
  Nat.toDigits 16 value

/-- A character as it stands between the quotes. -/
def escapeChar (c : Char) : List Char :=
  match c with
  | '\x00' => ['\\', '0']
  | '\t' => ['\\', 't']
  | '\r' => ['\\', 'r']
  | '\n' => ['\\', 'n']
  | '"' => ['\\', '"']
  | '\\' => ['\\', '\\']
  | _ =>
    let shown := if c.toNat < 0x80 then 0x20 ≤ c.toNat ∧ c.toNat < 0x7F else !hidden.contains c
    if shown then [c]
    else ['\\', 'u', '\x7b'] ++ hexDigits c.toNat ++ ['\x7d']

def quote (text : String) : String :=
  String.ofList ('"' :: (text.toList.flatMap escapeChar ++ ['"']))

end IconForge.Text.Quoted
