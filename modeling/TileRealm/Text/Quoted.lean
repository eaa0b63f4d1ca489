import TileRealm.Text.Invisible

/-!
# Quoted text

A text or a character between quotes, for a reader who has to see exactly what it holds: control
characters, backslashes and the quote itself are escaped, and so is every character without a shape
of its own.

* `quoteChar`, `quoteString`: the quoted forms, in single and in double quotes.
-/

set_option autoImplicit false

namespace TileRealm.Text

/-- One character as it stands between the given quotes. -/
def escape (quote c : Char) : List Char :=
  if c = '\x00' then ['\\', '0']
  else if c = '\t' then ['\\', 't']
  else if c = '\r' then ['\\', 'r']
  else if c = '\n' then ['\\', 'n']
  else if c = '\\' ∨ c = quote then ['\\', c]
  else if isInvisible c then
    ['\\', 'u', '\x7b'] ++ Nat.toDigits 16 c.toNat ++ ['\x7d']
  else [c]

/-- A character in single quotes. -/
def quoteChar (c : Char) : String :=
  String.ofList ('\'' :: escape '\'' c ++ ['\''])

/-- A text in double quotes. -/
def quoteString (s : String) : String :=
  String.ofList ('"' :: s.toList.flatMap (escape '"') ++ ['"'])

end TileRealm.Text
