import TileRealm.Toml.Quoted

/-!
# Written keys

A key that stands bare is written bare.  Any other key stands in double quotes if nothing in it has
to be escaped, else in single quotes if it can, and else in double quotes with escapes.

* `Key.written`: the text of a key.
-/

set_option autoImplicit false

namespace TileRealm.Toml

/-- A character as it stands in a basic string. -/
def escaped (c : Char) : List Char :=
  if c = '"' ∨ c = '\\' then ['\\', c]
  else if c = '\x08' then ['\\', 'b']
  else if c = '\t' then ['\\', 't']
  else if c = '\n' then ['\\', 'n']
  else if c = '\x0c' then ['\\', 'f']
  else if c = '\r' then ['\\', 'r']
  else if isPlain c then [c]
  else ['\\', 'u', '0', '0', (c.toNat / 16).digitChar.toUpper, (c.toNat % 16).digitChar.toUpper]

namespace Key

/-- The text of a key. -/
def written (k : Key) : String :=
  let cs := k.name.toList
  if !cs.isEmpty && cs.all isBare then k.name
  else if !cs.all Quote.basic.isKept && cs.all Quote.literal.isKept then "'" ++ k.name ++ "'"
  else "\"" ++ String.ofList (cs.flatMap escaped) ++ "\""

end Key

end TileRealm.Toml
