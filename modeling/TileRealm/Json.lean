/-!
# JSON values and their text

* `Json`: a value; a number is a whole number or the literal of another one.
* `Json.render`: the compact text of a value, without blanks, object fields in their order.
-/

set_option autoImplicit false

namespace TileRealm

/-- A JSON value. -/
inductive Json where
  | null
  | bool (value : Bool)
  | integer (value : Int)
  /-- A number with a fraction, an exponent or a negative zero, as it is written. -/
  | decimal (literal : List Char)
  | string (value : String)
  | array (items : List Json)
  | object (fields : List (String × Json))

namespace Json

/-! ## Strings -/

/-- A control character without a short form, by its number in four digits. -/
def escapeControl (c : Char) : List Char :=
  let digits := Nat.toDigits 16 c.toNat
  ['\\', 'u'] ++ List.replicate (4 - digits.length) '0' ++ digits

/-- One character of a string: quote, backslash and controls are escaped, all else is kept. -/
def escape (c : Char) : List Char :=
  if c = '"' then ['\\', '"']
  else if c = '\\' then ['\\', '\\']
  else if c = '\x08' then ['\\', 'b']
  else if c = '\t' then ['\\', 't']
  else if c = '\n' then ['\\', 'n']
  else if c = '\x0c' then ['\\', 'f']
  else if c = '\r' then ['\\', 'r']
  else if c.toNat < 0x20 then escapeControl c
  else [c]

/-- A string in quotes. -/
def renderString (s : String) : List Char :=
  '"' :: s.toList.flatMap escape ++ ['"']

/-- The digits of a whole number, behind its sign if it is negative. -/
def renderInteger : Int → List Char
  | .ofNat n => Nat.toDigits 10 n
  | .negSucc n => '-' :: Nat.toDigits 10 (n + 1)

/-! ## Values -/

mutual

/-- The characters of a value. -/
def renderChars : Json → List Char
  | null => ['n', 'u', 'l', 'l']
  | bool true => ['t', 'r', 'u', 'e']
  | bool false => ['f', 'a', 'l', 's', 'e']
  | integer n => renderInteger n
  | decimal literal => literal
  | string s => renderString s
  | array [] => ['[', ']']
  | array (item :: items) => '[' :: renderChars item ++ renderItems items ++ [']']
  | object [] => ['\x7b', '\x7d']
  | object ((name, value) :: fields) =>
    '\x7b' :: renderString name ++ ':' :: renderChars value ++ renderFields fields ++ ['\x7d']

/-- The items after the first one, each behind a comma. -/
def renderItems : List Json → List Char
  | [] => []
  | item :: items => ',' :: renderChars item ++ renderItems items

/-- The fields after the first one, each behind a comma. -/
def renderFields : List (String × Json) → List Char
  | [] => []
  | (name, value) :: fields =>
    ',' :: renderString name ++ ':' :: renderChars value ++ renderFields fields

end

/-- The text of a value. -/
def render (value : Json) : String :=
  String.ofList value.renderChars

end Json

end TileRealm
