import TileRealm.Json
import TileRealm.Text.Digit
import TileRealm.Text.Scan

/-!
# Reading JSON

The reader takes JSON as its standard has it: no comments, no trailing commas, no leading zeros, no
control characters in strings.  A string escape that is half a surrogate pair is no character; the
lenient reader, for values that nobody looks at, puts a replacement character there.

* `Json.value`: one value, in the strict or the lenient way.
* `Json.members`: an object whose values are read by a scan that depends on the name.
* `Json.parse?`: the value of a whole text.
-/

set_option autoImplicit false

namespace TileRealm.Json

open Text

/-- Whether a character stands between the parts of a JSON text. -/
def isBlank (c : Char) : Bool :=
  c = ' ' || c = '\t' || c = '\n' || c = '\r'

/-- Skips blanks. -/
def blanks : Scan Unit :=
  Scan.skipWhile isBlank

/-- The character and any blanks after it. -/
def symbol (c : Char) : Scan Unit := do
  Scan.char c
  blanks

/-! ## Strings -/

/-- The number that four digits stand for. -/
def hex4? (a b c d : Char) : Option Nat := do
  let a ← digitValue? 16 a
  let b ← digitValue? 16 b
  let c ← digitValue? 16 c
  let d ← digitValue? 16 d
  return ((a * 16 + b) * 16 + c) * 16 + d

/-- The character that a letter after a backslash stands for. -/
def unescape? (c : Char) : Option Char :=
  if c = '"' ∨ c = '\\' ∨ c = '/' then some c
  else if c = 'b' then some '\x08'
  else if c = 'f' then some '\x0c'
  else if c = 'n' then some '\n'
  else if c = 'r' then some '\r'
  else if c = 't' then some '\t'
  else none

/-- The character of two halves of a surrogate pair. -/
def pair? (high low : Nat) : Option Char :=
  if 0xD800 ≤ high ∧ high < 0xDC00 ∧ 0xDC00 ≤ low ∧ low < 0xE000 then
    charOf? (0x10000 + (high - 0xD800) * 0x400 + (low - 0xDC00))
  else none

/-- What one place of a string holds: a character, or the number of an escape. -/
inductive Piece where
  | plain (c : Char)
  | coded (code : Nat)

/-- The pieces of a string up to its closing quote. -/
def pieces : List Char → Option (List Piece × List Char)
  | [] => none
  | '"' :: cs => some ([], cs)
  | '\\' :: 'u' :: a :: b :: c :: d :: cs =>
    match hex4? a b c d with
    | some code => (pieces cs).map fun (tail, rest) => (.coded code :: tail, rest)
    | none => none
  | '\\' :: c :: cs =>
    match unescape? c with
    | some char => (pieces cs).map fun (tail, rest) => (.plain char :: tail, rest)
    | none => none
  | c :: cs =>
    if c.toNat < 0x20 ∨ c = '\\' then none
    else (pieces cs).map fun (tail, rest) => (.plain c :: tail, rest)

/-- What the lenient reader puts for half a pair. -/
def replacement? (lenient : Bool) : Option Char :=
  if lenient then some '\uFFFD' else none

/-- The characters of a string: two escapes that are the halves of a pair make one character. -/
def joinPieces (lenient : Bool) : List Piece → Option (List Char)
  | [] => some []
  | .plain c :: rest => do return c :: (← joinPieces lenient rest)
  | .coded code :: rest =>
    let follow (c : Char) : Option (List Char) := do return c :: (← joinPieces lenient rest)
    match charOf? code with
    | some c => follow c
    | none =>
      match rest with
      | .coded low :: after =>
        match pair? code low with
        | some c => do return c :: (← joinPieces lenient after)
        | none => replacement? lenient >>= follow
      | _ => replacement? lenient >>= follow

/-- A string in quotes. -/
def stringValue (lenient : Bool) : Scan String
  | '"' :: cs => do
    let (parts, rest) ← pieces cs
    return (String.ofList (← joinPieces lenient parts), rest)
  | _ => none

/-! ## Numbers -/

/-- Whether a character is a decimal digit. -/
def isDigit (c : Char) : Bool :=
  isDigitOf 10 c

/-- The digits of a whole number, without leading zeros. -/
def wholeDigits : Scan (List Char) := do
  let digits ← Scan.takeWhile1 isDigit
  if digits.head? = some '0' ∧ digits.length ≠ 1 then Scan.fail else return digits

/-- A point and the digits behind it, if there is one. -/
def fraction : Scan (List Char) := do
  match ← Scan.optional (Scan.char '.') with
  | some _ => return '.' :: (← Scan.takeWhile1 isDigit)
  | none => return []

/-- An exponent, if there is one. -/
def exponent : Scan (List Char) := do
  match ← Scan.optional (Scan.satisfy fun c => c = 'e' || c = 'E') with
  | some e =>
    let sign ← Scan.optional (Scan.satisfy fun c => c = '+' || c = '-')
    return e :: sign.toList ++ (← Scan.takeWhile1 isDigit)
  | none => return []

/-- A number. -/
def number : Scan Json := do
  let sign ← Scan.optional (Scan.char '-')
  let digits ← wholeDigits
  let fraction ← fraction
  let exponent ← exponent
  let negative := sign.isSome
  let n := numberOf 10 digits
  if fraction.isEmpty ∧ exponent.isEmpty ∧ ¬ (negative ∧ n = 0) then
    return integer (if negative then -n else n)
  else
    return decimal ((if negative then ['-'] else []) ++ digits ++ fraction ++ exponent)

/-! ## Values -/

/-- The fields of an object, each read by the scan that its name selects. -/
def members {α : Type} (lenient : Bool) (field : String → Scan α) (bound : Nat) :
    Scan (List (String × α)) := do
  symbol '\x7b'
  match ← Scan.optional (Scan.char '\x7d') with
  | some _ => return []
  | none =>
    let entry : Scan (String × α) := do
      let name ← stringValue lenient
      blanks
      symbol ':'
      let value ← field name
      blanks
      return (name, value)
    let fields ← Scan.sepBy1 entry (symbol ',') bound
    Scan.char '\x7d'
    return fields

/-- The items of an array. -/
def elements {α : Type} (item : Scan α) (bound : Nat) : Scan (List α) := do
  symbol '['
  match ← Scan.optional (Scan.char ']') with
  | some _ => return []
  | none =>
    let entry : Scan α := do
      let value ← item
      blanks
      return value
    let items ← Scan.sepBy1 entry (symbol ',') bound
    Scan.char ']'
    return items

/-- A value nested at most as deeply as the bound says, with at most as many parts per level. -/
def valueWithin (lenient : Bool) : Nat → Scan Json
  | 0 => Scan.fail
  | bound + 1 => do
    match ← Scan.peek with
    | some '\x7b' =>
      return object (← members lenient (fun _ => valueWithin lenient bound) (bound + 1))
    | some '[' => return array (← elements (valueWithin lenient bound) (bound + 1))
    | some '"' => return string (← stringValue lenient)
    | some 'n' => Scan.literal ['n', 'u', 'l', 'l']; return null
    | some 't' => Scan.literal ['t', 'r', 'u', 'e']; return bool true
    | some 'f' => Scan.literal ['f', 'a', 'l', 's', 'e']; return bool false
    | _ => number

/-- A value; the length of the text bounds its depth and the number of its parts. -/
def value (lenient : Bool) : Scan Json := fun cs =>
  valueWithin lenient (cs.length + 1) cs

/-- The value that a whole text holds, blanks around it aside. -/
def parse? (text : String) : Option Json :=
  Scan.whole (do blanks; let v ← value false; blanks; return v) text.toList

/-! ## Views -/

/-- The coordinate that a value is, if it is a whole number in range. -/
def coordinate? : Json → Option UInt32
  | integer n => if 0 ≤ n ∧ n < UInt32.size then some (UInt32.ofNat n.toNat) else none
  | _ => none

/-- The strings of an array of strings. -/
def strings? : Json → Option (List String)
  | array items => items.mapM fun
    | string s => some s
    | _ => none
  | _ => none

end TileRealm.Json
