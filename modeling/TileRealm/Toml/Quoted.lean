import TileRealm.Text.Digit
import TileRealm.Toml
import TileRealm.Toml.Line
import TileRealm.Toml.Moment

/-!
# Strings and keys

A basic string stands in double quotes and knows escapes, a literal one stands in single quotes and
knows none.  Either may stand in three quotes and then go over several lines: a line end right after
the opening is left out, and up to two quotes may stand within or at the end.

* `stringValue`: a string of any of the four forms.
* `keyPath`: keys joined by points; a key is bare or a string on one line.
-/

set_option autoImplicit false

namespace TileRealm.Toml

open Text

/-- The two quotes. -/
inductive Quote where
  | basic
  | literal

namespace Quote

/-- The character of a quote. -/
def char : Quote → Char
  | basic => '"'
  | literal => '\x27'

/-- The name of the strings in a quote. -/
def name : Quote → String
  | basic => "basic string"
  | literal => "literal string"

/-- Whether a character stands for itself in a string. -/
def isKept (q : Quote) (c : Char) : Bool :=
  isPlain c && c != q.char &&
    match q with
    | basic => c != '\\'
    | literal => true

end Quote

/-! ## Escapes -/

/-- The character that a letter after a backslash stands for. -/
def unescape? (c : Char) : Option Char :=
  if c = '"' ∨ c = '\\' then some c
  else if c = 'b' then some '\x08'
  else if c = 't' then some '\t'
  else if c = 'n' then some '\n'
  else if c = 'f' then some '\x0c'
  else if c = 'r' then some '\r'
  else none

/-- The character with a code point of so many hexadecimal digits, which stand behind a letter. -/
def coded (letter : Char) (digits : Nat) : Reading Char := do
  Reading.char letter
  Reading.final <| Reading.named ("unicode " ++ toString digits ++ "-digit hex code") <|
    (Reading.takeExactly digits (isDigitOf 16)).checked fun code =>
      match charOf? (numberOf 16 code) with
      | some c => .ok c
      | none => .error outOfRange

/-- A letter that makes no escape.  The fault is behind its first byte: within a letter of several
bytes, which is at fault itself, but behind a letter of one byte. -/
def noEscape : Reading Char :=
  Reading.final <| Reading.named "escape sequence" <|
    Reading.expecting ["`b`", "`f`", "`n`", "`r`", "`t`", "`u`", "`U`", "`\\`", "`\"`"] do
      let _ ← Reading.satisfy (·.utf8Size = 1)
      Reading.fail

/-- A backslash with what it escapes. -/
def escape : Reading Char := do
  Reading.char '\\'
  match ← Reading.peek with
  | none => Reading.fail
  | some 'u' => coded 'u' 4
  | some 'U' => coded 'U' 8
  | some c =>
    match unescape? c with
    | some d =>
      Reading.char c
      return d
    | none => noEscape

/-- A backslash at the end of a line, with all blanks and line ends that follow. -/
def continuation : Reading Unit := do
  Reading.char '\\'
  blanks
  newline
  let _ ← Reading.many ((do let _ ← Reading.takeWhile1 isBlank) <|> newline)

/-! ## Contents -/

/-- The next characters of a string on one line. -/
def piece (q : Quote) : Reading (List Char) :=
  let kept := Reading.takeWhile1 q.isKept
  match q with
  | .basic => kept <|> (do return [← escape])
  | .literal => kept

/-- The next characters of a string over several lines that are no quotes. -/
def longPiece (q : Quote) : Reading (List Char) :=
  let common : Reading (List Char) := piece q <|> (do
    newline
    return ['\n'])
  match q with
  | .basic =>
    (do
      continuation
      return [])
      <|> common
  | .literal => common

/-- One or two quotes within a string over several lines, and what follows them.  In a basic string
any other character will do. -/
def innerQuotes (q : Quote) : Reading (List Char) := do
  let quotes ← Reading.takeWhile (· = q.char)
  match quotes.length, ← Reading.peek with
  | 0, _ => Reading.fail
  | 1, some _ | 2, some _ =>
    match q with
    | .basic => return quotes
    | .literal => return quotes ++ (← longPiece q)
  | _, _ => Reading.fail

/-- The closing of a string over several lines, with up to two quotes before it. -/
def longClosing (q : Quote) : Reading (List Char) := fun c =>
  let run := (c.rest.takeWhile (· = q.char)).take 5
  if 3 ≤ run.length then .ok (run.drop 3, ⟨c.passed + run.length, c.rest.drop run.length⟩)
  else .error { place := c.passed, isFinal := true }

/-- A string over several lines. -/
def longString (q : Quote) : Reading String :=
  Reading.named ("multiline " ++ q.name) do
    Reading.literal [q.char, q.char, q.char]
    let _ ← Reading.optional newline
    let parts ← Reading.many (longPiece q <|> innerQuotes q)
    let last ← longClosing q
    return String.ofList (parts.flatten ++ last)

/-- A string on one line. -/
def shortString (q : Quote) : Reading String := do
  Reading.char q.char
  let parts ← Reading.many (piece q)
  (Reading.char q.char).final.named q.name
  return String.ofList parts.flatten

/-- A string of any form. -/
def stringValue : Reading String :=
  longString .basic <|> shortString .basic <|> longString .literal <|> shortString .literal

/-! ## Keys -/

/-- Whether a character may stand in a bare key. -/
def isBare (c : Char) : Bool :=
  isDigitOf 36 c || c = '_' || c = '-'

/-- A key. -/
def key : Reading Key := do
  let (span, name) ← Reading.spanned
    (shortString .basic <|> shortString .literal
      <|> (do return String.ofList (← Reading.takeWhile1 isBare)))
  return ⟨name, span⟩

/-- The least number of parts that a path of keys must not have. -/
def pathLimit : Nat := 80

/-- What is wrong with paths and values that go too deep. -/
def tooDeep : String :=
  "recursion limit exceeded"

/-- Keys joined by points, with blanks around each. -/
def keyPath : Reading (List Key) :=
  let part : Reading Key := do
    blanks
    let k ← key
    blanks
    return k
  ((Reading.separated part (Reading.char '.')).named "key").checked fun path =>
    if path.length < pathLimit then .ok path else .error tooDeep

end TileRealm.Toml
