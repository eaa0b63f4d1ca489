import TileRealm.Text.Reading

/-!
# Lines

What stands between the parts of a document: blanks, comments and line ends.

* `lineEnd`: the rest of a line that holds nothing more.
* `filler`: blanks, line ends and comments between the items of an array.
-/

set_option autoImplicit false

namespace TileRealm.Toml

open Text

/-- Whether a character is a blank within a line. -/
def isBlank (c : Char) : Bool :=
  c = ' ' || c = '\t'

/-- Whether a character may stand in a comment: all but controls. -/
def isPlain (c : Char) : Bool :=
  c = '\t' || (decide (' ' ≤ c) && c != '\x7f')

/-- Skips blanks. -/
def blanks : Reading Unit := do
  let _ ← Reading.takeWhile isBlank

/-- A line feed, behind a carriage return or not.  The fault is behind what stands in its place. -/
def newline : Reading Unit := do
  let c ← Reading.next
  if c = '\r' then Reading.char '\n'
  else if c = '\n' then return
  else Reading.fail

/-- A comment up to the end of its line. -/
def comment : Reading Unit := do
  Reading.char '#'
  let _ ← Reading.takeWhile isPlain

/-- The end of a line or of the document. -/
def lineBreak : Reading Unit :=
  newline <|> Reading.atEnd

/-- The rest of a line that holds at most a comment. -/
def lineEnd : Reading Unit :=
  Reading.expecting ["newline", "`#`"] do
    blanks
    let _ ← Reading.optional comment
    lineBreak

/-- Blanks, line ends, and comments with their line ends. -/
def filler : Reading Unit := do
  blanks
  let _ ← Reading.many do
    let _ ← Reading.optional comment
    newline
    blanks
  match ← Reading.peek with
  | some '#' =>
    comment
    newline
  | some '\r' => newline
  | _ => return

end TileRealm.Toml
