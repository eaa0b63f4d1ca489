import TileRealm.Text.Reading

/-!
# Complaints about documents

A complaint says what is wrong with a document and shows the line where it is wrong, with marks under
the wrong part.

* `Complaint.report`: the text that a user sees.
-/

set_option autoImplicit false

namespace TileRealm.Toml

open Text

/-- What is wrong with a document, and where, unless it is wrong as a whole. -/
structure Complaint where
  span : Option Span
  message : String
deriving DecidableEq

namespace Complaint

/-- The complaint about text that cannot be read, which shows one character. -/
def ofFault (f : Fault) : Complaint :=
  ⟨some ⟨f.place, f.place + 1⟩, f.message⟩

/-- The complaint with a part of the document to show, if it has none yet. -/
def within (span : Option Span) (c : Complaint) : Complaint :=
  { c with span := c.span <|> span }

/-- How many bytes characters take. -/
def size (cs : List Char) : Nat :=
  cs.foldl (fun n c => n + c.utf8Size) 0

/-- A place in a document: its line, counted from 0, how far it is behind the start of the line, and
the whole line.  Behind the last character, a place belongs to the line of that character.  How far it
is counts characters, but bytes if a character of several bytes stands there. -/
structure Position where
  line : Nat
  column : Nat
  content : List Char

/-- The position behind so many characters of a document. -/
def position (document : List Char) (place : Nat) : Position :=
  let read := min place (document.length - 1)
  let before := document.take read
  let lead := (before.reverse.takeWhile (· != '\n')).reverse
  let column :=
    match document[place]? with
    | some c => if c.utf8Size = 1 then lead.length else size lead
    | none => if document.isEmpty then 0 else lead.length + 1
  ⟨before.count '\n', column, lead ++ (document.drop read).takeWhile (· != '\n')⟩

/-- The line where a part of a document starts, behind its number, with marks under the part as far
as it is on this line. -/
def excerpt (document : List Char) (span : Span) : List String :=
  let p := position document span.start
  let number := toString (p.line + 1)
  let margin := String.ofList (List.replicate (number.length + 1) ' ') ++ "|"
  let marked := min (size ((document.take span.stop).drop span.start)) (size p.content - p.column)
  ["TOML parse error at line " ++ number ++ ", column " ++ toString (p.column + 1),
    margin,
    number ++ " | " ++ String.ofList p.content,
    margin ++ String.ofList (List.replicate (p.column + 1) ' ' ++ List.replicate (max 1 marked) '^')]

/-- All that a user sees of a complaint, line by line. -/
def report (document : String) (c : Complaint) : String :=
  let shown := match c.span with
    | some span => excerpt document.toList span
    | none => []
  String.join ((shown ++ [c.message]).map (· ++ "\n"))

end Complaint

end TileRealm.Toml
