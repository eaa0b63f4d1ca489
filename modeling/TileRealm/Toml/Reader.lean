import TileRealm.Toml.Complaint
import TileRealm.Toml.Moment
import TileRealm.Toml.Number
import TileRealm.Toml.Tree
import TileRealm.Toml.Written

/-!
# Reading documents

A document is read line by line: comments, values under keys, and headers that open tables.  Arrays
may go over several lines, inline tables may not.  The first line that is wrong is complained about,
either because it cannot be read or because it clashes with the lines before it.

* `valueWithin`: a value whose arrays and inline tables are nested only so deeply.
* `parse`: the table that a document holds, or what is wrong with it.
-/

set_option autoImplicit false

namespace TileRealm.Toml

open Text

/-! ## Values -/

/-- A word that stands for a value. -/
def word (letters : List Char) (v : Value) : Reading Value := do
  Reading.literal letters
  return v

/-- What starts like a word and is none is taken for a string without quotes. -/
def unquoted (r : Reading Value) : Reading Value :=
  (r.named "string").expecting ["`\"`", "`'`"]

/-- A path of keys, an equals sign and a value with the blanks before it, and what has to follow. -/
def pair (value : Reading Value) (behind : Reading Unit) : Reading Pair := do
  let place ← Reading.place
  let path ← keyPath
  Reading.final do
    (Reading.char '=').expecting ["`.`", "`=`"]
    blanks
    let (span, v) ← value.spanned
    behind
    return ⟨place, path, span, v⟩

/-- The items of an array, in which a comma may stand behind the last one. -/
def arrayItems (value : Reading Value) : Reading (List (Span × Value)) := do
  if (← Reading.peek) = some ']' then return []
  let item : Reading (Span × Value) := do
    filler
    let v ← value.spanned
    filler
    return v
  let items ← Reading.optional (Reading.separated item (Reading.char ','))
  if items.isSome then
    let _ ← Reading.optional (Reading.char ',')
  filler
  return items.getD []

/-- An array. -/
def arrayOf (value : Reading Value) : Reading Value := do
  Reading.char '['
  let items ← (arrayItems value).final
  ((Reading.char ']').named "array").expecting ["`]`"] |>.final
  return .array items

/-- The pairs of an inline table. -/
def inlinePairs (value : Reading Value) : Reading (List Pair) := do
  let pairs ← Reading.optional (Reading.separated (pair value blanks) (Reading.char ','))
  blanks
  return pairs.getD []

/-- An inline table. -/
def inlineTableOf (value : Reading Value) : Reading Value := do
  Reading.char '\x7b'
  let table ← (inlinePairs value).checkedFinally fun pairs =>
    match plantAll pairs [] with
    | .ok es => .ok (entriesToTable es)
    | .error (_, clash) => .error clash.inlineMessage
  ((Reading.char '\x7d').named "inline table").expecting ["`\x7d`"] |>.final
  return .table table

/-- A value, with the given way to read the values within another one.  The first character tells
which kind of value it is; what starts like none is taken for a string. -/
def valueBy (nested : (Reading Value → Reading Value) → Reading Value) : Reading Value := do
  match ← Reading.peek with
  | some '[' => nested arrayOf
  | some '\x7b' => nested inlineTableOf
  | some '"' | some '\x27' => return .string (← stringValue)
  | some '_' => integer.expecting ["leading digit"]
  | some '.' => float.expecting ["leading digit"]
  | some 't' => unquoted (word ['t', 'r', 'u', 'e'] (.boolean true)).final
  | some 'f' => unquoted (word ['f', 'a', 'l', 's', 'e'] (.boolean false)).final
  | some 'i' | some 'n' => unquoted wordFloat
  | some c =>
    if isDigitOf 10 c ∨ c = '+' ∨ c = '-' then moment <|> float <|> integer
    else unquoted Reading.fail
  | none => Reading.fail

/-- A value in which arrays and inline tables are nested at most as deeply as the number says. -/
def valueWithin : Nat → Reading Value
  | 0 => valueBy fun _ => (Reading.failFor tooDeep).final
  | depth + 1 => valueBy fun form => form (valueWithin depth)

/-- How deeply arrays and inline tables may be nested. -/
def maxDepth : Nat := 79

/-- A value. -/
def value : Reading Value :=
  valueWithin maxDepth

/-! ## Lines -/

/-- What a line says. -/
inductive Line where
  | nothing
  | pair (p : Pair)
  /-- A header, which adds a table to an array of tables or opens a table. -/
  | header (isItem : Bool) (path : List Key) (span : Span)

/-- A path of keys in brackets. -/
def bracketed (opening closing : List Char) : Reading (List Key) := do
  Reading.literal opening
  Reading.final do
    let path ← keyPath
    (Reading.literal closing).expecting ["`.`", "`" ++ String.ofList closing ++ "`"]
    return path

/-- The line of a header. -/
def headerLine : Reading Line :=
  Reading.named "table header" fun c =>
    let isItem := c.rest.take 2 = ['[', '[']
    let header : Reading Line := do
      let (span, path) ← Reading.spanned <|
        if isItem then bracketed ['[', '['] [']', ']'] else bracketed ['['] [']']
      lineEnd
      return .header isItem path span
    if c.rest.length < 2 then Reading.fail c else header c

/-- A line from its first character that is not blank. -/
def line : Reading Line := do
  match ← Reading.peek with
  | none => Reading.fail
  | some '#' =>
    Reading.final do
      comment
      lineBreak
    return .nothing
  | some '[' => headerLine.final
  | some '\n' | some '\r' =>
    newline <|> Reading.fail
    return .nothing
  | some _ => return .pair (← (pair value lineEnd).final)

/-- All lines that can be read, and what is wrong with the first that cannot; the bound is more than
their number. -/
def lines : Nat → Cursor → List Line × Option Fault
  | 0, _ => ([], none)
  | bound + 1, c =>
    match (do
      let l ← line
      blanks
      return l : Reading Line) c with
    | .ok (l, rest) =>
      let (ls, fault?) := lines bound rest
      (l :: ls, fault?)
    | .error fault => ([], if c.rest.isEmpty then none else some fault)

/-! ## Documents -/

/-- The pairs in front of the first header, and each header with the pairs behind it. -/
def sections : List Line → List Pair × List Section
  | [] => ([], [])
  | l :: rest =>
    let (pairs, more) := sections rest
    match l with
    | .nothing => (pairs, more)
    | .pair p => (p :: pairs, more)
    | .header isItem path span => ([], ⟨isItem, path, span, pairs⟩ :: more)

/-- The complaint about a pair behind a header. -/
def Pair.complaint (header : List Key) (p : Pair) (clash : Clash) : Complaint :=
  .ofFault { place := p.place, cause := some (clash.message header) }

/-- The complaint about a section. -/
def Section.complaint (s : Section) : Section.Clash → Complaint
  | (some p, clash) => p.complaint s.path clash
  | (none, clash) =>
    let clash : Toml.Clash := match clash with
      | .taken k => .taken { k with name := k.written }
      | clash => clash
    .ofFault { place := s.header.start, part := some "table header",
               cause := some (clash.message s.path.dropLast) }

/-- The entries that lines make. -/
def ofLines (lines : List Line) : Except Complaint Entries := do
  let (pairs, rest) := sections lines
  let es ← (plantAll pairs []).mapError fun (p, clash) => p.complaint [] clash
  rest.foldlM (fun es s => (addSection es s).mapError s.complaint) es

/-- The table that a document holds, or what is wrong with it; a byte order mark in front is
skipped. -/
def parse (text : String) : Except Complaint Table := do
  let cs := text.toList
  let start : Cursor := if cs.head? = some '\uFEFF' then ⟨1, cs.tail⟩ else ⟨0, cs⟩
  let start : Cursor := ⟨start.passed + (start.rest.takeWhile isBlank).length,
    start.rest.dropWhile isBlank⟩
  let (lines, fault?) := lines (cs.length + 1) start
  let es ← ofLines lines
  match fault? with
  | some fault => throw (.ofFault fault)
  | none => return entriesToTable es

end TileRealm.Toml
