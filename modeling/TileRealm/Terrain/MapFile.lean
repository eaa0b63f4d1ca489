import TileRealm.Json.Reader
import TileRealm.Terrain.MapText
import TileRealm.Text.Digit

/-!
# Map files

A map file is a JSON text: an object with the fields `width`, `height` and `rows`, or an array of
these three in this order.  Other fields are skipped; a field given twice, a missing one or one of
the wrong type is an error, and so is anything after the value.

* `MapData.parse?`: the map that a text holds.
* `MapFault.ofText`: why a text holds none.
-/

set_option autoImplicit false

namespace TileRealm

namespace MapData

open Text

/-- The names of the fields. -/
def fieldNames : List String :=
  ["width", "height", "rows"]

/-- The value of a field that is there just once. -/
def only? (name : String) (fields : List (String × Option Json)) : Option Json :=
  match fields.filter (·.1 = name) with
  | [(_, value)] => value
  | _ => none

/-- A map from the values of its three fields. -/
def ofParts? (width height rows : Json) : Option MapData := do
  return ⟨← width.coordinate?, ← height.coordinate?, ← rows.strings?⟩

/-- A field of the object: of a known name the value is kept, of any other it is skipped. -/
def field (name : String) : Scan (Option Json) := do
  if name ∈ fieldNames then return some (← Json.value false)
  else
    let _ ← Json.value true
    return none

/-- The object form. -/
def objectForm : Scan (Option MapData) := fun cs =>
  (Json.members false field (cs.length + 1) cs).map fun (fields, rest) =>
    (do ofParts? (← only? "width" fields) (← only? "height" fields) (← only? "rows" fields), rest)

/-- The array form. -/
def arrayForm : Scan (Option MapData) := fun cs =>
  (Json.elements (Json.value false) (cs.length + 1) cs).map fun (items, rest) =>
    match items with
    | [width, height, rows] => (ofParts? width height rows, rest)
    | _ => (none, rest)

/-- The map that a whole text holds. -/
def parse? (text : String) : Option MapData :=
  (Scan.whole (do
    Json.blanks
    let data ← objectForm <|> arrayForm
    Json.blanks
    return data) text.toList).join

end MapData

/-! ## Faults -/

/-- Why a text holds no map. -/
inductive MapFault where
  /-- Nothing but blanks up to this line and column. -/
  | empty (line column : Nat)
  /-- What starts at this line and column is no value. -/
  | noValue (line column : Nat)
  /-- There is a value, but not the whole text is the value of a map. -/
  | form
deriving DecidableEq

namespace MapFault

/-- The text that tells a reader why. -/
def message : MapFault → String
  | empty line column => "map data error: EOF while parsing a value" ++ position line column
  | noValue line column => "map data error: expected value" ++ position line column
  | form => "map data error"
where
  /-- A line and a column as a reader sees them. -/
  position (line column : Nat) : String :=
    " at line " ++ toString line ++ " column " ++ toString column

/-- Whether a value can start with a character. -/
def startsValue (c : Char) : Bool :=
  Text.isDigitOf 10 c || ['\x7b', '[', '"', '-', 't', 'f', 'n'].contains c

/-- Why a text that holds no map holds none.  Columns count from 1, and the end of the text is in the
column of what is in front of it. -/
def ofText (text : String) : MapFault :=
  let blanks := text.toList.takeWhile Json.isBlank
  let line := blanks.count '\n' + 1
  let column := (blanks.reverse.takeWhile (· != '\n')).length
  match text.toList.drop blanks.length with
  | [] => empty line column
  | c :: _ => if startsValue c then form else noValue line (column + 1)

end MapFault

end TileRealm
