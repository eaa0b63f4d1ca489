import TileRealm.Text.Reading

/-!
# Configuration values

The values that a TOML document holds, with the parts of the document where they stand.

* `Toml.Value`: a value; a table keeps its entries in the order in which they were written.
-/

set_option autoImplicit false

namespace TileRealm.Toml

open Text

/-- A key and where it stands. -/
structure Key where
  name : String
  span : Span
deriving Inhabited

/-- A value of a configuration document. -/
inductive Value where
  | string (s : String)
  | integer (n : Int)
  /-- A double by its bits, which tell even the sign of what is no number. -/
  | float (bits : UInt64)
  | boolean (b : Bool)
  /-- A date, a time or both, as written. -/
  | datetime (text : String)
  | array (items : List (Span × Value))
  /-- An array of tables, which headers make. -/
  | tables (items : List (Span × Value))
  /-- A table; the tables that only the path of a key or of a header makes stand nowhere. -/
  | table (entries : List (Key × Option Span × Value))
deriving Inhabited

/-- The entries of a table. -/
abbrev Table : Type :=
  List (Key × Option Span × Value)

/-- The kind of a value that stands behind a key. -/
def Value.kind : Value → String
  | string _ => "string"
  | integer _ => "integer"
  | float _ => "float"
  | boolean _ => "boolean"
  | datetime _ => "datetime"
  | array _ => "array"
  | tables _ => "array of tables"
  | table _ => "inline table"

end TileRealm.Toml
