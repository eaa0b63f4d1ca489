import TileRealm.Terrain

/-!
# Maps as text

A map is a list of rows of equal length, `.` for a tile that can be walked on and `#` for one that
cannot.

* `Terrain.ofRows`: reads a map; the first defect in reading order is the error, and the length of a
  row is checked before its characters.
* `Terrain.rows`: writes a map.
* `MapData`, `Terrain.ofMapData`: a map together with the size that it has to have.
-/

set_option autoImplicit false

namespace TileRealm

namespace Terrain

/-- What a character of a map says about its tile. -/
def ofGlyph? (c : Char) : Option Bool :=
  if c = '.' then some true
  else if c = '#' then some false
  else none

/-- The character for a tile. -/
def glyph (walkable : Bool) : Char :=
  if walkable then '.' else '#'

/-- Reads the characters of a row from column `x` on. -/
def readGlyphs (y : Nat) : Nat → List Char → Except TerrainError (List Bool)
  | _, [] => .ok []
  | x, c :: cs =>
    match ofGlyph? c with
    | none => .error (.glyph c x y)
    | some cell => (readGlyphs y (x + 1) cs).map (cell :: ·)

/-- Reads the rows from row `y` on, each of the given length. -/
def readRows (width : Nat) : Nat → List (List Char) → Except TerrainError (List Bool)
  | _, [] => .ok []
  | y, row :: rows =>
    if row.length = width then do
      let cells ← readGlyphs y 0 row
      let more ← readRows width (y + 1) rows
      return cells ++ more
    else .error (.rowLength y row.length width)

/-- Reads a map; its first row sets the width. -/
def ofRows (rows : List String) : Except TerrainError Terrain := do
  let rows := rows.map String.toList
  let width := (rows.head?.getD []).length
  checkSize (UInt32.ofNat width) (UInt32.ofNat rows.length)
  let cells ← readRows width 0 rows
  return ⟨UInt32.ofNat width, UInt32.ofNat rows.length, .dense cells.toArray⟩

/-- The rows of the map of a terrain. -/
def rows (t : Terrain) : List String :=
  t.glyphRows.map fun row => String.ofList (row.map glyph)

end Terrain

/-- A map with its declared size. -/
structure MapData where
  width : UInt32
  height : UInt32
  rows : List String
deriving DecidableEq

/-- Reads a map that has to have its declared size; the number of rows is checked first. -/
def Terrain.ofMapData (data : MapData) : Except TerrainError Terrain := do
  if data.rows.length ≠ data.height.toNat then
    throw (.dimensions data.width data.height)
  let terrain ← Terrain.ofRows data.rows
  if terrain.width ≠ data.width then
    throw (.rowLength 0 terrain.width.toNat data.width.toNat)
  return terrain

end TileRealm
