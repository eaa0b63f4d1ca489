import TileRealm.Tile
import TileRealm.Text.Quoted

/-!
# Terrain

Which tiles of a rectangle can be walked on.  The tiles are kept row by row, either one truth value
each or one bit each; both forms answer alike.  Outside the rectangle nothing can be walked on.

* `Terrain.walkableAt`, `Terrain.walkable`: the question everything else asks.
* `Terrain.set?`: one tile changed.
* `Terrain.WellFormed`: the store has just the size of the rectangle.
* `Terrain.open?`, `Terrain.ofBitmap`: terrain from its size alone, and from given bits.
-/

set_option autoImplicit false

namespace TileRealm

/-- Why no terrain could be made. -/
inductive TerrainError where
  /-- A side without length, or a map that does not have as many rows as it says. -/
  | dimensions (width height : UInt32)
  | rowLength (row got expected : Nat)
  | glyph (glyph : Char) (x y : Nat)
  | bitmapSize (got expected : Nat)

/-- The text that tells a reader what is wrong. -/
def TerrainError.message : TerrainError → String
  | .dimensions width height =>
    "map dimensions " ++ toString width.toNat ++ "x" ++ toString height.toNat ++ " are invalid"
  | .rowLength row got expected =>
    "map row " ++ toString row ++ " has length " ++ toString got ++ ", expected "
      ++ toString expected
  | .glyph c x y =>
    "unexpected map glyph " ++ Text.quoteChar c ++ " at (" ++ toString x ++ ", " ++ toString y
      ++ ")"
  | .bitmapSize got expected =>
    "bitmap has " ++ toString got ++ " words, expected " ++ toString expected

/-! ## Stores -/

/-- Truth values by index, in full or packed into 64-bit words from the lowest bit up. -/
inductive Store where
  | dense (cells : Array Bool)
  | bitmap (words : Array UInt64)
deriving DecidableEq

namespace Store

/-- The value at an index; nothing is stored beyond the end. -/
def read (s : Store) (i : Nat) : Bool :=
  match s with
  | dense cells => cells.getD i false
  | bitmap words => (words.getD (i / 64) 0).toNat.testBit (i % 64)

/-- A word with one bit changed. -/
def writeBit (word : UInt64) (bit : Nat) (value : Bool) : UInt64 :=
  let mask : UInt64 := 1 <<< UInt64.ofNat bit
  if value then word ||| mask else word &&& ~~~mask

/-- The store with the value at an index changed. -/
def write (s : Store) (i : Nat) (value : Bool) : Store :=
  match s with
  | dense cells => dense (cells.setIfInBounds i value)
  | bitmap words => bitmap (words.modify (i / 64) (writeBit · (i % 64) value))

/-- The number of words that hold so many bits. -/
def wordCount (bits : Nat) : Nat :=
  (bits + 63) / 64

/-- Whether the store has just the room for so many values. -/
def Fits (s : Store) (count : Nat) : Prop :=
  match s with
  | dense cells => cells.size = count
  | bitmap words => words.size = wordCount count

instance (s : Store) (count : Nat) : Decidable (s.Fits count) := by
  cases s <;> exact inferInstanceAs (Decidable (_ = _))

end Store

/-! ## Terrain -/

/-- A rectangle of tiles, row by row, each of which can be walked on or not. -/
structure Terrain where
  width : UInt32
  height : UInt32
  store : Store
deriving DecidableEq

namespace Terrain

/-- The number of tiles. -/
def area (t : Terrain) : Nat :=
  t.width.toNat * t.height.toNat

/-- A rectangle that is not empty, with a store of just its size. -/
structure WellFormed (t : Terrain) : Prop where
  width_pos : 0 < t.width
  height_pos : 0 < t.height
  fits : t.store.Fits t.area

/-- The middle tile, the right and lower one of two. -/
def centre (t : Terrain) : Tile :=
  ⟨t.width / 2, t.height / 2⟩

/-- Whether a position lies in the rectangle. -/
def inBounds (t : Terrain) (x y : Int) : Bool :=
  decide (0 ≤ x ∧ 0 ≤ y ∧ x < t.width.toNat ∧ y < t.height.toNat)

/-- Where the value of a position is stored, if it lies in the rectangle. -/
def index? (t : Terrain) (x y : Int) : Option Nat :=
  if t.inBounds x y then some (y.toNat * t.width.toNat + x.toNat) else none

/-- Whether a position can be walked on. -/
def walkableAt (t : Terrain) (x y : Int) : Bool :=
  match t.index? x y with
  | some i => t.store.read i
  | none => false

/-- Whether a tile can be walked on. -/
def walkable (t : Terrain) (p : Tile) : Bool :=
  t.walkableAt p.x.toNat p.y.toNat

/-- The terrain with the value at an index changed. -/
def write (t : Terrain) (i : Nat) (value : Bool) : Terrain :=
  { t with store := t.store.write i value }

/-- The terrain with one tile changed, unless the tile lies outside. -/
def set? (t : Terrain) (p : Tile) (value : Bool) : Option Terrain :=
  match t.index? p.x.toNat p.y.toNat with
  | some i => some (t.write i value)
  | none => none

/-- The terrain with one tile changed; a tile outside changes nothing. -/
def set (t : Terrain) (p : Tile) (value : Bool) : Terrain :=
  match t.index? p.x.toNat p.y.toNat with
  | some i => t.write i value
  | none => t

/-- Whether each position can be walked on, row by row. -/
def glyphRows (t : Terrain) : List (List Bool) :=
  (List.range t.height.toNat).map fun (y : Nat) =>
    (List.range t.width.toNat).map fun (x : Nat) => t.walkableAt x y

/-- The number of tiles that can be walked on. -/
def walkableCount (t : Terrain) : Nat :=
  match t.store with
  | .dense cells => cells.countP id
  | .bitmap _ => t.glyphRows.foldl (fun n row => n + row.countP id) 0

/-! ## Making terrain -/

/-- Refuses an empty rectangle. -/
def checkSize (width height : UInt32) : Except TerrainError Unit :=
  if width = 0 ∨ height = 0 then .error (.dimensions width height) else .ok ()

/-- A rectangle without obstacles. -/
def open? (width height : UInt32) : Except TerrainError Terrain := do
  checkSize width height
  return ⟨width, height, .dense (Array.replicate (width.toNat * height.toNat) true)⟩

/-- A rectangle with the given bits, of which there have to be just enough words. -/
def ofBitmap (width height : UInt32) (words : Array UInt64) : Except TerrainError Terrain := do
  checkSize width height
  let expected := Store.wordCount (width.toNat * height.toNat)
  if words.size = expected then return ⟨width, height, .bitmap words⟩
  else throw (.bitmapSize words.size expected)

end Terrain

end TileRealm
