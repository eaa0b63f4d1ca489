import Std.Data.ExtTreeMap

/-!
# Tiles

The world is a plane of square tiles with coordinates below `2 ^ 32`.

* `Tile`: a position, ordered by `x`, then by `y`.
* `Tile.distance`: the Euclidean distance of two tiles.
* `Heading`: the eight steps to a neighbour, in the order in which they are tried.
* `Tile.offset`, `Tile.shift`: the tile some steps away, if there is one.
-/

set_option autoImplicit false

namespace TileRealm

/-- A position on the plane of tiles. -/
structure Tile where
  x : UInt32
  y : UInt32
deriving DecidableEq

/-- A number as a coordinate, if it is one. -/
def coordinate? (n : Int) : Option UInt32 :=
  if 0 ≤ n ∧ n < UInt32.size then some (UInt32.ofNat n.toNat) else none

/-- The largest coordinate. -/
def maxCoordinate : Nat := UInt32.size - 1

/-- A number as a coordinate, or the largest coordinate if it is larger. -/
def saturate (n : Nat) : UInt32 :=
  UInt32.ofNat (min n maxCoordinate)

namespace Tile

instance : Ord Tile where
  compare := compareLex (compareOn Tile.x) (compareOn Tile.y)

instance : Std.TransOrd Tile :=
  inferInstanceAs (Std.TransCmp (compareLex (compareOn Tile.x) (compareOn Tile.y)))

instance : Std.LawfulEqOrd Tile where
  eq_of_compare {a b} h := by
    have h : (compare a.x b.x).then (compare a.y b.y) = .eq := h
    obtain ⟨hx, hy⟩ := Ordering.then_eq_eq.mp h
    have hx := Std.LawfulEqOrd.eq_of_compare hx
    have hy := Std.LawfulEqOrd.eq_of_compare hy
    cases a
    cases b
    simp_all

/-- The written form of a tile, `(x, y)`. -/
def text (t : Tile) : String :=
  "(" ++ toString t.x.toNat ++ ", " ++ toString t.y.toNat ++ ")"

/-! ## Differences and distances -/

/-- How far `b` lies from `a` to the right, negative to the left. -/
def dx (a b : Tile) : Int :=
  (b.x.toNat : Int) - a.x.toNat

/-- How far `b` lies below `a`, negative above. -/
def dy (a b : Tile) : Int :=
  (b.y.toNat : Int) - a.y.toNat

/-- The number of steps between two tiles when diagonal steps are allowed. -/
def steps (a b : Tile) : Nat :=
  max (a.dx b).natAbs (a.dy b).natAbs

/-- Whether one step leads from one tile to the other. -/
def adjacent (a b : Tile) : Bool :=
  decide (a.steps b = 1)

/-- The Euclidean length of a vector. -/
def length (dx dy : Float) : Float :=
  Float.sqrt (dx * dx + dy * dy)

/-- The Euclidean distance in tiles. -/
def distance (a b : Tile) : Float :=
  length (b.x.toFloat - a.x.toFloat) (b.y.toFloat - a.y.toFloat)

/-- The tile the given number of columns and rows away, if both coordinates exist. -/
def offset (t : Tile) (dx dy : Int) : Option Tile := do
  let x ← coordinate? (t.x.toNat + dx)
  let y ← coordinate? (t.y.toNat + dy)
  return ⟨x, y⟩

end Tile

/-! ## Headings -/

/-- A step to one of the eight neighbours. -/
structure Heading where
  dx : Int
  dy : Int
deriving DecidableEq

namespace Heading

/-- The eight headings: those along an axis first, then the diagonal ones. -/
def all : List Heading :=
  [⟨0, 1⟩, ⟨1, 0⟩, ⟨0, -1⟩, ⟨-1, 0⟩, ⟨1, 1⟩, ⟨1, -1⟩, ⟨-1, 1⟩, ⟨-1, -1⟩]

/-- Whether both coordinates change. -/
def isDiagonal (h : Heading) : Bool :=
  decide (h.dx ≠ 0 ∧ h.dy ≠ 0)

end Heading

/-- The neighbour in a heading, if it exists. -/
def Tile.shift (t : Tile) (h : Heading) : Option Tile :=
  t.offset h.dx h.dy

end TileRealm
