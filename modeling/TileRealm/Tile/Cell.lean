import TileRealm.Tile

/-!
# Cells

Square groups of tiles that tell which entities are near each other.

* `Tile.cell`: the cell of a tile; a size of 0 counts as 1.
* `Cell.block`: a cell with the cells around it, in ascending order.
-/

set_option autoImplicit false

namespace TileRealm

/-- A cell, ordered by `x`, then by `y`. -/
structure Cell where
  x : UInt32
  y : UInt32
deriving DecidableEq

/-- The edge of a cell in tiles if none is set. -/
def defaultCellSize : UInt32 := 100

/-- The cell that a tile lies in. -/
def Tile.cell (size : UInt32) (t : Tile) : Cell :=
  ⟨t.x / max size 1, t.y / max size 1⟩

namespace Cell

instance : Ord Cell where
  compare := compareLex (compareOn Cell.x) (compareOn Cell.y)

instance : Std.TransOrd Cell :=
  inferInstanceAs (Std.TransCmp (compareLex (compareOn Cell.x) (compareOn Cell.y)))

instance : Std.LawfulEqOrd Cell where
  eq_of_compare {a b} h := by
    have h : (compare a.x b.x).then (compare a.y b.y) = .eq := h
    obtain ⟨hx, hy⟩ := Ordering.then_eq_eq.mp h
    have hx := Std.LawfulEqOrd.eq_of_compare hx
    have hy := Std.LawfulEqOrd.eq_of_compare hy
    cases a
    cases b
    simp_all

/-- The cell a number of columns and rows away, if both coordinates exist. -/
def offset (c : Cell) (dx dy : Int) : Option Cell := do
  let x ← coordinate? (c.x.toNat + dx)
  let y ← coordinate? (c.y.toNat + dy)
  return ⟨x, y⟩

/-- The distance of two cells when diagonal steps are allowed. -/
def steps (a b : Cell) : Nat :=
  max ((b.x.toNat : Int) - a.x.toNat).natAbs ((b.y.toNat : Int) - a.y.toNat).natAbs

/-- The cell itself and the up to eight cells around it. -/
def block (c : Cell) : List Cell :=
  [-1, 0, 1].flatMap fun dx => [-1, 0, 1].filterMap fun dy => c.offset dx dy

end Cell

end TileRealm
