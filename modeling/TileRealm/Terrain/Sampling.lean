import TileRealm.Terrain
import TileRealm.Random

/-!
# Random tiles

Tiles drawn at random, the column before the row: to strew obstacles over a terrain, and to find a
tile to stand on.

* `Terrain.generate`: a terrain with a share of its tiles drawn as obstacles.
* `Terrain.sample`: the first walkable tile among a number of draws, or the centre.
-/

set_option autoImplicit false

namespace TileRealm

open TileRealm.Random (Stream)

/-- A rectangle of tiles from `(x1, y1)` up to, but not including, column `x2` and row `y2`. -/
structure Area where
  x1 : UInt32
  y1 : UInt32
  x2 : UInt32
  y2 : UInt32
deriving DecidableEq

namespace Area

/-- Whether the rectangle has a tile. -/
def isValid (a : Area) : Bool :=
  decide (a.x1 < a.x2 ∧ a.y1 < a.y2)

/-- A tile of the rectangle. -/
def draw (a : Area) (s : Stream) : Tile × Stream :=
  let (x, s) := s.between a.x1 a.x2
  let (y, s) := s.between a.y1 a.y2
  (⟨x, y⟩, s)

end Area

namespace Terrain

/-! ## Obstacles -/

/-- The share of obstacles if none is set. -/
def defaultObstacleRatio : Float := 0.05

/-- A share of obstacles between none and all; what is no number stays as it is. -/
def clampRatio (ratio : Float) : Float :=
  if ratio < 0 then 0 else if 1 < ratio then 1 else ratio

/-- How many obstacles are drawn for a share of the tiles, rounded down. -/
def obstacleCount (width height : UInt32) (ratio : Float) : Nat :=
  (width.toFloat * height.toFloat * clampRatio ratio).toUInt64.toNat

/-- The whole terrain as an area. -/
def bounds (t : Terrain) : Area :=
  ⟨0, 0, t.width, t.height⟩

/-- Blocks as many drawn tiles as asked; a tile may be drawn twice. -/
def strew : Nat → Terrain → Stream → Terrain × Stream
  | 0, t, s => (t, s)
  | count + 1, t, s =>
    let (p, s) := t.bounds.draw s
    strew count (t.set p false) s

/-- A terrain with obstacles drawn at random. -/
def generate (width height : UInt32) (ratio : Float) (s : Stream) :
    Except TerrainError (Terrain × Stream) := do
  let t ← open? width height
  return strew (obstacleCount width height ratio) t s

/-! ## Places to stand -/

/-- The part of a span that lies below `size`; its last line if all of it lies beyond. -/
def clip (size lo hi : UInt32) : UInt32 × UInt32 :=
  let lo := min lo (size - 1)
  (lo, max (min hi size) (lo + 1))

/-- Where tiles are drawn: a valid area brought into the terrain, or else the whole terrain. -/
def samplingArea (t : Terrain) : Option Area → Area
  | some a =>
    if a.isValid then
      let (x1, x2) := clip t.width a.x1 a.x2
      let (y1, y2) := clip t.height a.y1 a.y2
      ⟨x1, y1, x2, y2⟩
    else t.bounds
  | none => t.bounds

/-- Draws from an area until a tile can be walked on, at most as often as `attempts` says. -/
def sampleIn (t : Terrain) (a : Area) : Nat → Stream → Tile × Stream
  | 0, s => (t.centre, s)
  | attempts + 1, s =>
    let (p, s) := a.draw s
    if t.walkable p then (p, s) else sampleIn t a attempts s

/-- A walkable tile of an area, or the centre once the attempts are spent. -/
def sample (t : Terrain) (area : Option Area) (attempts : Nat) (s : Stream) : Tile × Stream :=
  t.sampleIn (t.samplingArea area) attempts s

end Terrain

end TileRealm
