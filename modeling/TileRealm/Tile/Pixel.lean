import TileRealm.Tile

/-!
# Pixels

Clients count in pixels.  A tile becomes the pixel at its centre, and a pixel the tile it lies in.

* `Scale.toPixel`: saturates at the largest coordinate.
* `Scale.toTile`: undoes `toPixel` below `Scale.lastExact`.
-/

set_option autoImplicit false

namespace TileRealm

/-- A position in pixels. -/
structure Pixel where
  x : UInt32
  y : UInt32
deriving DecidableEq

/-- How many pixels the edge of a tile has. -/
structure Scale where
  tileSize : UInt32 := 32
deriving DecidableEq

namespace Scale

/-- The edge of a tile; a size of 0 counts as 1. -/
def edge (s : Scale) : Nat :=
  max s.tileSize.toNat 1

/-- The pixel in the middle of the tiles with this coordinate. -/
def centre (s : Scale) (n : UInt32) : UInt32 :=
  saturate (min (n.toNat * s.edge) maxCoordinate + s.edge / 2)

/-- The pixel at the centre of a tile. -/
def toPixel (s : Scale) (t : Tile) : Pixel :=
  ⟨s.centre t.x, s.centre t.y⟩

/-- The tile that a pixel lies in. -/
def toTile (s : Scale) (p : Pixel) : Tile :=
  ⟨UInt32.ofNat (p.x.toNat / s.edge), UInt32.ofNat (p.y.toNat / s.edge)⟩

/-- The largest tile coordinate whose first pixel exists. -/
def lastExact (s : Scale) : Nat :=
  maxCoordinate / s.edge

end Scale

end TileRealm
