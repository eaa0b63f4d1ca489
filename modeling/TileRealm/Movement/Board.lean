import TileRealm.Movement.Referee
import TileRealm.Terrain

/-!
# Boards

The least that an arena can be: terrain with the places and speeds of entities.  A board can be
told to refuse all moves.

* `Board`, `Board.Fault`: a board, and how it refuses.
-/

set_option autoImplicit false

namespace TileRealm

/-- How a board refuses moves. -/
inductive Board.Fault where
  | unknown
  | notWalkable
deriving DecidableEq

/-- Terrain with the places and speeds of entities. -/
structure Board where
  terrain : Terrain
  places : Roster Tile
  speeds : Roster UInt32
  /-- How all moves are refused, none if they are not. -/
  fault : Option Board.Fault
deriving DecidableEq

namespace Board

/-- A board without entities. -/
def bare (terrain : Terrain) : Board :=
  ⟨terrain, ∅, ∅, none⟩

/-- Moves an entity unless the board refuses. -/
def place (b : Board) (h : Handle) (pos : Tile) : Except Refusal Unit × Board :=
  match b.fault with
  | some .unknown => (.error (.unknown h), b)
  | some .notWalkable => (.error (.notWalkable pos), b)
  | none => (.ok (), { b with places := b.places.insert h pos })

instance : Arena Board where
  position b h := b.places[h]?
  speed b h := b.speeds[h]?
  walkable b pos := b.terrain.walkable pos
  place := place

end Board

end TileRealm
