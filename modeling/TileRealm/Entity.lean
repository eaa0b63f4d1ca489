import TileRealm.Handle
import TileRealm.Tile

/-!
# Entities

* `Entity`: what a scene keeps of a player, a monster or a thing.
* `Portrait`: what others are told when an entity comes into their view.
-/

set_option autoImplicit false

namespace TileRealm

/-- A player, a monster or a thing. -/
structure Entity where
  handle : Handle
  name : String
  pos : Tile
  /-- The speed in tiles per second, 0 for the default. -/
  speed : UInt32
  /-- The scene that the entity is in. -/
  scene : Option UInt32
deriving DecidableEq

/-- How an entity looks to others. -/
structure Portrait where
  handle : Handle
  kind : Kind
  name : String
  pos : Tile
  speed : UInt32
deriving DecidableEq

namespace Entity

/-- An entity outside of any scene. -/
def outside (handle : Handle) (name : String) (pos : Tile) (speed : UInt32) : Entity :=
  ⟨handle, name, pos, speed, none⟩

/-- How the entity looks to others. -/
def portrait (e : Entity) : Portrait :=
  ⟨e.handle, e.handle.kind, e.name, e.pos, e.speed⟩

end Entity

end TileRealm
