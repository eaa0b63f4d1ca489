import TileRealm.Entity
import TileRealm.Movement.Referee
import TileRealm.Terrain
import TileRealm.Visibility

/-!
# Stages

The part of a scene that movements change: the entities on their terrain, and who sees whom.

* `Stage.move`: the only way in which an entity gets from tile to tile.
* `SceneError`: why an operation on a scene fails.
-/

set_option autoImplicit false

namespace TileRealm

/-- Why an operation on a scene fails. -/
inductive SceneError where
  | unknown (h : Handle)
  | alreadyThere (h : Handle)
  | notWalkable (pos : Tile)
deriving DecidableEq

/-- The text that tells a reader why. -/
def SceneError.message : SceneError → String
  | unknown h => "entity not found: " ++ h.text
  | alreadyThere h => "entity already in scene: " ++ h.text
  | notWalkable pos => "tile " ++ pos.text ++ " is not walkable"

/-- The entities of a scene on their terrain. -/
structure Stage where
  /-- The number of the scene. -/
  id : UInt32
  terrain : Terrain
  visibility : Visibility
  entities : Roster Entity
deriving DecidableEq

namespace Stage

/-- Moves an entity to a tile that can be walked on, and tells where it was. -/
def move (s : Stage) (h : Handle) (pos : Tile) : Except SceneError Tile × Stage :=
  if !s.terrain.walkable pos then (.error (.notWalkable pos), s)
  else
    match s.entities[h]? with
    | none => (.error (.unknown h), s)
    | some e => (.ok e.pos, { s with
        entities := s.entities.insert h { e with pos := pos }
        visibility := s.visibility.move h pos })

/-- Moves an entity for the referee. -/
def place (s : Stage) (h : Handle) (pos : Tile) : Except Refusal Unit × Stage :=
  match s.move h pos with
  | (.ok _, s) => (.ok (), s)
  | (.error (.notWalkable pos), s) => (.error (.notWalkable pos), s)
  | (.error _, s) => (.error (.unknown h), s)

instance : Arena Stage where
  position s h := s.entities[h]?.map (·.pos)
  speed s h := s.entities[h]?.map (·.speed)
  walkable s pos := s.terrain.walkable pos
  place := place

/-- Puts an entity on the stage, which takes note of it. -/
def enter (s : Stage) (e : Entity) : Except SceneError Unit × Stage :=
  if s.entities.contains e.handle then (.error (.alreadyThere e.handle), s)
  else (.ok (), { s with
    entities := s.entities.insert e.handle { e with scene := some s.id }
    visibility := s.visibility.add e.handle e.pos })

/-- Takes an entity off the stage; all that it saw lose sight of it. -/
def leave (s : Stage) (h : Handle) : Except SceneError Entity × Stage :=
  match s.entities[h]? with
  | none => (.error (.unknown h), s)
  | some e => (.ok { e with scene := none }, { s with
      entities := s.entities.erase h
      visibility := (s.visibility.removeAndRefresh h).2 })

end Stage

end TileRealm
