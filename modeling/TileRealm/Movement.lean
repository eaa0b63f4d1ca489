import TileRealm.Decimal.Fixed
import TileRealm.Handle
import TileRealm.Tile

/-!
# Movement reports

Clients move their entities by themselves and report it.  A movement has a start, updates and an
end, each with a number that has to grow.  Times are whole nanoseconds after one fixed moment.

* `Report`, `Acceptance`: what a client says, and what was done.
* `Refusal`: why a report is not accepted.
* `MoveRules`: how far an entity may get; `MoveRules.budget` for a time, `MoveRules.leap` at the
  end.
-/

set_option autoImplicit false

namespace TileRealm

/-! ## Reports -/

/-- What a client says about the movement of an entity. -/
inductive Report where
  | start (seq : UInt32) (origin target : Tile) (speed : UInt32)
  | update (seq : UInt32) (target : Tile) (speed : UInt32)
  | finish (seq : UInt32) (target : Tile)
deriving DecidableEq

namespace Report

/-- The number of a report. -/
def seq : Report → UInt32
  | start seq _ _ _ => seq
  | update seq _ _ => seq
  | finish seq _ => seq

/-- Where the entity is said to be. -/
def target : Report → Tile
  | start _ _ target _ => target
  | update _ target _ => target
  | finish _ target => target

/-- The speed that is claimed, 0 at the end of a movement. -/
def speed : Report → UInt32
  | start _ _ _ speed => speed
  | update _ _ speed => speed
  | finish _ _ => 0

/-- Whether the report ends a movement. -/
def isFinish : Report → Bool
  | finish _ _ => true
  | _ => false

end Report

/-- What was done after a report was accepted. -/
structure Acceptance where
  pos : Tile
  seq : UInt32
  speed : UInt32
deriving DecidableEq

/-- What accepting a report does. -/
def Report.acceptance (r : Report) : Acceptance :=
  ⟨r.target, r.seq, r.speed⟩

/-! ## Refusals -/

/-- Why a report is not accepted. -/
inductive Refusal where
  | sequence (seq last : UInt32)
  | speed (claimed cap : UInt32)
  /-- The client starts too far from where the entity is. -/
  | desync (distance : Float)
  | notWalkable (target : Tile)
  | tooFast (distance budget : Float)
  /-- An update without a start. -/
  | notMoving
  | teleport (distance limit : Float)
  | unknown (entity : Handle)

/-- The text that tells a reader why. -/
def Refusal.message : Refusal → String
  | sequence seq last =>
    "seq invalid: got " ++ toString seq.toNat ++ ", last accepted " ++ toString last.toNat
  | speed claimed cap =>
    "speed invalid: claimed " ++ toString claimed.toNat ++ ", cap " ++ toString cap.toNat
  | desync distance =>
    "position desync: client origin is " ++ Decimal.fixed 1 distance
      ++ " tiles from server position"
  | notWalkable target => "target " ++ target.text ++ " is not walkable"
  | tooFast distance budget =>
    "movement too fast: " ++ Decimal.fixed 1 distance ++ " tiles exceeds budget "
      ++ Decimal.fixed 1 budget
  | notMoving => "not moving"
  | teleport distance limit =>
    "teleport detected: " ++ Decimal.fixed 1 distance ++ " tiles exceeds "
      ++ Decimal.fixed 1 limit
  | unknown entity => "entity not found: " ++ entity.text

/-! ## Rules -/

/-- How far entities may get. -/
structure MoveRules where
  /-- How many tiles the client's start may be off. -/
  positionTolerance : UInt32 := 30
  /-- How many tiles are added to every budget. -/
  distanceTolerance : UInt32 := 50
  /-- The least time that counts between two reports. -/
  minInterval : Nat := 50000000
  /-- The time that counts for the first leg of a movement. -/
  startGrace : Nat := 1000000000
  /-- The speed limit in tiles per second of an entity without one of its own. -/
  defaultSpeedCap : UInt32 := 20
deriving DecidableEq

namespace MoveRules

/-- The speed limit of an entity: its own speed, or the default if that is 0. -/
def cap (rules : MoveRules) (speed : UInt32) : UInt32 :=
  if speed = 0 then rules.defaultSpeedCap else speed

/-- How many tiles may be made in a time, of which whole milliseconds count. -/
def budget (rules : MoveRules) (cap : UInt32) (elapsed : Nat) : Float :=
  cap.toFloat * Float.ofNat (elapsed / 1000000) / 1000 + rules.distanceTolerance.toFloat

/-- How many tiles the end of a movement may be off. -/
def leap (rules : MoveRules) : Float :=
  2 * rules.distanceTolerance.toFloat

end MoveRules

end TileRealm
