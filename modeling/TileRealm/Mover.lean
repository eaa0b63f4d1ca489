import TileRealm.Least
import TileRealm.Route.Follower
import TileRealm.Scene

/-!
# Movers

A mover drives one entity for the server.  It patrols around its home, chases a player who comes
close, and goes home when it got too far or lost sight of the player.

* `Mover.tick`: at most one step.
* `Mover.modeBy`, `Mover.nextMode`: what it is up to, by any distance and by the Euclidean one.
* `Mover.target`: where it wants to go.
-/

set_option autoImplicit false

namespace TileRealm

/-- What a mover is up to. -/
inductive Mode where
  | patrol
  | chase (role : Handle)
  | goHome
deriving DecidableEq

/-- How movers behave. -/
structure MoverRules where
  /-- How far from home, along each axis, a mover patrols. -/
  patrolRadius : UInt32 := 5
  /-- How close a player has to be to be chased. -/
  detectRange : UInt32 := 8
  /-- How far from home a mover gives up. -/
  resetDistance : UInt32 := 20
  /-- How far a target may drift before the route is planned anew. -/
  replanThreshold : UInt32 := 2
  patrolAlgorithm : Algorithm := .straight
  chaseAlgorithm : Algorithm := .bestFirst
  homeAlgorithm : Algorithm := .bestFirst
deriving DecidableEq

/-- How routes are looked for in a mode. -/
def MoverRules.algorithm (rules : MoverRules) : Mode → Algorithm
  | .patrol => rules.patrolAlgorithm
  | .chase _ => rules.chaseAlgorithm
  | .goHome => rules.homeAlgorithm

/-- One who drives an entity. -/
structure Mover where
  handle : Handle
  home : Tile
  mode : Mode
  rules : MoverRules
  follower : Follower
  /-- Where the patrol goes. -/
  patrolTarget : Option Tile
  /-- The time of the last step. -/
  lastStep : Option Nat
deriving DecidableEq

namespace Mover

/-- A mover that sets out on patrol. -/
def create (handle : Handle) (home : Tile) (rules : MoverRules) : Mover :=
  ⟨handle, home, .patrol, rules, .fresh rules.replanThreshold, none, none⟩

/-! ## Pace -/

/-- The least time between two steps: the whole milliseconds that a tile takes. -/
def interval (speed : UInt32) : Nat :=
  1000 / (max speed 1).toNat * 1000000

/-- Whether enough time has passed since the last step. -/
def isDue (m : Mover) (speed : UInt32) (now : Nat) : Bool :=
  match m.lastStep with
  | some last => decide (interval speed ≤ now - last)
  | none => true

/-! ## Modes -/

section

variable (distance : Tile → Tile → Float)

/-- The players in view that are close enough, with their distances. -/
def rolesInRange (m : Mover) (s : Scene) (pos : Tile) : List (Float × Handle) :=
  (((s.visibility.visible m.handle).getD ∅).toList.filter (·.isRole)).filterMap fun h =>
    ((s.entity? h).map fun e => (distance pos e.pos, h)).filter fun (away, _) =>
      decide (away ≤ m.rules.detectRange.toFloat)

/-- The closest player in view, if one is close enough; of several the lowest handle. -/
def nearestRole (m : Mover) (s : Scene) (pos : Tile) : Option Handle :=
  (leastBy (·.1) (m.rolesInRange distance s pos)).map (·.2)

/-- What the mover is up to at a place, by some distance. -/
def modeBy (m : Mover) (s : Scene) (pos : Tile) : Mode :=
  if m.rules.resetDistance.toFloat < distance pos m.home then .goHome
  else
    match m.mode with
    | .goHome => if pos = m.home then .patrol else .goHome
    | mode =>
      match m.nearestRole distance s pos with
      | some role => .chase role
      | none => if mode = .patrol then .patrol else .goHome

end

/-- What the mover is up to at a place. -/
def nextMode (m : Mover) (s : Scene) (pos : Tile) : Mode :=
  m.modeBy Tile.distance s pos

/-- Forgets route and patrol target when the mode changes. -/
def enter (m : Mover) (mode : Mode) : Mover :=
  if m.mode = mode then m
  else { m with mode := mode, follower := m.follower.clear, patrolTarget := none }

/-! ## Targets -/

/-- Where a mover patrols.  The largest radius has no successor among machine numbers. -/
def patrolArea (m : Mover) : Area :=
  let r := m.rules.patrolRadius
  ⟨m.home.x - min m.home.x r, m.home.y - min m.home.y r,
    saturate (m.home.x.toNat + (r + 1).toNat), saturate (m.home.y.toNat + (r + 1).toNat)⟩

/-- Where a patrol goes: on to its target, or to a new one if there is none or it is reached. -/
def patrolTo (m : Mover) (s : Scene) (pos : Tile) : Tile × Mover × Scene :=
  match m.patrolTarget.filter (· ≠ pos) with
  | some target => (target, m, s)
  | none =>
    let (target, s) := s.sample (some m.patrolArea)
    (target, { m with patrolTarget := some target }, s)

/-- Where the mover wants to go. -/
def target (m : Mover) (s : Scene) (pos : Tile) : Option Tile × Mover × Scene :=
  match m.mode with
  | .chase role => ((s.entity? role).map (·.pos), m, s)
  | .goHome => (some m.home, m, s)
  | .patrol =>
    let (target, m, s) := m.patrolTo s pos
    (some target, m, s)

/-! ## Steps -/

/-- Makes the step that the follower proposes. -/
def walk (m : Mover) (s : Scene) (now : Nat) (speed : UInt32) (next : Tile) :
    Option Tile × Mover × Scene :=
  match s.step m.handle next speed with
  | (.ok (), s) => (some next, { m with lastStep := some now }, s)
  | (.error _, s) => (none, { m with follower := m.follower.clear }, s)

/-- Takes a step towards the target; a patrol that gets nowhere looks for another target. -/
def pursue (m : Mover) (s : Scene) (now : Nat) (speed : UInt32) (pos target : Tile) :
    Option Tile × Mover × Scene :=
  let (next, follower) :=
    m.follower.next s.terrain.walkable s.limits (m.rules.algorithm m.mode) pos target
  let m := { m with follower := follower }
  match next with
  | some next => m.walk s now speed next
  | none =>
    if m.mode = .patrol then
      (none, { m with patrolTarget := none, follower := m.follower.clear }, s)
    else (none, m, s)

/-- Decides what to do and does it. -/
def act (m : Mover) (s : Scene) (now : Nat) (speed : UInt32) (pos : Tile) :
    Option Tile × Mover × Scene :=
  let m := m.enter (m.nextMode s pos)
  match m.target s pos with
  | (some target, m, s) => m.pursue s now speed pos target
  | (none, m, s) => (none, m, s)

/-- Acts if the entity is in the scene and its next step is due. -/
def tick (m : Mover) (s : Scene) (now : Nat) : Option Tile × Mover × Scene :=
  match s.entity? m.handle with
  | none => (none, m, s)
  | some e =>
    let speed := s.referee.rules.cap e.speed
    if m.isDue speed now then m.act s now speed e.pos else (none, m, s)

end Mover

end TileRealm
