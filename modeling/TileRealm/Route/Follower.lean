import TileRealm.Route.Planner

/-!
# Followers

A follower walks to a target one tile per call.  It keeps the route it planned and plans anew when
the target has drifted from the planned goal, or when the next tile of the route is no neighbour
any more.  Where no route was found it steps straight at the target instead.

* `Follower.next`: the next tile, if there is one.
-/

set_option autoImplicit false

namespace TileRealm

/-- One who walks to a target. -/
structure Follower where
  /-- How far the target may drift from the goal of the plan. -/
  threshold : UInt32
  /-- The goal of the last plan. -/
  goal : Option Tile
  /-- The goal of the last plan that found nothing. -/
  unreachable : Option Tile
  /-- The tiles of the route that are still ahead. -/
  ahead : List Tile
  /-- How many plans were made. -/
  plans : UInt64
deriving DecidableEq

namespace Follower

/-- A follower without a route. -/
def fresh (threshold : UInt32) : Follower :=
  ⟨threshold, none, none, [], 0⟩

/-- Forgets the route; the count of the plans stays. -/
def clear (f : Follower) : Follower :=
  { f with goal := none, unreachable := none, ahead := [] }

/-- Whether a target lies close enough to a former one. -/
def near (f : Follower) (former target : Tile) : Bool :=
  decide (former.distance target ≤ f.threshold.toFloat)

/-- The tile one step straight at the target: across, or else along an axis. -/
def directStep (walk : Tile → Bool) (current target : Tile) : Option Tile :=
  let dx := (current.dx target).sign
  let dy := (current.dy target).sign
  let headings : List Heading := [⟨dx, dy⟩, ⟨dx, 0⟩, ⟨0, dy⟩]
  (headings.filter (· ≠ ⟨0, 0⟩)).filterMap current.shift |>.find? walk

/-- Whether the target has left the goal of the plan. -/
def drifted (f : Follower) (target : Tile) : Bool :=
  match f.goal with
  | some goal => decide (f.threshold.toFloat < goal.distance target)
  | none => true

/-- Whether the route has no tile ahead that is a neighbour. -/
def detached (f : Follower) (current : Tile) : Bool :=
  match f.ahead with
  | next :: _ => !current.adjacent next
  | [] => true

/-- Takes the next tile of the route. -/
def advance (f : Follower) : Option Tile × Follower :=
  (f.ahead.head?, { f with ahead := f.ahead.tail })

/-- Makes a plan and takes its first tile, or a direct step if there is no route. -/
def replan (walk : Tile → Bool) (limits : Limits) (algorithm : Algorithm) (current target : Tile)
    (f : Follower) : Option Tile × Follower :=
  let p := plan walk limits algorithm current target
  let f := { f with goal := some target, ahead := p.path, plans := f.plans + 1 }
  if p.found then f.advance
  else (directStep walk current target, { f with unreachable := some target })

/-- Goes on along the route, with a new plan where one is due. -/
def proceed (walk : Tile → Bool) (limits : Limits) (algorithm : Algorithm)
    (current target : Tile) (f : Follower) : Option Tile × Follower :=
  if f.drifted target || f.detached current then f.replan walk limits algorithm current target
  else f.advance

/-- The next tile on the way from `current` to the target; none at the target and where no step is
possible.  While the target stays near an unreachable one, only direct steps are taken. -/
def next (walk : Tile → Bool) (limits : Limits) (algorithm : Algorithm) (current target : Tile)
    (f : Follower) : Option Tile × Follower :=
  if current = target then (none, f.clear)
  else
    match f.unreachable with
    | some former =>
      if f.near former target then (directStep walk current target, f)
      else { f with unreachable := none }.proceed walk limits algorithm current target
    | none => f.proceed walk limits algorithm current target

end Follower

end TileRealm
