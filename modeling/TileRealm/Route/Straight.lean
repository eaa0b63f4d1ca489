import Std.Data.ExtTreeSet
import TileRealm.Least
import TileRealm.Route

/-!
# Straight walks

A walk that at each tile takes the step that leads straight at the goal, along the longer of both
differences until they are equal.  Where that step is blocked or leads back, it takes the free
neighbour whose direction is closest to the goal's.

* `Straight.towards`: the step straight at the goal.
* `Straight.leastTurn`: the free neighbour that turns off the least.
* `Straight.search`: the walk within its budget.
-/

set_option autoImplicit false

namespace TileRealm

namespace Straight

/-- The tile after `current` straight at the goal.  The shorter difference takes part only when it
is as long as the other one. -/
def towards (current goal : Tile) : Option Tile :=
  let dx := current.dx goal
  let dy := current.dy goal
  if dx.natAbs > dy.natAbs then current.offset dx.sign (dy.tdiv dx.natAbs)
  else current.offset (dx.tdiv dy.natAbs) dy.sign

/-- How far a heading turns off the direction to the goal: one less the cosine of the angle. -/
def turn (current goal : Tile) (heading : Heading) : Float :=
  let dx := Float.ofInt heading.dx
  let dy := Float.ofInt heading.dy
  let rx := goal.x.toFloat - current.x.toFloat
  let ry := goal.y.toFloat - current.y.toFloat
  1 - (dx * rx + dy * ry) / (Tile.length dx dy * Tile.length rx ry)

/-- The free neighbour that turns off the least, the first of several. -/
def leastTurn (free : Tile → Bool) (current goal : Tile) : Option Tile :=
  let candidates := Heading.all.filterMap fun heading => do
    let next ← current.shift heading
    if free next then some (turn current goal heading, next) else none
  (leastBy (·.1) candidates).map (·.2)

/-- The next tile of a walk: straight at the goal if that is free, else with the least turn. -/
def next? (free : Tile → Bool) (current goal : Tile) : Option Tile :=
  ((towards current goal).filter free).or (leastTurn free current goal)

/-- Walks on from `current` with some steps left, past the tiles visited, of which `taken` are
the steps so far, the last one first. -/
def walkOn (walk : Tile → Bool) (goal : Tile) :
    Nat → Tile → Std.ExtTreeSet Tile → List Tile → Plan
  | 0, current, _, taken =>
    ⟨if current = goal then some taken.reverse else none, taken.length⟩
  | left + 1, current, visited, taken =>
    if current = goal then ⟨some taken.reverse, taken.length⟩
    else
      match next? (fun t => walk t && !visited.contains t) current goal with
      | some next => walkOn walk goal left next (visited.insert next) (next :: taken)
      | none => ⟨none, taken.length + 1⟩

/-- How many steps a walk may take: twice the distance, but no more than the limit. -/
def budget (limit : Nat) (start goal : Tile) : Nat :=
  min (start.distance goal * 2).toUInt64.toNat limit

/-- A walk from the start to the goal. -/
def search (walk : Tile → Bool) (limit : Nat) (start goal : Tile) : Plan :=
  walkOn walk goal (budget limit start goal) start ((∅ : Std.ExtTreeSet Tile).insert start) []

end Straight

end TileRealm
