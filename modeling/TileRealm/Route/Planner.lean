import TileRealm.Route.BestFirst
import TileRealm.Route.Straight

/-!
# Planning

* `plan`: a route between two tiles by either algorithm.
-/

set_option autoImplicit false

namespace TileRealm

/-- Looks for a route over walkable tiles.  Both ends have to be walkable; from a tile to itself
the route is that tile alone. -/
def plan (walk : Tile → Bool) (limits : Limits) (algorithm : Algorithm) (start goal : Tile) :
    Plan :=
  if !walk start || !walk goal then ⟨none, 0⟩
  else if start = goal then ⟨some [goal], 0⟩
  else
    match algorithm with
    | .straight => Straight.search walk limits.steps start goal
    | .bestFirst =>
      BestFirst.search (CostModel.ofHeuristic limits.heuristic) walk limits.expansions start goal

end TileRealm
