import TileRealm.Tile

/-!
# Routes

A route leads from a tile to another in steps to a neighbour.  A planner looks for one within a
budget; that it finds none is an answer like any other.

* `Plan`: the answer of a planner.
* `Algorithm`, `Heuristic`, `Limits`: which planner is asked, and how much it may do.
* `IsRoute`: what a route is.
-/

set_option autoImplicit false

namespace TileRealm

/-- The way in which a route is looked for. -/
inductive Algorithm where
  /-- Straight at the goal, around obstacles as they come. -/
  | straight
  /-- The most promising tile first. -/
  | bestFirst
deriving DecidableEq

/-- The written name of an algorithm. -/
def Algorithm.text : Algorithm → String
  | straight => "straight"
  | bestFirst => "astar"

/-- How the cost from a tile to the goal is estimated. -/
inductive Heuristic where
  /-- The sum of both differences, which is too much where a diagonal step helps. -/
  | manhattan
  /-- The cost on open ground. -/
  | octile
deriving DecidableEq

/-- The written name of a heuristic. -/
def Heuristic.text : Heuristic → String
  | manhattan => "manhattan"
  | octile => "octile"

/-- How much a planner may do. -/
structure Limits where
  /-- How many tiles a best-first search may expand. -/
  expansions : Nat := 2000
  /-- How many steps a straight walk may take. -/
  steps : Nat := 500
  heuristic : Heuristic := .octile
deriving DecidableEq

/-- The answer of a planner: a route, if one was found, and the work that it took. -/
structure Plan where
  /-- The tiles after the start, up to the goal. -/
  route : Option (List Tile)
  /-- The steps taken or the tiles expanded. -/
  expanded : Nat
deriving DecidableEq

namespace Plan

/-- Whether there is a route. -/
def found (p : Plan) : Bool :=
  p.route.isSome

/-- The tiles of the route, none if there is no route. -/
def path (p : Plan) : List Tile :=
  p.route.getD []

end Plan

/-- The given tiles lead from a tile to the goal over walkable neighbours. -/
def IsRoute (walk : Tile → Bool) : Tile → Tile → List Tile → Prop
  | start, goal, [] => start = goal
  | start, goal, next :: rest =>
    start.adjacent next = true ∧ walk next = true ∧ IsRoute walk next goal rest

end TileRealm
