import Std.Data.ExtTreeSet
import TileRealm.Heap
import TileRealm.Route

/-!
# Best-first search

A search that expands the tile whose cost so far and estimated cost to the goal are least together;
of equal ones the tile estimated closer to the goal, then the one that waits longer.  How costs are
added up and compared is a parameter, so that the same search runs over machine numbers and over
exact ones.

* `CostModel`: costs of steps, their sum and order, and the estimate.
* `CostModel.ofHeuristic`: costs as machine numbers, 1 along an axis and the root of 2 across.
* `BestFirst.search`: the search within its budget.
-/

set_option autoImplicit false

namespace TileRealm

/-- How a search adds up, compares and estimates costs. -/
structure CostModel (C : Type) where
  zero : C
  /-- The cost of a step along an axis. -/
  straight : C
  /-- The cost of a step across. -/
  diagonal : C
  add : C → C → C
  lt : C → C → Bool
  /-- The estimated cost from a tile to another. -/
  estimate : Tile → Tile → C

namespace CostModel

/-- The cost of a step. -/
def step {C : Type} (m : CostModel C) (heading : Heading) : C :=
  if heading.isDiagonal then m.diagonal else m.straight

/-- The square root of 2. -/
def root2 : Float := Float.sqrt 2

/-- Costs as machine numbers. -/
def ofHeuristic (heuristic : Heuristic) : CostModel Float where
  zero := 0
  straight := 1
  diagonal := root2
  add := (· + ·)
  lt a b := decide (a < b)
  estimate a b :=
    let dx := (a.dx b).natAbs
    let dy := (a.dy b).natAbs
    match heuristic with
    | .manhattan => Float.ofNat dx + Float.ofNat dy
    | .octile => Float.ofNat (max dx dy) + (root2 - 1) * Float.ofNat (min dx dy)

end CostModel

namespace BestFirst

variable {C : Type}

/-- A tile that waits to be expanded. -/
structure Entry (C : Type) where
  tile : Tile
  /-- The cost so far and the estimate together. -/
  total : C
  estimate : C
  /-- How many tiles had been put in line before. -/
  age : Nat

/-- Whether an entry comes before another: by total, then by estimate, then by age. -/
def Entry.before (m : CostModel C) (a b : Entry C) : Bool :=
  if m.lt a.total b.total then true
  else if m.lt b.total a.total then false
  else if m.lt a.estimate b.estimate then true
  else if m.lt b.estimate a.estimate then false
  else decide (a.age ≤ b.age)

/-- The best known way to a tile. -/
structure Label (C : Type) where
  cost : C
  /-- The tile before it, none for the start. -/
  parent : Option Tile

/-- What a search knows. -/
structure Search (C : Type) where
  waiting : Heap (Entry C)
  labels : Std.ExtTreeMap Tile (Label C)
  closed : Std.ExtTreeSet Tile
  /-- How many tiles were put in line. -/
  queued : Nat
  expanded : Nat

namespace Search

/-- The start alone waits. -/
def start (m : CostModel C) (start goal : Tile) : Search C where
  waiting :=
    let first : Entry C := ⟨start, m.estimate start goal, m.estimate start goal, 0⟩
    Heap.nil.insert (Entry.before m) first
  labels := (∅ : Std.ExtTreeMap Tile (Label C)).insert start ⟨m.zero, none⟩
  closed := ∅
  queued := 0
  expanded := 0

/-- Puts a tile in line with a new label. -/
def enqueue (m : CostModel C) (goal parent tile : Tile) (cost : C) (s : Search C) : Search C :=
  let estimate := m.estimate tile goal
  { s with
    labels := s.labels.insert tile ⟨cost, some parent⟩
    queued := s.queued + 1
    waiting := s.waiting.insert (Entry.before m)
      ⟨tile, m.add cost estimate, estimate, s.queued + 1⟩ }

/-- Whether a cost is less than that of the best known way to a tile. -/
def improves (m : CostModel C) (s : Search C) (tile : Tile) (cost : C) : Bool :=
  match s.labels[tile]? with
  | some label => m.lt cost label.cost
  | none => true

/-- Looks at one neighbour of an expanded tile that was reached at a cost. -/
def look (m : CostModel C) (walk : Tile → Bool) (goal tile : Tile) (cost : C) (s : Search C)
    (heading : Heading) : Search C :=
  match tile.shift heading with
  | none => s
  | some next =>
    if s.closed.contains next || !walk next then s
    else
      let cost := m.add cost (m.step heading)
      if s.improves m next cost then s.enqueue m goal tile next cost else s

/-- Looks at all neighbours of a tile. -/
def lookAround (m : CostModel C) (walk : Tile → Bool) (goal tile : Tile) (s : Search C) :
    Search C :=
  match s.labels[tile]? with
  | some label => Heading.all.foldl (look m walk goal tile label.cost) s
  | none => s

/-- The tiles between the start and a tile that lead to it, in front of those that follow. -/
def traceBack (labels : Std.ExtTreeMap Tile (Label C)) (start : Tile) :
    Nat → Tile → List Tile → List Tile
  | 0, _, after => after
  | fuel + 1, tile, after =>
    match labels[tile]?.bind Label.parent with
    | some parent =>
      if parent = start then after else traceBack labels start fuel parent (parent :: after)
    | none => after

/-- The route from the start to a tile that the labels tell. -/
def routeTo (s : Search C) (start tile : Tile) : List Tile :=
  traceBack s.labels start s.labels.size tile [tile]

/-- Marks a tile as expanded. -/
def close (s : Search C) (tile : Tile) : Search C :=
  { s with closed := s.closed.insert tile, expanded := s.expanded + 1 }

/-- Expands one tile after the other until the goal is met, no tile waits or the budget is spent.
A tile that waits a second time is passed over. -/
def run (m : CostModel C) (walk : Tile → Bool) (budget : Nat) (start goal : Tile) :
    Nat → Search C → Plan
  | 0, s => ⟨none, s.expanded⟩
  | fuel + 1, s =>
    match s.waiting.pop? (Entry.before m) with
    | none => ⟨none, s.expanded⟩
    | some (entry, waiting) =>
      let s := { s with waiting := waiting }
      if s.closed.contains entry.tile then run m walk budget start goal fuel s
      else if budget ≤ s.expanded then ⟨none, s.expanded⟩
      else
        let s := s.close entry.tile
        if entry.tile = goal then ⟨some (s.routeTo start goal), s.expanded⟩
        else run m walk budget start goal fuel (s.lookAround m walk goal entry.tile)

end Search

/-- How many tiles can ever be taken from the line: each expansion puts in at most eight, the start
is one more, and the last is the one that finds the budget spent. -/
def rounds (budget : Nat) : Nat :=
  8 * budget + 2

/-- A search from the start to the goal that expands no more tiles than the budget says. -/
def search (m : CostModel C) (walk : Tile → Bool) (budget : Nat) (start goal : Tile) : Plan :=
  (Search.start m start goal).run m walk budget start goal (rounds budget)

end BestFirst

end TileRealm
