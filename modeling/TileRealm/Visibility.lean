import TileRealm.Tile.Cell
import TileRealm.Visibility.Watcher

/-!
# Visibility

Which entities see each other.  An entity is listed in the nine cells around its own, so those
listed in the nine cells around a tile are the entities at most two cells away from it.  Sight is
mutual: what one side gains or loses, the other side does too.

* `Visibility.add`, `Visibility.remove`, `Visibility.move`: entities come, go and move.
* `Visibility.refresh`: sees to it that an entity sees all that are near it and nothing else.
* `Visibility.near`: the entities that are seen from a tile.
* `Visibility.consume`, `Visibility.drain`: the net changes of one entity and of all.
-/

set_option autoImplicit false

namespace TileRealm

/-- All entities at their places, with what they see. -/
structure Visibility where
  /-- The edge of a cell in tiles. -/
  cellSize : UInt32
  /-- The entities that are listed in a cell, for the cells that have any. -/
  listed : Std.ExtTreeMap Cell HandleSet
  watchers : Roster Watcher
deriving DecidableEq

namespace Visibility

/-- Nobody is there; a size of 0 counts as 1. -/
def empty (cellSize : UInt32) : Visibility :=
  ⟨max cellSize 1, ∅, ∅⟩

/-! ## Questions -/

/-- The number of entities. -/
def size (v : Visibility) : Nat :=
  v.watchers.size

/-- Whether an entity is there. -/
def contains (v : Visibility) (h : Handle) : Bool :=
  v.watchers.contains h

/-- The place of an entity. -/
def position (v : Visibility) (h : Handle) : Option Tile :=
  v.watchers[h]?.map (·.pos)

/-- What an entity sees. -/
def visible (v : Visibility) (h : Handle) : Option HandleSet :=
  v.watchers[h]?.map (·.visible)

/-- The cells around a tile. -/
def block (v : Visibility) (pos : Tile) : List Cell :=
  (pos.cell v.cellSize).block

/-- The entities that are listed in a cell. -/
def members (v : Visibility) (cell : Cell) : HandleSet :=
  v.listed.getD cell ∅

/-- The entities that are seen from a tile. -/
def near (v : Visibility) (pos : Tile) : HandleSet :=
  (v.block pos).foldl (fun seen cell => seen ∪ v.members cell) ∅

/-! ## Lists of the cells -/

/-- Lists an entity in a cell. -/
def enlist (h : Handle) (listed : Std.ExtTreeMap Cell HandleSet) (cell : Cell) :
    Std.ExtTreeMap Cell HandleSet :=
  listed.alter cell fun members => some ((members.getD ∅).insert h)

/-- Strikes an entity off the list of a cell; an empty list is not kept. -/
def strike (h : Handle) (listed : Std.ExtTreeMap Cell HandleSet) (cell : Cell) :
    Std.ExtTreeMap Cell HandleSet :=
  listed.alter cell fun members =>
    members.bind fun members =>
      let members := members.erase h
      if members.isEmpty then none else some members

/-- Takes an entity from the lists of some cells over to those of others.  The cells that are among
both are left as they are. -/
def relist (h : Handle) (before after : List Cell) (listed : Std.ExtTreeMap Cell HandleSet) :
    Std.ExtTreeMap Cell HandleSet :=
  let listed := (before.filter (· ∉ after)).foldl (strike h) listed
  (after.filter (· ∉ before)).foldl (enlist h) listed

/-! ## Changes -/

/-- Two entities come into each other's view. -/
def meet (h : Handle) (v : Visibility) (peer : Handle) : Visibility :=
  { v with watchers := (v.watchers.modify h (·.gain peer)).modify peer (·.gain h) }

/-- Two entities go out of each other's view. -/
def part (h : Handle) (v : Visibility) (peer : Handle) : Visibility :=
  { v with watchers := (v.watchers.modify h (·.lose peer)).modify peer (·.lose h) }

/-- Brings what an entity sees up to date, on both sides. -/
def refresh (v : Visibility) (h : Handle) : Visibility :=
  match v.watchers[h]? with
  | none => v
  | some w =>
    let inSight := (v.near w.pos).erase h
    let v := (inSight \ w.visible).foldl (meet h) v
    (w.visible \ inSight).foldl (part h) v

/-- Moves an entity.  Only the cells that are around it before or afterwards, and not both, change;
as long as there are none, what it sees stays the same. -/
def move? (v : Visibility) (h : Handle) (pos : Tile) : Option Visibility :=
  v.watchers[h]?.map fun w =>
    let before := v.block w.pos
    let after := v.block pos
    let v := { v with watchers := v.watchers.insert h { w with pos := pos } }
    if before = after then v
    else { v with listed := relist h before after v.listed }.refresh h

/-- Moves an entity if it is there. -/
def move (v : Visibility) (h : Handle) (pos : Tile) : Visibility :=
  (v.move? h pos).getD v

/-- Puts an entity at a place; one that is there already is moved. -/
def add (v : Visibility) (h : Handle) (pos : Tile) : Visibility :=
  match v.move? h pos with
  | some moved => moved
  | none =>
    refresh { v with
      listed := (v.block pos).foldl (enlist h) v.listed
      watchers := v.watchers.insert h (.newcomer pos) } h

/-- Takes an entity away and tells what it saw.  Those still see it until they are refreshed. -/
def remove (v : Visibility) (h : Handle) : HandleSet × Visibility :=
  match v.watchers[h]? with
  | none => (∅, v)
  | some w =>
    (w.visible, { v with
      listed := (v.block w.pos).foldl (strike h) v.listed
      watchers := v.watchers.erase h })

/-- Takes an entity away and refreshes all that it saw. -/
def removeAndRefresh (v : Visibility) (h : Handle) : HandleSet × Visibility :=
  let (peers, v) := v.remove h
  (peers, peers.foldl refresh v)

/-! ## Net changes -/

/-- The net changes of one entity, which is told of them. -/
def consume (v : Visibility) (h : Handle) : Changes × Visibility :=
  match v.watchers[h]? with
  | none => (.none, v)
  | some w => (w.changes, { v with watchers := v.watchers.insert h w.told })

/-- The net changes of all entities that have any. -/
def pending (v : Visibility) : List (Handle × Changes) :=
  v.watchers.toList.filterMap fun (h, w) =>
    if w.changes.isEmpty then none else some (h, w.changes)

/-- The net changes of all entities that have any; everybody is told. -/
def drain (v : Visibility) : List (Handle × Changes) × Visibility :=
  (v.pending, { v with watchers := v.watchers.map fun _ w => w.told })

end Visibility

end TileRealm
