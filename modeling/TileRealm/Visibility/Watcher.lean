import TileRealm.Handle
import TileRealm.Tile

/-!
# Watchers

What one entity sees of the others, and how that changed since it was last told.  Gaining a peer
cancels its loss if the watcher was not told of it yet, and the other way round, so that only net
changes are ever told.

* `Watcher.gain`, `Watcher.lose`: a peer comes into view or goes out of it.
* `Watcher.changes`, `Watcher.told`: the net change, and the watcher once it knows.
-/

set_option autoImplicit false

namespace TileRealm

/-- The net change of what a watcher sees. -/
structure Changes where
  entered : HandleSet
  left : HandleSet
deriving DecidableEq

namespace Changes

/-- Nothing changed. -/
def none : Changes := ⟨∅, ∅⟩

/-- Whether nothing changed. -/
def isEmpty (c : Changes) : Bool :=
  c.entered.isEmpty && c.left.isEmpty

end Changes

/-- An entity at its place with what it sees. -/
structure Watcher where
  pos : Tile
  visible : HandleSet
  /-- What came into view and was not told yet. -/
  entered : HandleSet
  /-- What went out of view and was not told yet. -/
  left : HandleSet
deriving DecidableEq

namespace Watcher

/-- A watcher that sees nothing. -/
def newcomer (pos : Tile) : Watcher :=
  ⟨pos, ∅, ∅, ∅⟩

/-- A peer comes into view, unless it is in view. -/
def gain (peer : Handle) (w : Watcher) : Watcher :=
  if w.visible.contains peer then w
  else if w.left.contains peer then
    { w with visible := w.visible.insert peer, left := w.left.erase peer }
  else { w with visible := w.visible.insert peer, entered := w.entered.insert peer }

/-- A peer goes out of view, if it is in view. -/
def lose (peer : Handle) (w : Watcher) : Watcher :=
  if !w.visible.contains peer then w
  else if w.entered.contains peer then
    { w with visible := w.visible.erase peer, entered := w.entered.erase peer }
  else { w with visible := w.visible.erase peer, left := w.left.insert peer }

/-- What the watcher has to be told. -/
def changes (w : Watcher) : Changes :=
  ⟨w.entered, w.left⟩

/-- The watcher once it was told. -/
def told (w : Watcher) : Watcher :=
  { w with entered := ∅, left := ∅ }

end Watcher

end TileRealm
