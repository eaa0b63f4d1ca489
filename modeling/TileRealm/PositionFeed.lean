import TileRealm.Channel
import TileRealm.Handle
import TileRealm.Tile

/-!
# Position feeds

Tells someone outside where a player came to rest.  Nobody need listen: what is sent to nobody is
lost, and the movement stands all the same.

* `PositionFeed.send`: one more place, and whether it was taken.
-/

set_option autoImplicit false

namespace TileRealm

/-- The place where an entity came to rest. -/
structure RestingPlace where
  entity : Handle
  scene : UInt32
  pos : Tile
deriving DecidableEq

/-- The way to the one who listens, if there ever was one. -/
structure PositionFeed where
  line : Option (Channel RestingPlace)
deriving DecidableEq

namespace PositionFeed

/-- Nobody listens. -/
def disconnected : PositionFeed := ⟨none⟩

/-- Somebody listens. -/
def connected : PositionFeed := ⟨some .fresh⟩

/-- Somebody listened, but went away. -/
def hungUp : PositionFeed := ⟨some .gone⟩

/-- Whether somebody listens. -/
def isConnected (f : PositionFeed) : Bool :=
  match f.line with
  | some line => !line.closed
  | none => false

/-- Sends a place and tells whether it was taken. -/
def send (f : PositionFeed) (place : RestingPlace) : Bool × PositionFeed :=
  match f.line.bind (·.send? place) with
  | some line => (true, ⟨some line⟩)
  | none => (false, f)

/-- The first place that waits is received. -/
def receive (f : PositionFeed) : Option RestingPlace × PositionFeed :=
  match f.line with
  | some line => (line.receive.1, ⟨some line.receive.2⟩)
  | none => (none, f)

/-- All places that wait are received. -/
def drain (f : PositionFeed) : List RestingPlace × PositionFeed :=
  match f.line with
  | some line => (line.drain.1, ⟨some line.drain.2⟩)
  | none => ([], f)

/-- The listener takes nothing more but what waits. -/
def close (f : PositionFeed) : PositionFeed :=
  ⟨f.line.map (·.close)⟩

/-- The listener goes away. -/
def abandon (f : PositionFeed) : PositionFeed :=
  ⟨f.line.map (·.abandon)⟩

/-- One who listens gets the place, behind those that wait. -/
theorem line_send {f : PositionFeed} (h : f.isConnected = true) (place : RestingPlace) :
    ∃ line line', f.line = some line ∧ (f.send place).2.line = some line' ∧
      line'.closed = false ∧ line'.toList = line.toList ++ [place] := by
  unfold isConnected at h
  split at h
  · rename_i line hline
    obtain ⟨line', hsend, hopen, hlist⟩ := Channel.exists_send? (by simpa using h) place
    refine ⟨line, line', hline, ?_, hopen, hlist⟩
    rw [send, hline, Option.bind_some, hsend]
  · cases h

/-- If nobody listens, the place is lost. -/
theorem send_eq_of_not_connected {f : PositionFeed} (h : f.isConnected = false)
    (place : RestingPlace) : f.send place = (false, f) := by
  unfold isConnected at h
  split at h
  · rename_i line hline
    have hclosed : line.send? place = none := Channel.send?_eq_none_iff.mpr (by simpa using h)
    rw [send, hline, Option.bind_some, hclosed]
  · rename_i hline
    rw [send, hline, Option.bind_none]

end PositionFeed

end TileRealm
