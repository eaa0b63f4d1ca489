import TileRealm.Movement

/-!
# Sessions

What is remembered of the reports of one entity, and the test that the next one has to pass.  The
test looks at its causes of refusal in a fixed order, and the first that applies is given.

* `Session`: the last number, time and place, and whether the entity is moving.
* `Session.check`: whether a report is accepted.
* `Session.after`: the session after an accepted report.
-/

set_option autoImplicit false

namespace TileRealm

/-- What is remembered of the reports of one entity. -/
structure Session where
  /-- The number of the last accepted report, 0 before the first. -/
  lastSeq : UInt32
  /-- The time of the last accepted report. -/
  lastReport : Option Nat
  /-- Where the client was last. -/
  lastPos : Tile
  moving : Bool
deriving DecidableEq

namespace Session

/-- A session before any report. -/
def fresh (pos : Tile) : Session :=
  ⟨0, none, pos, false⟩

/-- The time since the last accepted report; time that runs backwards counts as none. -/
def since (s : Session) (now : Nat) : Option Nat :=
  s.lastReport.map (now - ·)

/-- The time since the last accepted report, if the entity is moving or only just came to rest. -/
def recent (rules : MoveRules) (s : Session) (now : Nat) : Option Nat :=
  (s.since now).filter fun since => s.moving || decide (since < rules.startGrace)

/-- What the referee knows about an entity when a report comes in. -/
structure Survey where
  rules : MoveRules
  walk : Tile → Bool
  /-- Where the entity is. -/
  pos : Tile
  /-- Its speed limit. -/
  cap : UInt32
  now : Nat

end Session

/-! ## Single tests -/

namespace Refusal

/-- Refuses a number that is 0 or not new; at `repeatable`, the last number may come again. -/
def checkSeq (seq last : UInt32) (repeatable : Bool) : Except Refusal Unit :=
  if seq = 0 ∨ seq < last ∨ (seq = last ∧ !repeatable) then .error (.sequence seq last)
  else .ok ()

/-- Refuses a speed of 0 or above the limit. -/
def checkSpeed (speed cap : UInt32) : Except Refusal Unit :=
  if speed = 0 ∨ cap < speed then .error (.speed speed cap) else .ok ()

/-- Refuses a tile that cannot be walked on. -/
def checkWalkable (walk : Tile → Bool) (target : Tile) : Except Refusal Unit :=
  if walk target then .ok () else .error (.notWalkable target)

/-- Refuses a start too far from where the entity is. -/
def checkOrigin (rules : MoveRules) (origin pos : Tile) : Except Refusal Unit :=
  let distance := origin.distance pos
  if rules.positionTolerance.toFloat < distance then .error (.desync distance) else .ok ()

/-- Refuses a way longer than the budget. -/
def checkPace (distance budget : Float) : Except Refusal Unit :=
  if budget < distance then .error (.tooFast distance budget) else .ok ()

/-- Refuses an end too far from the last place. -/
def checkLeap (distance limit : Float) : Except Refusal Unit :=
  if limit < distance then .error (.teleport distance limit) else .ok ()

end Refusal

namespace Session

open Refusal (checkSeq checkSpeed checkWalkable checkOrigin checkPace checkLeap)

/-! ## The test of a report -/

/-- The budget for the time since a report, of which the least interval counts at least. -/
def paceSince (c : Survey) (since : Nat) : Float :=
  c.rules.budget c.cap (max since c.rules.minInterval)

/-- The way and the budget of a start.  Only a start from rest has the grace of a first leg; one
that follows closely is measured like an update. -/
def startLeg (s : Session) (c : Survey) (origin target : Tile) : Float × Float :=
  match s.recent c.rules c.now with
  | some since => (s.lastPos.distance target, paceSince c since)
  | none => (origin.distance target, c.rules.budget c.cap c.rules.startGrace)

/-- How far the end may be off: at rest, no further than the time since the last report allows. -/
def finishLimit (s : Session) (c : Survey) : Float :=
  match s.since c.now with
  | some since =>
    let budget := paceSince c since
    if !s.moving ∧ budget < c.rules.leap then budget else c.rules.leap
  | none => c.rules.leap

/-- Whether a report is accepted. -/
def check (s : Session) (c : Survey) : Report → Except Refusal Unit
  | .start seq origin target speed => do
    checkSeq seq s.lastSeq false
    checkSpeed speed c.cap
    checkOrigin c.rules origin c.pos
    checkWalkable c.walk target
    let (distance, budget) := s.startLeg c origin target
    checkPace distance budget
  | .update seq target speed => do
    if !s.moving then throw .notMoving
    checkSeq seq s.lastSeq false
    checkSpeed speed c.cap
    checkPace (s.lastPos.distance target) (paceSince c ((s.since c.now).getD 0))
    checkWalkable c.walk target
  | .finish seq target => do
    checkSeq seq s.lastSeq s.moving
    checkWalkable c.walk target
    checkLeap (s.lastPos.distance target) (s.finishLimit c)

/-- The session after an accepted report. -/
def after (report : Report) (now : Nat) : Session :=
  ⟨report.seq, some now, report.target, !report.isFinish⟩

end Session

end TileRealm
