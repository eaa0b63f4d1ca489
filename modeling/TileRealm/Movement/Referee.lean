import TileRealm.Movement.Session

/-!
# The referee

Accepts or refuses the reports of all entities.  A report that is refused changes nothing, neither
in the sessions nor, as far as the referee is concerned, in the arena.

* `Arena`: what the referee asks about the world, and how an entity is moved in it.
* `Referee.report`: the answer to a report.
* `Referee.bind`, `Referee.unbind`: sessions begin and end.
-/

set_option autoImplicit false

namespace TileRealm

/-- A world in which entities are moved. -/
class Arena (σ : Type) where
  /-- Where an entity is, if it is there. -/
  position : σ → Handle → Option Tile
  /-- The speed of an entity in tiles per second, 0 for the default. -/
  speed : σ → Handle → Option UInt32
  walkable : σ → Tile → Bool
  /-- Moves an entity, which may fail. -/
  place : σ → Handle → Tile → Except Refusal Unit × σ

/-- The rules and the sessions of all entities. -/
structure Referee where
  rules : MoveRules
  sessions : Roster Session
deriving DecidableEq

namespace Referee

variable {σ : Type} [Arena σ]

/-- A referee without sessions. -/
def idle (rules : MoveRules) : Referee :=
  ⟨rules, ∅⟩

/-- Begins a new session. -/
def bind (r : Referee) (h : Handle) (pos : Tile) : Referee :=
  { r with sessions := r.sessions.insert h (.fresh pos) }

/-- Ends a session. -/
def unbind (r : Referee) (h : Handle) : Referee :=
  { r with sessions := r.sessions.erase h }

/-- Whether an entity is moving. -/
def isMoving (r : Referee) (h : Handle) : Bool :=
  (r.sessions[h]?.map (·.moving)).getD false

/-- What the referee knows about an entity of the arena. -/
def survey (r : Referee) (arena : σ) (now : Nat) (h : Handle) : Except Refusal Session.Survey :=
  match Arena.position arena h, Arena.speed arena h with
  | some pos, some speed => .ok ⟨r.rules, Arena.walkable arena, pos, r.rules.cap speed, now⟩
  | _, _ => .error (.unknown h)

/-- The session of an entity, a new one where it stands if there is none. -/
def session (r : Referee) (h : Handle) (pos : Tile) : Session :=
  r.sessions.getD h (.fresh pos)

/-- Whether a report is accepted. -/
def check (r : Referee) (arena : σ) (now : Nat) (h : Handle) (report : Report) :
    Except Refusal Unit := do
  let survey ← r.survey arena now h
  (r.session h survey.pos).check survey report

/-- Answers a report: checks it, moves the entity, and remembers it in the session. -/
def report (r : Referee) (arena : σ) (now : Nat) (h : Handle) (report : Report) :
    Except Refusal Acceptance × Referee × σ :=
  match r.check arena now h report with
  | .error refusal => (.error refusal, r, arena)
  | .ok () =>
    match Arena.place arena h report.target with
    | (.error refusal, arena) => (.error refusal, r, arena)
    | (.ok (), arena) =>
      let sessions := r.sessions.insert h (.after report now)
      (.ok report.acceptance, { r with sessions := sessions }, arena)

end Referee

end TileRealm
