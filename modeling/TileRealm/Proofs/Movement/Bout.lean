import TileRealm.Proofs.Movement.Check
import TileRealm.Proofs.Roster

/-!
# Bouts

A referee and the arena that it oversees.  Sessions begin and end, reports come in, and the arena may become any other
arena between them.

- `Bout.Call`, `perform`, `after`: what can happen, and the bout after a history of calls, the latest first;
- `Bout.kept`: the reports of an entity that were accepted since its session was last reset;
- `Bout.report_cases`: what a report does;
- `Bout.recalls_after`: a session remembers the latest of the kept reports, and nothing else.
-/

set_option autoImplicit false

namespace TileRealm

/-- A referee and the arena that it oversees. -/
structure Bout (σ : Type) where
  referee : Referee
  arena : σ

namespace Bout

variable {σ : Type} [Arena σ]

/-! ## Calls -/

/-- What can happen in a bout. -/
inductive Call (σ : Type) where
  | bind (h : Handle) (pos : Tile)
  | unbind (h : Handle)
  | report (now : Nat) (h : Handle) (report : Report)
  /-- The arena changes by itself. -/
  | change (arena : σ)

/-- A bout in which nothing was reported. -/
def start (rules : MoveRules) (arena : σ) : Bout σ :=
  ⟨.idle rules, arena⟩

/-- The bout after a call. -/
def perform (b : Bout σ) : Call σ → Bout σ
  | .bind h pos => { b with referee := b.referee.bind h pos }
  | .unbind h => { b with referee := b.referee.unbind h }
  | .report now h report =>
    let (_, referee, arena) := b.referee.report b.arena now h report
    ⟨referee, arena⟩
  | .change arena => { b with arena := arena }

/-- The bout after a history of calls, the latest first. -/
def after (b : Bout σ) : List (Call σ) → Bout σ
  | [] => b
  | call :: past => (after b past).perform call

theorem after_append (b : Bout σ) (calls past : List (Call σ)) :
    b.after (calls ++ past) = (b.after past).after calls := by
  induction calls with
  | nil => rfl
  | cons call calls ih => simp only [List.cons_append, after, ih]

/-- Whether a report is accepted. -/
def accepts (b : Bout σ) (now : Nat) (h : Handle) (report : Report) : Bool :=
  (b.referee.report b.arena now h report).1.isOk

/-- The session of an entity, if it has one. -/
def session? (b : Bout σ) (h : Handle) : Option Session :=
  b.referee.sessions[h]?

/-- The reports of `h` that were accepted since its session was last reset, with their times, the latest first. -/
def kept (b : Bout σ) (h : Handle) : List (Call σ) → List (Nat × Report)
  | [] => []
  | .bind g _ :: past => if g = h then [] else b.kept h past
  | .unbind g :: past => if g = h then [] else b.kept h past
  | .report now g report :: past =>
    if g = h ∧ (b.after past).accepts now g report then (now, report) :: b.kept h past else b.kept h past
  | .change _ :: past => b.kept h past

variable {b : Bout σ} {now : Nat} {g h : Handle} {report : Report}

/-! ## Reports -/

/-- What an accepted report says of the bout, and what it does to it. -/
structure Accepted (b : Bout σ) (now : Nat) (h : Handle) (report : Report) (pos : Tile) (speed : UInt32) (arena : σ) :
    Prop where
  position_eq : Arena.position b.arena h = some pos
  speed_eq : Arena.speed b.arena h = some speed
  check_eq : (b.referee.session h pos).check (b.referee.surveyAt b.arena now pos speed) report = .ok ()
  place_eq : Arena.place b.arena h report.target = (.ok (), arena)
  perform_eq : b.perform (.report now h report) =
    ⟨{ b.referee with sessions := b.referee.sessions.insert h (.after report now) }, arena⟩

/-- A report is accepted, or it leaves the referee as it is; then the arena may have changed in the attempt. -/
theorem report_cases (b : Bout σ) (now : Nat) (h : Handle) (report : Report) :
    (b.accepts now h report = true ∧ ∃ pos speed arena, b.Accepted now h report pos speed arena) ∨
      b.accepts now h report = false ∧ (b.perform (.report now h report) = b ∨
        ∃ refusal arena, Arena.place b.arena h report.target = (.error refusal, arena) ∧
          b.perform (.report now h report) = { b with arena := arena }) := by
  rcases b.referee.report_cases b.arena now h report with
    ⟨refusal, -, hr⟩ | ⟨refusal, arena, -, hplace, hr⟩ | ⟨arena, hcheck, hplace, hr⟩
  · refine Or.inr ⟨?_, Or.inl ?_⟩
    · rw [accepts, hr]
      rfl
    · simp only [perform, hr]
  · refine Or.inr ⟨?_, Or.inr ⟨refusal, arena, hplace, ?_⟩⟩
    · rw [accepts, hr]
      rfl
    · simp only [perform, hr]
  · obtain ⟨pos, speed, hpos, hspeed, hcheck⟩ := Referee.check_eq_ok.mp hcheck
    refine Or.inl ⟨?_, pos, speed, arena, hpos, hspeed, hcheck, hplace, ?_⟩
    · rw [accepts, hr]
      rfl
    · simp only [perform, hr]

theorem accepted_of_accepts (ha : b.accepts now h report = true) :
    ∃ pos speed arena, b.Accepted now h report pos speed arena := by
  rcases b.report_cases now h report with ⟨-, hacc⟩ | ⟨hno, -⟩
  · exact hacc
  · rw [ha] at hno
    cases hno

/-- A refused report leaves the referee as it is, also if it is the arena that refuses. -/
theorem referee_of_refused (ha : b.accepts now h report = false) :
    (b.perform (.report now h report)).referee = b.referee := by
  rcases b.report_cases now h report with ⟨hyes, -⟩ | ⟨-, hp | ⟨_, _, -, hp⟩⟩
  · rw [ha] at hyes
    cases hyes
  · rw [hp]
  · rw [hp]

/-- An accepted report is all that the session of its entity remembers; the other sessions stay. -/
theorem session?_of_accepts (ha : b.accepts now h report = true) (g : Handle) :
    (b.perform (.report now h report)).session? g = if g = h then some (.after report now) else b.session? g := by
  obtain ⟨pos, speed, arena, hacc⟩ := accepted_of_accepts ha
  rw [session?, hacc.perform_eq]
  exact Roster.getElem?_insert

theorem session?_of_refused (ha : b.accepts now h report = false) (g : Handle) :
    (b.perform (.report now h report)).session? g = b.session? g := by
  rw [session?, referee_of_refused ha, session?]

/-! ## What sessions remember -/

/-- A session remembers the latest of the kept reports; before the first, it is fresh. -/
def Recalls (session : Option Session) : List (Nat × Report) → Prop
  | [] => ∀ s, session = some s → s = .fresh s.lastPos
  | (now, report) :: _ => session = some (.after report now)

theorem recalls_perform {past : List (Call σ)} (ih : Recalls ((b.after past).session? h) (b.kept h past))
    (call : Call σ) : Recalls ((b.after (call :: past)).session? h) (b.kept h (call :: past)) := by
  cases call with
  | bind g pos =>
    simp only [after, perform, session?, Referee.bind, Roster.getElem?_insert, kept, eq_comm (a := g)]
    split
    · intro s hs
      cases hs
      rfl
    · exact ih
  | unbind g =>
    simp only [after, perform, session?, Referee.unbind, Roster.getElem?_erase, kept, eq_comm (a := g)]
    split
    · intro s hs
      cases hs
    · exact ih
  | report now g report =>
    cases ha : (b.after past).accepts now g report with
    | false =>
      simpa only [after, kept, ha, Bool.false_eq_true, and_false, if_false, session?_of_refused ha] using ih
    | true =>
      simp only [after, kept, ha, and_true, session?_of_accepts ha, eq_comm (a := g)]
      split
      · rfl
      · exact ih
  | change => exact ih

/-- Sessions remember the kept reports. -/
theorem recalls_after (rules : MoveRules) (arena : σ) (h : Handle) (past : List (Call σ)) :
    Recalls (((start rules arena).after past).session? h) ((start rules arena).kept h past) := by
  induction past with
  | nil =>
    intro s hs
    simp [after, start, Referee.idle, session?] at hs
  | cons call past ih => exact recalls_perform ih call

end Bout

end TileRealm
