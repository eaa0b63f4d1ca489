import TileRealm.Movement.Referee

/-!
# Accepted reports

- `Session.check_start_eq_ok`, `Session.check_update_eq_ok`, `Session.check_finish_eq_ok`: what a session asks of a
  report that it accepts;
- `Session.Stale`: the numbers that it refuses (`Session.check_eq_sequence`);
- `Referee.check_eq_ok`, `Referee.report_cases`: what a referee does with a report, and nothing else.
-/

set_option autoImplicit false

namespace TileRealm

/-! ## Single tests -/

namespace Refusal

theorem seq_eq_ok {x y : Except Refusal Unit} : (do x; y) = .ok () ↔ x = .ok () ∧ y = .ok () := by
  cases x with
  | error refusal => simp [bind, Except.bind]
  | ok => simp [bind, Except.bind]

variable {seq last speed cap : UInt32} {repeatable : Bool}

theorem checkSeq_eq_ok :
    checkSeq seq last repeatable = .ok () ↔ ¬(seq = 0 ∨ seq < last ∨ seq = last ∧ repeatable = false) := by
  simp [checkSeq]

theorem checkSpeed_eq_ok : checkSpeed speed cap = .ok () ↔ ¬(speed = 0 ∨ cap < speed) := by
  simp [checkSpeed]

theorem checkWalkable_eq_ok {walk : Tile → Bool} {target : Tile} :
    checkWalkable walk target = .ok () ↔ walk target = true := by
  simp [checkWalkable]

theorem checkOrigin_eq_ok {rules : MoveRules} {origin pos : Tile} :
    checkOrigin rules origin pos = .ok () ↔ ¬rules.positionTolerance.toFloat < origin.distance pos := by
  simp [checkOrigin]

theorem checkPace_eq_ok {distance budget : Float} : checkPace distance budget = .ok () ↔ ¬budget < distance := by
  simp [checkPace]

theorem checkLeap_eq_ok {distance limit : Float} : checkLeap distance limit = .ok () ↔ ¬limit < distance := by
  simp [checkLeap]

theorem seq_eq_error {x y : Except Refusal Unit} {refusal : Refusal} :
    (do x; y) = .error refusal ↔ x = .error refusal ∨ x = .ok () ∧ y = .error refusal := by
  cases x with
  | error refusal => simp [bind, Except.bind]
  | ok => simp [bind, Except.bind]

theorem checkSeq_eq_error : checkSeq seq last repeatable = .error (.sequence seq last) ↔
    seq = 0 ∨ seq < last ∨ seq = last ∧ repeatable = false := by
  unfold checkSeq
  split <;> rename_i h
  · simpa using h
  · simpa using h

/-! None of the other tests finds fault with the number. -/

section

variable {a b : UInt32} {walk : Tile → Bool} {target origin pos : Tile} {rules : MoveRules} {distance limit : Float}

theorem checkSpeed_ne_sequence : checkSpeed speed cap ≠ .error (.sequence a b) := by
  unfold checkSpeed
  split <;> simp

theorem checkWalkable_ne_sequence : checkWalkable walk target ≠ .error (.sequence a b) := by
  unfold checkWalkable
  split <;> simp

theorem checkOrigin_ne_sequence : checkOrigin rules origin pos ≠ .error (.sequence a b) := by
  unfold checkOrigin
  dsimp only
  split <;> simp

theorem checkPace_ne_sequence : checkPace distance limit ≠ .error (.sequence a b) := by
  unfold checkPace
  split <;> simp

theorem checkLeap_ne_sequence : checkLeap distance limit ≠ .error (.sequence a b) := by
  unfold checkLeap
  split <;> simp

end

end Refusal

/-! ## Sessions -/

namespace Session

open Refusal

variable {s : Session} {c : Survey} {seq speed : UInt32} {origin target : Tile}

theorem check_start_eq_ok : s.check c (.start seq origin target speed) = .ok () ↔
    ¬(seq = 0 ∨ seq < s.lastSeq ∨ seq = s.lastSeq) ∧ ¬(speed = 0 ∨ c.cap < speed) ∧
      ¬c.rules.positionTolerance.toFloat < origin.distance c.pos ∧ c.walk target = true ∧
      ¬(s.startLeg c origin target).2 < (s.startLeg c origin target).1 := by
  simp only [check, seq_eq_ok, checkSeq_eq_ok, checkSpeed_eq_ok, checkOrigin_eq_ok, checkWalkable_eq_ok,
    checkPace_eq_ok, and_true]

theorem check_update_eq_ok : s.check c (.update seq target speed) = .ok () ↔
    s.moving = true ∧ ¬(seq = 0 ∨ seq < s.lastSeq ∨ seq = s.lastSeq) ∧ ¬(speed = 0 ∨ c.cap < speed) ∧
      ¬paceSince c ((s.since c.now).getD 0) < s.lastPos.distance target ∧ c.walk target = true := by
  cases hm : s.moving with
  | false => simp [check, hm, throw, throwThe, MonadExceptOf.throw, bind, Except.bind]
  | true =>
    simp only [check, hm, Bool.not_true, Bool.false_eq_true, if_false, seq_eq_ok, checkSeq_eq_ok,
      checkSpeed_eq_ok, checkWalkable_eq_ok, checkPace_eq_ok, and_true, true_and]

theorem check_finish_eq_ok : s.check c (.finish seq target) = .ok () ↔
    ¬(seq = 0 ∨ seq < s.lastSeq ∨ seq = s.lastSeq ∧ s.moving = false) ∧ c.walk target = true ∧
      ¬s.finishLimit c < s.lastPos.distance target := by
  simp only [check, seq_eq_ok, checkSeq_eq_ok, checkWalkable_eq_ok, checkLeap_eq_ok]

/-- The target of an accepted report can be walked on. -/
theorem walk_of_check {report : Report} (h : s.check c report = .ok ()) : c.walk report.target = true := by
  cases report with
  | start => exact (check_start_eq_ok.mp h).2.2.2.1
  | update => exact (check_update_eq_ok.mp h).2.2.2.2
  | finish => exact (check_finish_eq_ok.mp h).2.1

/-- A report has no new number, and is no end with the number of the movement that it ends. -/
def Stale (s : Session) (report : Report) : Prop :=
  report.seq = 0 ∨ report.seq < s.lastSeq ∨
    report.seq = s.lastSeq ∧ ¬(report.isFinish = true ∧ s.moving = true)

theorem not_stale_of_check {report : Report} (h : s.check c report = .ok ()) : ¬s.Stale report := by
  cases report with
  | start =>
    have := (check_start_eq_ok.mp h).1
    simpa [Stale, Report.seq, Report.isFinish] using this
  | update =>
    have := (check_update_eq_ok.mp h).2.1
    simpa [Stale, Report.seq, Report.isFinish] using this
  | finish =>
    have := (check_finish_eq_ok.mp h).1
    simpa [Stale, Report.seq, Report.isFinish] using this

/-- A report is refused for its number exactly if it is stale, unless it is an update at rest. -/
theorem check_eq_sequence {report : Report}
    (hmoving : ∀ seq target speed, report = .update seq target speed → s.moving = true) :
    s.check c report = .error (.sequence report.seq s.lastSeq) ↔ s.Stale report := by
  cases report with
  | start =>
    simp [check, seq_eq_error, checkSeq_eq_error, checkSpeed_ne_sequence, checkOrigin_ne_sequence,
      checkWalkable_ne_sequence, checkPace_ne_sequence, Stale, Report.seq, Report.isFinish]
  | update =>
    have hm := hmoving _ _ _ rfl
    simp [check, hm, seq_eq_error, checkSeq_eq_error, checkSpeed_ne_sequence, checkWalkable_ne_sequence,
      checkPace_ne_sequence, Stale, Report.seq, Report.isFinish]
  | finish =>
    simp [check, seq_eq_error, checkSeq_eq_error, checkWalkable_ne_sequence, checkLeap_ne_sequence, Stale, Report.seq,
      Report.isFinish]

end Session

/-! ## Referees -/

namespace Referee

theorem session_eq (r : Referee) (h : Handle) (pos : Tile) : r.session h pos = r.sessions[h]?.getD (.fresh pos) :=
  Std.ExtTreeMap.getD_eq_getD_getElem?

variable {σ : Type} [Arena σ] {r : Referee} {arena : σ} {now : Nat} {h : Handle} {report : Report}

/-- What a referee knows of an entity at a place and with a speed. -/
abbrev surveyAt (r : Referee) (arena : σ) (now : Nat) (pos : Tile) (speed : UInt32) : Session.Survey :=
  ⟨r.rules, Arena.walkable arena, pos, r.rules.cap speed, now⟩

theorem check_eq {pos : Tile} {speed : UInt32} (hpos : Arena.position arena h = some pos)
    (hspeed : Arena.speed arena h = some speed) :
    r.check arena now h report = (r.session h pos).check (r.surveyAt arena now pos speed) report := by
  simp only [check, survey, hpos, hspeed]
  rfl

/-- Only entities of the arena have reports accepted. -/
theorem check_eq_ok : r.check arena now h report = .ok () ↔ ∃ pos speed, Arena.position arena h = some pos ∧
    Arena.speed arena h = some speed ∧
      (r.session h pos).check (r.surveyAt arena now pos speed) report = .ok () := by
  constructor
  · intro hc
    cases hpos : Arena.position arena h with
    | none =>
      simp only [check, survey, hpos] at hc
      cases hc
    | some pos =>
      cases hspeed : Arena.speed arena h with
      | none =>
        simp only [check, survey, hpos, hspeed] at hc
        cases hc
      | some speed => exact ⟨pos, speed, rfl, rfl, check_eq hpos hspeed ▸ hc⟩
  · rintro ⟨pos, speed, hpos, hspeed, hc⟩
    rw [check_eq hpos hspeed, hc]

/-- A report is refused by a test, or by the arena, or it is accepted. -/
theorem report_cases (r : Referee) (arena : σ) (now : Nat) (h : Handle) (report : Report) :
    (∃ refusal, r.check arena now h report = .error refusal ∧
      r.report arena now h report = (.error refusal, r, arena)) ∨
    (∃ refusal arena', r.check arena now h report = .ok () ∧
      Arena.place arena h report.target = (.error refusal, arena') ∧
      r.report arena now h report = (.error refusal, r, arena')) ∨
    ∃ arena', r.check arena now h report = .ok () ∧ Arena.place arena h report.target = (.ok (), arena') ∧
      r.report arena now h report =
        (.ok report.acceptance, { r with sessions := r.sessions.insert h (.after report now) }, arena') := by
  unfold Referee.report
  cases hc : r.check arena now h report with
  | error refusal => exact Or.inl ⟨refusal, rfl, rfl⟩
  | ok =>
    rcases Arena.place arena h report.target with ⟨refusal | _, arena'⟩
    · exact Or.inr (Or.inl ⟨refusal, arena', rfl, rfl, rfl⟩)
    · exact Or.inr (Or.inr ⟨arena', rfl, rfl, rfl⟩)

end Referee

end TileRealm
