import TileRealm.Proofs.Movement.Bout

/-!
# The numbers of reports

Between two resets of a session the numbers of the accepted reports grow, except that the end of a movement may repeat
the last number of the movement.

- `Report.Follows`: how the number of a later report stands to that of an earlier one;
- `Session.follows_of_check`: a report that a session accepts follows the one that the session remembers;
- `Bout.Orderly`, `Bout.orderly_after`: every history is orderly, in every arena.
-/

set_option autoImplicit false

namespace TileRealm

/-! ## Two reports -/

/-- The number of a later report is higher, or it ends the movement to which the earlier one with its number belongs. -/
def Report.Follows (later earlier : Report) : Prop :=
  earlier.seq < later.seq ∨ earlier.seq = later.seq ∧ later.isFinish = true ∧ earlier.isFinish = false

theorem Report.Follows.le {later earlier : Report} (h : later.Follows earlier) : earlier.seq ≤ later.seq := by
  rcases h with h | ⟨h, -⟩
  · exact UInt32.le_of_lt h
  · exact UInt32.le_of_eq h

theorem Report.Follows.trans {a b c : Report} (hab : a.Follows b) (hbc : b.Follows c) : a.Follows c := by
  rcases hbc with hbc | ⟨hseq, hb, -⟩
  · exact Or.inl (UInt32.lt_of_lt_of_le hbc hab.le)
  · -- an end is followed by higher numbers only
    rcases hab with hab | ⟨-, -, hb'⟩
    · exact Or.inl (hseq ▸ hab)
    · rw [hb] at hb'
      cases hb'

namespace Session

variable {s : Session} {c : Survey} {report earlier : Report}

theorem seq_ne_zero_of_check (h : s.check c report = .ok ()) : report.seq ≠ 0 := fun h0 =>
  not_stale_of_check h (Or.inl h0)

/-- The number of an accepted report is higher than the last, or repeats it to end the movement. -/
theorem lt_seq_of_check (h : s.check c report = .ok ()) :
    s.lastSeq < report.seq ∨ report.seq = s.lastSeq ∧ report.isFinish = true ∧ s.moving = true := by
  have hstale := not_stale_of_check h
  have hle : s.lastSeq ≤ report.seq := UInt32.not_lt.mp fun hlt => hstale (Or.inr (Or.inl hlt))
  rcases UInt32.lt_or_eq_of_le hle with hlt | heq
  · exact Or.inl hlt
  · refine Or.inr ⟨heq.symm, Decidable.byContradiction fun hopen => ?_⟩
    exact hstale (Or.inr (Or.inr ⟨heq.symm, hopen⟩))

/-- A report that is accepted after another follows it. -/
theorem follows_of_check {now : Nat} (h : (after earlier now).check c report = .ok ()) : report.Follows earlier := by
  rcases lt_seq_of_check h with hlt | ⟨hseq, hend, hmoving⟩
  · exact Or.inl hlt
  · exact Or.inr ⟨hseq.symm, hend, by simpa [after] using hmoving⟩

theorem moving_of_check {seq speed : UInt32} {target : Tile} (h : s.check c (.update seq target speed) = .ok ()) :
    s.moving = true :=
  (check_update_eq_ok.mp h).1

end Session

/-! ## Histories -/

namespace Bout

variable {σ : Type} {b : Bout σ} {now : Nat} {h : Handle} {report : Report}

/-- The number of the last accepted report, 0 without a session. -/
def lastSeq (b : Bout σ) (h : Handle) : UInt32 :=
  ((b.session? h).map (·.lastSeq)).getD 0

theorem lastSeq_session (b : Bout σ) (h : Handle) (pos : Tile) : (b.referee.session h pos).lastSeq = b.lastSeq h := by
  rw [lastSeq, session?, Referee.session_eq]
  cases b.referee.sessions[h]? <;> rfl

theorem moving_session (b : Bout σ) (h : Handle) (pos : Tile) :
    (b.referee.session h pos).moving = b.referee.isMoving h := by
  rw [Referee.isMoving, Referee.session_eq]
  cases b.referee.sessions[h]? <;> rfl

/-- The reports kept of an entity have numbers that grow. -/
structure Ascending (kept : List (Nat × Report)) : Prop where
  seq_ne_zero : ∀ p ∈ kept, p.2.seq ≠ 0
  follows : kept.Pairwise fun later earlier => later.2.Follows earlier.2

theorem moving_of_recalls {kept : List (Nat × Report)} (hk : Ascending kept) (hr : Recalls (b.session? h) kept)
    {s : Session} (hs : b.session? h = some s) (hm : s.moving = true) :
    s.lastReport.isSome = true ∧ 0 < s.lastSeq := by
  cases kept with
  | nil =>
    -- a fresh session is at rest
    rw [hr s hs] at hm
    cases hm
  | cons last rest =>
    obtain rfl : Session.after last.2 last.1 = s := Option.some.inj (hr.symm.trans hs)
    have hne : last.2.seq ≠ 0 := hk.seq_ne_zero last (List.mem_cons_self ..)
    exact ⟨rfl, UInt32.pos_iff_ne_zero.mpr hne⟩

variable [Arena σ]

theorem Ascending.cons {kept : List (Nat × Report)} (hk : Ascending kept) (hr : Recalls (b.session? h) kept)
    (ha : b.accepts now h report = true) : Ascending ((now, report) :: kept) := by
  obtain ⟨pos, speed, arena, hacc⟩ := accepted_of_accepts ha
  have hcheck := hacc.check_eq
  constructor
  · intro p hp
    rcases List.mem_cons.mp hp with rfl | hp
    · exact Session.seq_ne_zero_of_check hcheck
    · exact hk.seq_ne_zero p hp
  · refine List.pairwise_cons.mpr ⟨?_, hk.follows⟩
    cases kept with
    | nil => nofun
    | cons last rest =>
      -- the session only knows the last report, which follows all others
      have hsession : b.referee.session h pos = .after last.2 last.1 := by
        have : b.referee.sessions[h]? = some (.after last.2 last.1) := hr
        rw [Referee.session_eq, this, Option.getD_some]
      rw [hsession] at hcheck
      have hlast := Session.follows_of_check hcheck
      intro p hp
      rcases List.mem_cons.mp hp with rfl | hp
      · exact hlast
      · exact hlast.trans ((List.pairwise_cons.mp hk.follows).1 p hp)

theorem ascending_kept (rules : MoveRules) (arena : σ) (h : Handle) (past : List (Call σ)) :
    Ascending ((start rules arena).kept h past) := by
  have hnil : Ascending [] := ⟨nofun, List.Pairwise.nil⟩
  induction past with
  | nil => exact hnil
  | cons call past ih =>
    cases call with
    | bind | unbind =>
      rw [kept]
      split
      · exact hnil
      · exact ih
    | report now g report =>
      rw [kept]
      split
      · rename_i ha
        obtain ⟨rfl, ha⟩ := ha
        exact ih.cons (recalls_after rules arena g past) ha
      · exact ih
    | change => exact ih

theorem countP_le_one {α : Type} {p : α → Bool} {l : List α}
    (hl : l.Pairwise fun a b => p a = true → p b = false) : l.countP p ≤ 1 := by
  induction l with
  | nil => exact Nat.zero_le 1
  | cons a l ih =>
    obtain ⟨ha, hl⟩ := List.pairwise_cons.mp hl
    cases hp : p a with
    | false =>
      rw [List.countP_cons_of_neg (by simp [hp])]
      exact ih hl
    | true =>
      have hnone : l.countP p = 0 := List.countP_eq_zero.mpr fun b hb => by simp [ha b hb hp]
      exact Nat.le_of_eq (by rw [List.countP_cons_of_pos hp, hnone])

/-- A number is accepted once of ends, and once of other reports. -/
theorem Ascending.once {kept : List (Nat × Report)} (hk : Ascending kept) (finish : Bool) (seq : UInt32) :
    kept.countP (fun p => p.2.isFinish == finish && p.2.seq == seq) ≤ 1 := by
  apply countP_le_one
  apply hk.follows.imp
  intro later earlier hf hl
  simp only [Bool.and_eq_true, beq_iff_eq] at hl
  obtain ⟨hfinish, hseq⟩ := hl
  rcases hf with hlt | ⟨-, hend, hopen⟩
  · have hne : earlier.2.seq ≠ seq := hseq ▸ UInt32.ne_of_lt hlt
    simp [hne]
  · have hne : earlier.2.isFinish ≠ finish := by
      rw [← hfinish, hend, hopen]
      exact Bool.false_ne_true
    simp [hne]

/-- What holds of the session of an entity and of the reports that were kept of it. -/
structure Orderly (b : Bout σ) (h : Handle) (kept : List (Nat × Report)) : Prop where
  ascending : Ascending kept
  once : ∀ finish seq, kept.countP (fun p => p.2.isFinish == finish && p.2.seq == seq) ≤ 1
  recalls : Recalls (b.session? h) kept
  /-- A moving entity has reported before. -/
  moving : ∀ s, b.session? h = some s → s.moving = true → s.lastReport.isSome = true ∧ 0 < s.lastSeq
  /-- The next number is higher than the last, or repeats it to end the movement. -/
  next : ∀ now report, b.accepts now h report = true → report.seq ≠ 0 ∧
    (b.lastSeq h < report.seq ∨ report.seq = b.lastSeq h ∧ report.isFinish = true ∧ b.referee.isMoving h = true)
  /-- Apart from updates at rest, no other numbers are refused. -/
  refused_iff : ∀ now report, (Arena.position b.arena h).isSome = true → (Arena.speed b.arena h).isSome = true →
    ((∃ seq target speed, report = .update seq target speed) → b.referee.isMoving h = true) →
      (b.referee.check b.arena now h report = .error (.sequence report.seq (b.lastSeq h)) ↔ report.seq = 0 ∨
        report.seq < b.lastSeq h ∨
          report.seq = b.lastSeq h ∧ ¬(report.isFinish = true ∧ b.referee.isMoving h = true))
  update_moving : ∀ now seq target speed, b.accepts now h (.update seq target speed) = true →
    b.referee.isMoving h = true
  /-- A start begins a movement, and an end closes it. -/
  accepted : ∀ now report, b.accepts now h report = true →
    (b.perform (.report now h report)).lastSeq h = report.seq ∧
      (b.perform (.report now h report)).referee.isMoving h = !report.isFinish
  others : ∀ now g report, b.accepts now g report = true → h ≠ g →
    (b.perform (.report now g report)).session? h = b.session? h
  refused : ∀ now g report, b.accepts now g report = false → (b.perform (.report now g report)).referee = b.referee

/-- **The numbers of accepted reports grow until the session is reset, and refused reports change no session.** -/
theorem orderly_after (rules : MoveRules) (arena : σ) (h : Handle) (past : List (Call σ)) :
    Orderly ((start rules arena).after past) h ((start rules arena).kept h past) := by
  have hk := ascending_kept rules arena h past
  have hr := recalls_after rules arena h past
  generalize (start rules arena).after past = b at hr
  generalize (start rules arena).kept h past = kept at hk hr
  refine
    { ascending := hk
      once := hk.once
      recalls := hr
      moving := fun s hs hm => moving_of_recalls hk hr hs hm
      next := ?next
      refused_iff := ?refused_iff
      update_moving := ?update_moving
      accepted := ?accepted
      others := ?others
      refused := fun now g report ha => referee_of_refused ha }
  case next =>
    intro now report ha
    obtain ⟨pos, speed, arena, hacc⟩ := accepted_of_accepts ha
    have hnext := Session.lt_seq_of_check hacc.check_eq
    rw [lastSeq_session, moving_session] at hnext
    exact ⟨Session.seq_ne_zero_of_check hacc.check_eq, hnext⟩
  case refused_iff =>
    intro now report hpos hspeed hupdate
    obtain ⟨pos, hpos⟩ := Option.isSome_iff_exists.mp hpos
    obtain ⟨speed, hspeed⟩ := Option.isSome_iff_exists.mp hspeed
    rw [Referee.check_eq hpos hspeed, ← lastSeq_session b h pos, ← moving_session b h pos]
    apply Session.check_eq_sequence
    rintro seq target speed rfl
    exact (moving_session b h pos).trans (hupdate ⟨seq, target, speed, rfl⟩)
  case update_moving =>
    intro now seq target speed ha
    obtain ⟨pos, speed, arena, hacc⟩ := accepted_of_accepts ha
    exact (moving_session b h pos).symm.trans (Session.moving_of_check hacc.check_eq)
  case accepted =>
    intro now report ha
    have hs := session?_of_accepts ha h
    rw [if_pos rfl] at hs
    constructor
    · rw [lastSeq, hs]
      rfl
    · have hs' : (b.perform (.report now h report)).referee.sessions[h]? = some (.after report now) := hs
      rw [Referee.isMoving, hs']
      rfl
  case others =>
    intro now g report ha hne
    rw [session?_of_accepts ha, if_neg hne]

end Bout

end TileRealm
