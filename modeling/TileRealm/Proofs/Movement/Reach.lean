import TileRealm.Movement.Board
import TileRealm.Proofs.Float
import TileRealm.Proofs.Movement.Bout

/-!
# How far reports take entities

An entity that is moved by nobody but its client gets no further with each report than its speed and the rules allow.

- `Bout.Undisturbed`: an entity has been moved by its own accepted reports alone;
- `Bout.Synced`, `Bout.synced_after`: then the last place of its session is where it is;
- `Bout.Within`, `Bout.reach_after`: so the way of an accepted report is measured from there.
-/

set_option autoImplicit false

namespace TileRealm

/-! ## Ways and budgets of a session -/

namespace Session

variable {c : Survey} {report : Report} {before : Nat} {origin target : Tile}

/-- A start soon after a report is measured from where that report was made. -/
theorem startLeg_after : (after report before).startLeg c origin target =
    if report.isFinish = false ∨ c.now - before < c.rules.startGrace then
      (report.target.distance target, paceSince c (c.now - before))
    else (origin.distance target, c.rules.budget c.cap c.rules.startGrace) := by
  simp only [startLeg, recent, since, after, Option.map_some, Option.filter_some, Bool.or_eq_true, Bool.not_eq_true',
    decide_eq_true_eq]
  by_cases h : report.isFinish = false ∨ c.now - before < c.rules.startGrace
  · rw [if_pos h, if_pos h]
  · rw [if_neg h, if_neg h]

/-- An end is refused beyond the leap of the rules, and at rest also beyond the budget. -/
theorem not_finishLimit_after_lt {distance : Float} (h : ¬(after report before).finishLimit c < distance) :
    ¬c.rules.leap < distance ∧ (report.isFinish = true → ¬paceSince c (c.now - before) < distance) := by
  have hlimit : (after report before).finishLimit c =
      if !(!report.isFinish) ∧ paceSince c (c.now - before) < c.rules.leap then paceSince c (c.now - before)
      else c.rules.leap :=
    rfl
  rw [hlimit] at h
  by_cases hlow : !(!report.isFinish) ∧ paceSince c (c.now - before) < c.rules.leap
  · rw [if_pos hlow] at h
    exact ⟨fun hleap => h (Float.lt_trans hlow.2 hleap), fun _ => h⟩
  · rw [if_neg hlow] at h
    refine ⟨h, fun hend hpace => ?_⟩
    -- the leap is a number, so a way beyond the budget is beyond the leap or the budget below it
    rcases Float.lt_or_lt c.rules.isNaN_leap hpace with hlt | hlt
    · exact hlow ⟨by simpa using hend, hlt⟩
    · exact h hlt

end Session

namespace Bout

variable {σ : Type} [Arena σ] {b : Bout σ} {now : Nat} {g h : Handle} {report : Report}

/-! ## Undisturbed entities -/

/-- The report of `g` takes nobody but `g` to another place, and `g` to the reported one if the arena does not refuse. -/
def Carries (arena : σ) (h g : Handle) (report : Report) : Prop :=
  ∀ answer arena', Arena.place arena g report.target = (answer, arena') →
    Arena.position arena' h = if g = h ∧ answer.isOk = true then some report.target else Arena.position arena h

/-- Since the session of `h` was reset or its last report accepted, nothing else has moved `h`; and a session that
began, began where `h` was. -/
def Undisturbed (b : Bout σ) (h : Handle) : List (Call σ) → Prop
  | [] => True
  | .bind g pos :: past =>
    if g = h then Arena.position (b.after past).arena h = some pos else b.Undisturbed h past
  | .unbind g :: past => g = h ∨ b.Undisturbed h past
  | .report now g report :: past => Carries (b.after past).arena h g report ∧
    (g = h ∧ (b.after past).accepts now g report = true ∨ b.Undisturbed h past)
  | .change arena :: past => Arena.position arena h = Arena.position (b.after past).arena h ∧ b.Undisturbed h past

/-- The last place of a session is where its entity is. -/
def Synced (b : Bout σ) (h : Handle) : Prop :=
  ∀ s, b.session? h = some s → Arena.position b.arena h = some s.lastPos

theorem synced_of_accepts (hplace : Carries b.arena h h report) (ha : b.accepts now h report = true) :
    (b.perform (.report now h report)).Synced h := by
  intro s hs
  obtain ⟨pos, speed, arena, hacc⟩ := accepted_of_accepts ha
  rw [session?_of_accepts ha, if_pos rfl] at hs
  obtain rfl := Option.some.inj hs
  rw [hacc.perform_eq, hplace _ _ hacc.place_eq, if_pos ⟨rfl, rfl⟩]
  rfl

theorem synced_report (hsync : b.Synced h) (hplace : Carries b.arena h g report) :
    (b.perform (.report now g report)).Synced h := by
  intro s hs
  rcases b.report_cases now g report with ⟨ha, pos, speed, arena, hacc⟩ | ⟨ha, hp | ⟨refusal, arena, hrefused, hp⟩⟩
  · by_cases hg : g = h
    · subst hg
      exact synced_of_accepts hplace ha s hs
    · rw [session?_of_accepts ha, if_neg (Ne.symm hg)] at hs
      rw [hacc.perform_eq, hplace _ _ hacc.place_eq, if_neg fun hok => hg hok.1]
      exact hsync s hs
  · rw [hp] at hs ⊢
    exact hsync s hs
  · rw [hp] at hs ⊢
    rw [hplace _ _ hrefused, if_neg fun hok => nomatch hok.2]
    exact hsync s hs

/-- The session of an undisturbed entity knows where the entity is. -/
theorem synced_after (rules : MoveRules) (arena : σ) (h : Handle) (past : List (Call σ))
    (hu : (start rules arena).Undisturbed h past) : ((start rules arena).after past).Synced h := by
  induction past with
  | nil =>
    intro s hs
    simp [after, start, Referee.idle, session?] at hs
  | cons call past ih =>
    cases call with
    | bind g pos =>
      intro s hs
      simp only [after, perform, session?, Referee.bind, Roster.getElem?_insert] at hs
      rw [Undisturbed] at hu
      by_cases hg : g = h
      · rw [if_pos hg] at hu
        rw [if_pos hg.symm] at hs
        obtain rfl := Option.some.inj hs
        exact hu
      · rw [if_neg hg] at hu
        rw [if_neg (Ne.symm hg)] at hs
        exact ih hu s hs
    | unbind g =>
      intro s hs
      simp only [after, perform, session?, Referee.unbind, Roster.getElem?_erase] at hs
      by_cases hg : h = g
      · rw [if_pos hg] at hs
        cases hs
      · rw [if_neg hg] at hs
        exact ih (hu.resolve_left (Ne.symm hg)) s hs
    | report now g report =>
      -- what an accepted report says is stored on both sides, wherever the entity was before
      obtain ⟨hplace, ⟨rfl, ha⟩ | hu⟩ := hu
      · exact synced_of_accepts hplace ha
      · exact synced_report (ih hu) hplace
    | change arena' =>
      intro s hs
      exact hu.1.trans (ih hu.2 s hs)

/-! ## Accepted reports -/

/-- The first leg of a movement: the client starts near the entity, and goes as far as the grace of a start allows. -/
structure FirstLeg (rules : MoveRules) (cap : UInt32) (origin p q : Tile) : Prop where
  near : ¬rules.positionTolerance.toFloat < origin.distance p
  pace : ¬rules.budget cap rules.startGrace < origin.distance q

/-- The way from `p` to `q` fits into the time since a report, of which the least interval counts at least. -/
def InPace (rules : MoveRules) (cap : UInt32) (now before : Nat) (p q : Tile) : Prop :=
  ¬rules.budget cap (max (now - before) rules.minInterval) < p.distance q

/-- How far a report may take an entity from `p`, by the last accepted report before it. -/
def Within (rules : MoveRules) (cap : UInt32) (now : Nat) (p : Tile) : Report → List (Nat × Report) → Prop
  | .start _ origin q _, [] => FirstLeg rules cap origin p q
  | .start _ origin q _, (before, last) :: _ =>
    if last.isFinish = false ∨ now - before < rules.startGrace then InPace rules cap now before p q
    else FirstLeg rules cap origin p q
  | .update .., [] => False
  | .update _ q _, (before, last) :: _ => last.isFinish = false ∧ InPace rules cap now before p q
  | .finish _ q, [] => ¬rules.leap < p.distance q
  | .finish _ q, (before, last) :: _ =>
    ¬rules.leap < p.distance q ∧ (last.isFinish = true → InPace rules cap now before p q)

theorem within_fresh {rules : MoveRules} {cap : UInt32} {p : Tile} {walk : Tile → Bool}
    (hcheck : (Session.fresh p).check ⟨rules, walk, p, cap, now⟩ report = .ok ()) :
    Within rules cap now p report [] := by
  cases report with
  | start seq origin q speed =>
    obtain ⟨-, -, hnear, -, hpace⟩ := Session.check_start_eq_ok.mp hcheck
    exact ⟨hnear, hpace⟩
  | update seq q speed => cases (Session.check_update_eq_ok.mp hcheck).1
  | finish seq q => exact (Session.check_finish_eq_ok.mp hcheck).2.2

theorem within_recalled {rules : MoveRules} {cap : UInt32} {p : Tile} {walk : Tile → Bool} {before : Nat}
    {last : Report} {rest : List (Nat × Report)} (hp : last.target = p)
    (hcheck : (Session.after last before).check ⟨rules, walk, p, cap, now⟩ report = .ok ()) :
    Within rules cap now p report ((before, last) :: rest) := by
  subst hp
  cases report with
  | start seq origin q speed =>
    obtain ⟨-, -, hnear, -, hpace⟩ := Session.check_start_eq_ok.mp hcheck
    rw [Session.startLeg_after] at hpace
    rw [Within]
    split
    · rename_i hrecent
      rw [if_pos hrecent] at hpace
      exact hpace
    · rename_i hrecent
      rw [if_neg hrecent] at hpace
      exact ⟨hnear, hpace⟩
  | update seq q speed =>
    obtain ⟨hmoving, -, -, hpace, -⟩ := Session.check_update_eq_ok.mp hcheck
    exact ⟨by simpa [Session.after] using hmoving, hpace⟩
  | finish seq q =>
    obtain ⟨-, -, hlimit⟩ := Session.check_finish_eq_ok.mp hcheck
    obtain ⟨hleap, hpace⟩ := Session.not_finishLimit_after_lt hlimit
    exact ⟨hleap, hpace⟩

theorem rules_after (rules : MoveRules) (arena : σ) (past : List (Call σ)) :
    ((start rules arena).after past).referee.rules = rules := by
  induction past with
  | nil => rfl
  | cons call past ih =>
    cases call with
    | bind | unbind | change => exact ih
    | report now g report =>
      rcases ((start rules arena).after past).report_cases now g report with
        ⟨-, _, _, _, hacc⟩ | ⟨ha, -⟩
      · rw [after, hacc.perform_eq]
        exact ih
      · rw [after, referee_of_refused ha]
        exact ih

theorem within_of_check (hsync : b.Synced h) {kept : List (Nat × Report)} (hr : Recalls (b.session? h) kept)
    {p : Tile} {speed : UInt32} (hpos : Arena.position b.arena h = some p)
    (hcheck : (b.referee.session h p).check (b.referee.surveyAt b.arena now p speed) report = .ok ()) :
    Within b.referee.rules (b.referee.rules.cap speed) now p report kept := by
  rw [Referee.session_eq] at hcheck
  cases kept with
  | nil =>
    -- with a session or without, the client is taken to be where the entity is
    have hfresh : b.referee.sessions[h]?.getD (.fresh p) = .fresh p := by
      cases hs : b.referee.sessions[h]? with
      | none => rfl
      | some s =>
        have hlast : some s.lastPos = some p := (hsync s hs).symm.trans hpos
        rw [Option.getD_some, hr s hs, Option.some.inj hlast]
    rw [hfresh] at hcheck
    exact within_fresh hcheck
  | cons last rest =>
    have hs : b.referee.sessions[h]? = some (.after last.2 last.1) := hr
    have hlast : some last.2.target = some p := (hsync _ hs).symm.trans hpos
    rw [hs, Option.getD_some] at hcheck
    exact within_recalled (Option.some.inj hlast) hcheck

/-- What holds of an entity that is moved by nobody but its client, with the reports that were kept of it. -/
structure Reach (b : Bout σ) (h : Handle) (rules : MoveRules) (kept : List (Nat × Report)) : Prop where
  synced : b.Synced h
  /-- An accepted report takes the entity from where it is to the reported tile, which is within reach. -/
  accepted : ∀ now report, Carries b.arena h h report → b.accepts now h report = true → ∃ p speed,
    Arena.position b.arena h = some p ∧ Arena.speed b.arena h = some speed ∧
      Arena.position (b.perform (.report now h report)).arena h = some report.target ∧
        Within rules (rules.cap speed) now p report kept

/-- **Accepted reports keep undisturbed entities within their budgets.** -/
theorem reach_after (rules : MoveRules) (arena : σ) (h : Handle) (past : List (Call σ))
    (hu : (start rules arena).Undisturbed h past) :
    ((start rules arena).after past).Reach h rules ((start rules arena).kept h past) := by
  have hsync := synced_after rules arena h past hu
  refine ⟨hsync, fun now report hplace ha => ?_⟩
  obtain ⟨p, speed, arena', hacc⟩ := accepted_of_accepts ha
  refine ⟨p, speed, hacc.position_eq, hacc.speed_eq, ?_, ?_⟩
  · rw [hacc.perform_eq, hplace _ _ hacc.place_eq, if_pos ⟨rfl, rfl⟩]
  · have hwithin := within_of_check hsync (recalls_after rules arena h past) hacc.position_eq hacc.check_eq
    rw [rules_after] at hwithin
    exact hwithin

theorem carries_board (board : Board) (h g : Handle) (report : Report) : Carries board h g report := by
  intro answer arena' hplace
  have hplace' : board.place g report.target = (answer, arena') := hplace
  unfold Board.place at hplace'
  split at hplace'
  · cases hplace'
    rw [if_neg fun hok => nomatch hok.2]
  · cases hplace'
    rw [if_neg fun hok => nomatch hok.2]
  · cases hplace'
    have hpos : (board.places.insert g report.target)[h]? = if h = g then some report.target else board.places[h]? :=
      Roster.getElem?_insert
    by_cases hg : g = h
    · rw [if_pos ⟨hg, rfl⟩]
      exact hpos.trans (if_pos hg.symm)
    · rw [if_neg fun hok => hg hok.1]
      exact hpos.trans (if_neg (Ne.symm hg))

/-- An entity starts, comes to rest, and starts again at once, when 52 tiles are allowed. -/
theorem reach_after_restart :
    let walker : Handle := .pack .role 0 1
    let board : Board := { Board.bare ⟨64, 1, .bitmap #[0xFFFFFFFFFFFFFFFF]⟩ with
      places := (∅ : Roster Tile).insert walker ⟨0, 0⟩
      speeds := (∅ : Roster UInt32).insert walker 4 }
    let past : List (Call Board) := [.report 400000000 walker (.finish 1 ⟨3, 0⟩),
      .report 0 walker (.start 1 ⟨0, 0⟩ ⟨2, 0⟩ 4), .bind walker ⟨0, 0⟩]
    let kept := [(400000000, .finish 1 ⟨3, 0⟩), (0, .start 1 ⟨0, 0⟩ ⟨2, 0⟩ 4)]
    let b := (start {} board).after past
    (start {} board).Undisturbed walker past ∧ (start {} board).kept walker past = kept ∧ b.Reach walker {} kept ∧
      b.accepts 900000000 walker (.start 2 ⟨3, 0⟩ ⟨55, 0⟩ 4) = true ∧
        b.accepts 900000000 walker (.start 2 ⟨3, 0⟩ ⟨56, 0⟩ 4) = false := by
  intro walker board past kept b
  have hu : (start {} board).Undisturbed walker past :=
    ⟨carries_board _ _ _ _, Or.inl ⟨rfl, by decide +kernel⟩⟩
  have hkept : (start {} board).kept walker past = kept := by decide +kernel
  have hreach := reach_after {} board walker past hu
  rw [hkept] at hreach
  exact ⟨hu, hkept, hreach, by decide +kernel, by decide +kernel⟩

end Bout

end TileRealm
