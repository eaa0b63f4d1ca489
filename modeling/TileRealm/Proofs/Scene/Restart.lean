import TileRealm.Proofs.Scene.Answer
import TileRealm.Proofs.Scene.Bout

/-!
# Starting again

A client whose entity is somewhere else than it thought is told where, and starts again from there.  The start is
accepted unless the client reported from too far away too short a time ago.

- `Session.check_restart`: of all tests, the entity's own place can only fail the one for the way since a report;
- `Session.not_startLeg_lt_of_rest`, `Session.not_startLeg_lt_of_lastPos`: nor does it, where there is no way to make;
- `Restarts`, `restarts_after`: what the client is answered;
- `restart_refused`: one that follows what it was told, and is refused.
-/

set_option autoImplicit false

namespace TileRealm

namespace Session

variable {s : Session} {c : Survey} {seq speed : UInt32}

/-- A start at the entity's own place passes all tests but perhaps the last. -/
theorem check_restart (hseq : s.lastSeq < seq) (hspeed : ¬(speed = 0 ∨ c.cap < speed)) (hwalk : c.walk c.pos = true) :
    s.check c (.start seq c.pos c.pos speed) =
      Refusal.checkPace (s.startLeg c c.pos c.pos).1 (s.startLeg c c.pos c.pos).2 := by
  have hnew : ¬(seq = 0 ∨ seq < s.lastSeq ∨ seq = s.lastSeq ∧ false = false) := by
    rintro (rfl | hlt | ⟨rfl, -⟩)
    · exact UInt32.not_lt_zero hseq
    · exact UInt32.lt_irrefl _ (UInt32.lt_trans hlt hseq)
    · exact UInt32.lt_irrefl _ hseq
  have hnear : ¬c.rules.positionTolerance.toFloat < c.pos.distance c.pos := by
    rw [Tile.distance_self]
    exact c.rules.not_positionTolerance_lt_zero
  have h1 : Refusal.checkSeq seq s.lastSeq false = .ok () := Refusal.checkSeq_eq_ok.mpr hnew
  have h2 : Refusal.checkSpeed speed c.cap = .ok () := Refusal.checkSpeed_eq_ok.mpr hspeed
  have h3 : Refusal.checkOrigin c.rules c.pos c.pos = .ok () := Refusal.checkOrigin_eq_ok.mpr hnear
  have h4 : Refusal.checkWalkable c.walk c.pos = .ok () := Refusal.checkWalkable_eq_ok.mpr hwalk
  rw [check, h1, h2, h3, h4]
  rfl

theorem startLeg_of_recent {since : Nat} {origin target : Tile} (hr : s.recent c.rules c.now = some since) :
    s.startLeg c origin target = (s.lastPos.distance target, paceSince c since) := by
  rw [startLeg, hr]

theorem not_startLeg_lt_of_rest (hr : s.recent c.rules c.now = none) :
    ¬(s.startLeg c c.pos c.pos).2 < (s.startLeg c c.pos c.pos).1 := by
  simp only [startLeg, hr, Tile.distance_self]
  exact c.rules.not_budget_lt_zero _ _

theorem not_startLeg_lt_of_lastPos (hpos : s.lastPos = c.pos) :
    ¬(s.startLeg c c.pos c.pos).2 < (s.startLeg c c.pos c.pos).1 := by
  cases hr : s.recent c.rules c.now with
  | none => exact not_startLeg_lt_of_rest hr
  | some since =>
    rw [startLeg_of_recent hr, hpos, Tile.distance_self]
    exact c.rules.not_budget_lt_zero _ _

theorem recent_eq_none {rules : MoveRules} {now : Nat}
    (h : ∀ before, s.lastReport = some before → s.moving = false ∧ rules.startGrace ≤ now - before) :
    s.recent rules now = none := by
  cases hlast : s.lastReport with
  | none => simp [recent, since, hlast]
  | some before =>
    obtain ⟨hrest, hgrace⟩ := h before hlast
    simp [recent, since, hlast, hrest, hgrace]

theorem recent_eq_some {rules : MoveRules} {now before : Nat} (hlast : s.lastReport = some before)
    (h : s.moving = true ∨ now - before < rules.startGrace) : s.recent rules now = some (now - before) := by
  simpa [recent, since, hlast] using h

end Session

namespace Scene

variable {s : Scene} {e : Entity} {h : Handle} {seq speed : UInt32}

theorem report_restart (he : s.entity? h = some e) (hwalk : s.terrain.walkable e.pos = true) (now : Nat)
    (hseq : (s.referee.session h e.pos).lastSeq < seq)
    (hspeed : ¬(speed = 0 ∨ s.referee.rules.cap e.speed < speed)) :
    let leg := (s.referee.session h e.pos).startLeg (s.referee.surveyAt s.stage now e.pos e.speed) e.pos e.pos
    (s.report now h (.start seq e.pos e.pos speed)).1 =
      if leg.2 < leg.1 then .error (.tooFast leg.1 leg.2) else .ok ⟨e.pos, seq, speed⟩ := by
  intro leg
  have hposition : Arena.position s.stage h = some e.pos := congrArg (Option.map Entity.pos) he
  have hspeed' : Arena.speed s.stage h = some e.speed := congrArg (Option.map Entity.speed) he
  have hcheck : s.referee.check s.stage now h (.start seq e.pos e.pos speed) = Refusal.checkPace leg.1 leg.2 :=
    (Referee.check_eq hposition hspeed').trans (Session.check_restart hseq hspeed hwalk)
  unfold Refusal.checkPace at hcheck
  split
  · rename_i hlt
    rw [if_pos hlt] at hcheck
    exact congrArg Prod.fst (report_of_check_error hcheck)
  · rename_i hlt
    rw [if_neg hlt] at hcheck
    obtain ⟨_, -, -, hr⟩ := report_of_check_ok hcheck
    exact congrArg Prod.fst hr

/-- How a client is answered that starts again where its entity is. -/
structure Restarts (answer : Except Refusal Acceptance) (session : Session) (rules : MoveRules) (now : Nat) (e : Entity)
    (seq speed : UInt32) : Prop where
  /-- An entity at rest, of which nothing was accepted for the grace of a start, may start. -/
  rested : (∀ before, session.lastReport = some before → session.moving = false ∧ rules.startGrace ≤ now - before) →
    answer = .ok ⟨e.pos, seq, speed⟩
  /-- Otherwise the way from the place of the last accepted report has to fit into the time since. -/
  live : ∀ before, session.lastReport = some before → session.moving = true ∨ now - before < rules.startGrace →
    let distance := session.lastPos.distance e.pos
    let budget := rules.budget (rules.cap e.speed) (max (now - before) rules.minInterval)
    answer = if budget < distance then .error (.tooFast distance budget) else .ok ⟨e.pos, seq, speed⟩

theorem rules_after (setup : SceneSetup) (terrain : Terrain) (feed : PositionFeed) (past : List Deed) :
    ((empty setup terrain feed).after past).referee.rules = setup.rules := by
  have hrules := Bout.rules_after setup.rules (empty setup terrain feed).stage ((empty setup terrain feed).calls past)
  rw [← hrules]
  exact congrArg (·.referee.rules) (bout_after _ past)

/-- **A client starts again from where it is told that its entity is, unless the server has moved the entity further
than the time since the client's last accepted report allows.** -/
theorem restarts_after (setup : SceneSetup) (terrain : Terrain) (feed : PositionFeed) (past : List Deed) (now : Nat)
    (he : ((empty setup terrain feed).after past).entity? h = some e)
    (hwalk : ((empty setup terrain feed).after past).terrain.walkable e.pos = true)
    (hseq : (((empty setup terrain feed).after past).referee.session h e.pos).lastSeq < seq)
    (hspeed : 0 < speed) (hcap : speed ≤ setup.rules.cap e.speed) :
    let s := (empty setup terrain feed).after past
    let answer := (s.report now h (.start seq e.pos e.pos speed)).1
    Restarts answer (s.referee.session h e.pos) setup.rules now e seq speed ∧
      ((empty setup terrain feed).Unmoved h past → answer = .ok ⟨e.pos, seq, speed⟩) := by
  intro s answer
  have hrules : s.referee.rules = setup.rules := rules_after setup terrain feed past
  have hclaim : ¬(speed = 0 ∨ s.referee.rules.cap e.speed < speed) := by
    rw [hrules]
    rintro (rfl | hlt)
    · exact UInt32.lt_irrefl _ hspeed
    · exact UInt32.not_lt.mpr hcap hlt
  have hanswer : answer = _ := report_restart he hwalk now hseq hclaim
  rw [← hrules]
  refine ⟨⟨fun hrest => ?_, fun before hlast hlive => ?_⟩, fun hunmoved => ?_⟩
  · have hr := Session.recent_eq_none hrest
    rw [hanswer, if_neg (Session.not_startLeg_lt_of_rest hr)]
  · have hleg : (s.referee.session h e.pos).startLeg (s.referee.surveyAt s.stage now e.pos e.speed) e.pos e.pos =
        ((s.referee.session h e.pos).lastPos.distance e.pos,
          s.referee.rules.budget (s.referee.rules.cap e.speed) (max (now - before) s.referee.rules.minInterval)) :=
      Session.startLeg_of_recent (Session.recent_eq_some hlast hlive)
    rw [hleg] at hanswer
    exact hanswer
  · -- the session has the client where the entity is, so it has no way to make
    have hpos : (s.referee.session h e.pos).lastPos = e.pos := by
      rw [Referee.session_eq]
      cases hs : s.referee.sessions[h]? with
      | none => rfl
      | some session =>
        have hsync := synced_of_unmoved hunmoved session hs
        have hhere : Arena.position s.stage h = some e.pos := congrArg (Option.map Entity.pos) he
        exact Option.some.inj (hsync.symm.trans hhere)
    rw [hanswer, if_neg (Session.not_startLeg_lt_of_lastPos hpos)]

/-- The server moves a player 99 tiles away, who starts again from there when there is time enough for 130. -/
theorem restarts_after_move :
    let player := Handle.pack .role 0 1
    let first := empty {} ⟨128, 1, .bitmap #[0xFFFFFFFFFFFFFFFF, 0xFFFFFFFFFFFFFFFF]⟩ .disconnected
    let past : List Deed := [.move player ⟨100, 0⟩, .report 0 player (.start 1 ⟨0, 0⟩ ⟨1, 0⟩ 4),
      .join (.outside player "eve" ⟨0, 0⟩ 4)]
    let e : Entity := ⟨player, "eve", ⟨100, 0⟩, 4, some 1⟩
    (first.after past).entity? player = some e ∧
      ((first.after past).report 20000000000 player (.start 2 ⟨100, 0⟩ ⟨100, 0⟩ 4)).1 = .ok ⟨⟨100, 0⟩, 2, 4⟩ := by
  intro player first past e
  have he : (first.after past).entity? player = some e := by decide +kernel
  have hs : (first.after past).referee.sessions[player]? = some ⟨1, some 0, ⟨1, 0⟩, true⟩ := by decide +kernel
  have hsession : (first.after past).referee.session player e.pos = ⟨1, some 0, ⟨1, 0⟩, true⟩ := by
    rw [Referee.session_eq, hs, Option.getD_some]
  have hrestarts := (restarts_after {} ⟨128, 1, .bitmap #[0xFFFFFFFFFFFFFFFF, 0xFFFFFFFFFFFFFFFF]⟩ .disconnected past
    20000000000 he (by decide +kernel) (by rw [hsession]; decide : _ < (2 : UInt32)) (by decide : 0 < (4 : UInt32))
    (by decide)).1
  have hlive := hrestarts.live 0 (by rw [hsession]) (Or.inl (by rw [hsession]))
  have hpace : ¬({} : MoveRules).budget 4 20000000000 < Tile.distance ⟨1, 0⟩ ⟨100, 0⟩ := by decide +kernel
  rw [hsession] at hlive
  exact ⟨he, hlive.trans (if_neg hpace)⟩

/-- A client that was just accepted is told that the server has moved its entity 99 tiles away, starts again from there,
and is refused. -/
theorem restart_refused :
    let player := Handle.pack .role 0 1
    let first := empty {} ⟨128, 1, .bitmap #[0xFFFFFFFFFFFFFFFF, 0xFFFFFFFFFFFFFFFF]⟩ .disconnected
    let s := first.after [.report 100000000 player (.start 2 ⟨2, 0⟩ ⟨3, 0⟩ 4), .move player ⟨100, 0⟩,
      .report 0 player (.start 1 ⟨0, 0⟩ ⟨1, 0⟩ 4), .join (.outside player "eve" ⟨0, 0⟩ 4)]
    s.entity? player = some ⟨player, "eve", ⟨100, 0⟩, 4, some 1⟩ ∧ s.terrain.walkable ⟨100, 0⟩ = true ∧
      s.outbox.toList.getLast? = some ⟨1, .entity player, .stop player ⟨100, 0⟩ 2⟩ ∧
      (s.referee.session player ⟨100, 0⟩).lastSeq = 1 ∧ s.referee.rules.cap 4 = 4 ∧
      (s.report 100000000 player (.start 2 ⟨100, 0⟩ ⟨100, 0⟩ 4)).1.isOk = false := by
  decide +kernel

end Scene

end TileRealm
