import TileRealm.Proofs.Scene.Coherent

/-!
# Answers

What an operation on a scene leaves behind if it fails, and what a report changes if it is accepted.

- `add_eq_error_iff`, `remove_eq_error_iff`, `move_eq_error_iff`, `step_eq_error_iff`: when operations fail;
- `Granted`, `granted_spec`: what the accepted report of an entity changes;
- `replyTo`, `sent_report`, `length_replyTo`: the one message that a report brings about, if its entity is there;
- `Rest`, `rest_perform`: what is not about entities, and which deeds change it;
- `refusals`, `refused_after`: how many refusals are to be counted after a history;
- `Answers`, `answers_after`: this for every scene that a history can lead to.
-/

set_option autoImplicit false

namespace TileRealm

namespace Scene

variable {s : Scene} {e : Entity} {h : Handle} {pos : Tile} {speed : UInt32} {now : Nat} {report : Report}
  {reason : SceneError} {refusal : Refusal}

/-! ## Operations that fail -/

theorem add_eq_error_iff :
    (s.add e).1 = .error reason ↔ s.contains e.handle = true ∧ reason = .alreadyThere e.handle := by
  rw [add_eq]
  cases s.contains e.handle <;> simp [eq_comm]

theorem remove_eq_error_iff : (s.remove h).1 = .error reason ↔ s.entity? h = none ∧ reason = .unknown h := by
  rw [remove_eq]
  cases s.entity? h <;> simp [eq_comm]

theorem Immovable.unique {reason' : SceneError} (hr : s.Immovable h pos reason) (hr' : s.Immovable h pos reason') :
    reason = reason' := by
  unfold Immovable at hr hr'
  split at hr <;> simp_all

theorem move_eq_error_iff : (s.move h pos).1 = .error reason ↔ s.Immovable h pos reason := by
  rcases s.move_cases h pos with ⟨e, he, hwalk, hm⟩ | ⟨reason', hr', hm⟩ <;> rw [hm]
  · simp [not_immovable he hwalk]
  · simp only [Except.error.injEq]
    exact ⟨fun h => h ▸ hr', hr'.unique⟩

theorem step_eq_error_iff : (s.step h pos speed).1 = .error reason ↔ s.Immovable h pos reason := by
  rcases s.step_cases h pos speed with ⟨e, he, hwalk, hs⟩ | ⟨reason', hr', hs⟩ <;> rw [hs]
  · simp [not_immovable he hwalk]
  · simp only [Except.error.injEq]
    exact ⟨fun h => h ▸ hr', hr'.unique⟩

/-! ## Reports -/

/-- What an accepted report of `h` changes, and what stays. -/
structure Granted (s : Scene) (e : Entity) (now : Nat) (h : Handle) (report : Report) (s' : Scene) : Prop where
  entity : s'.entity? h = some { e with pos := report.target }
  position : s'.visibility.position h = some report.target
  session : s'.referee.sessions[h]? = some (.after report now)
  others : ∀ g, g ≠ h → s'.entity? g = s.entity? g ∧ s'.visibility.position g = s.visibility.position g ∧
    s'.referee.sessions[g]? = s.referee.sessions[g]?
  outbox : s'.outbox.toList = s.outbox.toList ++ [⟨s.outbox.scene, .scene, report.event h⟩]
  /-- One who listens gets the place where a player comes to rest, behind those that wait, and nothing else. -/
  feed : if report.isFinish ∧ h.isRole ∧ s.feed.isConnected then
      ∃ line line', s.feed.line = some line ∧ s'.feed.line = some line' ∧ line'.closed = false ∧
        line'.toList = line.toList ++ [⟨h, s.id, report.target⟩]
    else s'.feed = s.feed
  ground : s'.id = s.id ∧ s'.terrain = s.terrain ∧ s'.referee.rules = s.referee.rules
  rest : s'.random = s.random ∧ s'.refused = s.refused ∧ s'.limits = s.limits ∧ s'.spawnAttempts = s.spawnAttempts

theorem feed_granted (s : Scene) (e : Entity) (now : Nat) (h : Handle) (report : Report) :
    if report.isFinish ∧ h.isRole ∧ s.feed.isConnected then
      ∃ line line', s.feed.line = some line ∧ (s.granted e now h report).feed.line = some line' ∧
        line'.closed = false ∧ line'.toList = line.toList ++ [⟨h, s.id, report.target⟩]
    else (s.granted e now h report).feed = s.feed := by
  unfold granted
  dsimp only
  by_cases hrest : report.isFinish = true ∧ h.isRole = true
  · rw [if_pos hrest]
    cases hfeed : s.feed.isConnected with
    | true =>
      rw [if_pos ⟨hrest.1, hrest.2, rfl⟩]
      exact PositionFeed.line_send hfeed _
    | false =>
      rw [if_neg fun hall => Bool.false_ne_true hall.2.2, PositionFeed.send_eq_of_not_connected hfeed]
  · rw [if_neg hrest, if_neg fun hall => hrest ⟨hall.1, hall.2.1⟩]

theorem granted_spec {size : UInt32} (hs : s.stage.Coherent size) (he : s.entity? h = some e) :
    s.Granted e now h report (s.granted e now h report) := by
  have hentity : ∀ g, (s.granted e now h report).entity? g =
      if g = h then some { e with pos := report.target } else s.entity? g := fun g => Roster.getElem?_insert
  have hsession : ∀ g, (s.granted e now h report).referee.sessions[g]? =
      if g = h then some (.after report now) else s.referee.sessions[g]? := fun g => Roster.getElem?_insert
  have hposition : ∀ g, (s.granted e now h report).visibility.position g =
      ((s.granted e now h report).entity? g).map (·.pos) := (coherent_shifted hs he report.target).position_eq
  have hhere : (s.granted e now h report).entity? h = some { e with pos := report.target } := by
    rw [hentity, if_pos rfl]
  refine
    { entity := hhere
      position := by rw [hposition, hhere, Option.map_some]
      session := by rw [hsession, if_pos rfl]
      others := ?others
      outbox := Outbox.toList_push _ _ _
      feed := s.feed_granted e now h report
      ground := ⟨rfl, rfl, rfl⟩
      rest := ⟨rfl, rfl, rfl, rfl⟩ }
  case others =>
    intro g hg
    have hthere : (s.granted e now h report).entity? g = s.entity? g := by rw [hentity, if_neg hg]
    refine ⟨hthere, ?_, by rw [hsession, if_neg hg]⟩
    rw [hposition, hthere]
    exact (hs.position_eq g).symm

/-- What is sent in reply to a report: everybody is told if it is accepted, and else its client, if its entity is
there. -/
def replyTo (s : Scene) (now : Nat) (h : Handle) (report : Report) : List Delivery :=
  match (s.report now h report).1 with
  | .ok _ => [⟨s.outbox.scene, .scene, report.event h⟩]
  | .error _ => ((s.entity? h).map fun e => ⟨s.outbox.scene, .entity h, .stop h e.pos report.seq⟩).toList

theorem outbox_report (s : Scene) (now : Nat) (h : Handle) (report : Report) :
    (s.report now h report).2.outbox.toList = s.outbox.toList ++ s.replyTo now h report := by
  unfold replyTo
  cases hc : s.referee.check s.stage now h report with
  | error =>
    rw [report_of_check_error hc, resync_eq]
    cases s.entity? h with
    | none => exact (List.append_nil _).symm
    | some e => exact Outbox.toList_push _ _ _
  | ok =>
    obtain ⟨e, -, -, hr⟩ := report_of_check_ok hc
    rw [hr]
    exact Outbox.toList_push _ _ _

theorem sent_report (s : Scene) (now : Nat) (h : Handle) (report : Report) :
    s.sent (.report now h report) = s.replyTo now h report := by
  rw [sent, perform, outbox_report, List.drop_left]

theorem refused_report (s : Scene) (now : Nat) (h : Handle) (report : Report) :
    (s.report now h report).2.refused = s.refused + if !(s.report now h report).1.isOk then 1 else 0 := by
  cases hc : s.referee.check s.stage now h report with
  | error => simp [report_of_check_error hc, resync_eq, Except.isOk, Except.toBool]
  | ok =>
    obtain ⟨e, -, -, hr⟩ := report_of_check_ok hc
    simp [hr, granted, Except.isOk, Except.toBool]

/-- There is one message in reply to a report, unless its entity is not there. -/
theorem length_replyTo (s : Scene) (now : Nat) (h : Handle) (report : Report) :
    (s.replyTo now h report).length = if s.contains h then 1 else 0 := by
  unfold replyTo
  cases hc : s.referee.check s.stage now h report with
  | error =>
    rw [report_of_check_error hc]
    cases he : s.entity? h with
    | none => simp [contains_eq_false_iff.mpr he]
    | some e => simp [contains_iff.mpr ⟨e, he⟩]
  | ok =>
    obtain ⟨e, he, -, hr⟩ := report_of_check_ok hc
    rw [hr, if_pos (contains_iff.mpr ⟨e, he⟩)]
    rfl

/-! ## What deeds leave alone -/

/-- A flush changes the stage and the outbox. -/
theorem flush_eq (s : Scene) : ∃ outbox, s.flush.2 = { s with stage := s.informed, outbox := outbox } := by
  let Told (p : FlushCount × Scene) : Prop := ∃ outbox, p.2 = { s with stage := s.informed, outbox := outbox }
  have hinform : ∀ p : FlushCount × Scene, Told p → ∀ q : Handle × Changes, Told (p.2.inform p.1 q.1 q.2) := by
    rintro ⟨count, _⟩ ⟨outbox, rfl⟩ ⟨h, c⟩
    exact ⟨_, rfl⟩
  have hstart : Told (⟨0, 0⟩, { s with stage := s.informed }) := ⟨s.outbox, rfl⟩
  exact List.foldlRecOn (motive := Told) (s.visibility.pending.filter (·.1.isRole))
    (fun p q => p.2.inform p.1 q.1 q.2) hstart fun p hp q _ => hinform p hp q

/-- Limits stay, random numbers are drawn by movers and samples only, and refusals are counted by reports, until they
are taken. -/
structure Rest (s : Scene) (d : Deed) : Prop where
  limits : (s.perform d).limits = s.limits ∧ (s.perform d).spawnAttempts = s.spawnAttempts
  random : (∀ m now, d ≠ .drive m now) → (∀ area, d ≠ .sample area) → (s.perform d).random = s.random
  refused : (∀ now h report, d ≠ .report now h report) → d ≠ .takeRefused → (s.perform d).refused = s.refused

theorem rest_perform (s : Scene) (d : Deed) : s.Rest d := by
  cases d with
  | join e =>
    constructor <;> rw [perform_join] <;> split <;> simp
  | leave h =>
    constructor <;> rw [perform_leave] <;> split <;> simp
  | move h pos =>
    rcases s.move_cases h pos with ⟨_, -, -, hm⟩ | ⟨_, -, hm⟩ <;> constructor <;> simp [perform, hm]
  | step h pos speed =>
    rcases s.step_cases h pos speed with ⟨_, -, -, hs⟩ | ⟨_, -, hs⟩ <;> constructor <;> simp [perform, hs, strode]
  | report now h report =>
    have hlimits : (s.perform (.report now h report)).limits = s.limits ∧
        (s.perform (.report now h report)).spawnAttempts = s.spawnAttempts ∧
        (s.perform (.report now h report)).random = s.random := by
      cases hc : s.referee.check s.stage now h report with
      | error => simp [perform, report_of_check_error hc, resync_eq]
      | ok =>
        obtain ⟨e, -, -, hr⟩ := report_of_check_ok hc
        simp [perform, hr, granted]
    exact ⟨⟨hlimits.1, hlimits.2.1⟩, fun _ _ => hlimits.2.2, fun hd => absurd rfl (hd now h report)⟩
  | drive m now =>
    obtain ⟨random, hstrides⟩ := strides_tick m s now
    have hrest : (m.tick s now).2.2.limits = s.limits ∧ (m.tick s now).2.2.spawnAttempts = s.spawnAttempts ∧
        (m.tick s now).2.2.refused = s.refused := by
      generalize (m.tick s now).2.2 = t at hstrides ⊢
      cases hstrides <;> exact ⟨rfl, rfl, rfl⟩
    exact ⟨⟨hrest.1, hrest.2.1⟩, fun hd => absurd rfl (hd m now), fun _ _ => hrest.2.2⟩
  | sample area => exact ⟨⟨rfl, rfl⟩, fun _ hd => absurd rfl (hd area), fun _ _ => rfl⟩
  | flush =>
    obtain ⟨outbox, hflush⟩ := s.flush_eq
    constructor <;> rw [perform, hflush] <;> simp
  | drain => exact ⟨⟨rfl, rfl⟩, fun _ _ => rfl, fun _ _ => rfl⟩
  | takeRefused => exact ⟨⟨rfl, rfl⟩, fun _ _ => rfl, fun _ hd => absurd rfl hd⟩

/-- One more or not, as a machine number. -/
theorem ofNat_add_ite (n : Nat) (b : Bool) : UInt64.ofNat (n + if b then 1 else 0) = .ofNat n + if b then 1 else 0 := by
  cases b
  · exact (UInt64.add_zero _).symm
  · exact UInt64.ofNat_add n 1

/-- How many refused reports of a history are not taken yet. -/
def refusals (s : Scene) : List Deed → Nat
  | [] => s.refused.toNat
  | .takeRefused :: _ => 0
  | .report now h report :: past =>
    s.refusals past + if !((s.after past).report now h report).1.isOk then 1 else 0
  | .join _ :: past | .leave _ :: past | .move _ _ :: past | .step _ _ _ :: past | .drive _ _ :: past
  | .sample _ :: past | .flush :: past | .drain :: past => s.refusals past

/-- The refusals are counted in a machine number. -/
theorem refused_after (s : Scene) (past : List Deed) : (s.after past).refused = .ofNat (s.refusals past) := by
  induction past with
  | nil => exact UInt64.ofNat_toNat.symm
  | cons d past ih =>
    cases d with
    | takeRefused => rfl
    | report now h report =>
      rw [refusals, ofNat_add_ite, ← ih]
      exact refused_report _ now h report
    | join | leave | move | step | drive | sample | flush | drain =>
      rw [refusals, ← ih]
      exact (rest_perform _ _).refused nofun nofun

/-! ## All operations -/

/-- What a scene does with operations that fail, and with reports. -/
structure Answers (s : Scene) : Prop where
  /-- Nobody enters twice. -/
  join : ∀ e reason,
    ((s.add e).1 = .error reason ↔ s.contains e.handle = true ∧ reason = .alreadyThere e.handle) ∧
      ((s.add e).1 = .error reason → (s.add e).2 = s)
  /-- Nobody leaves who is not there. -/
  leave : ∀ h reason,
    ((s.remove h).1 = .error reason ↔ s.entity? h = none ∧ reason = .unknown h) ∧
      ((s.remove h).1 = .error reason → (s.remove h).2 = s)
  move : ∀ h pos reason,
    ((s.move h pos).1 = .error reason ↔ s.Immovable h pos reason) ∧
      ((s.move h pos).1 = .error reason → (s.move h pos).2 = s)
  step : ∀ h pos speed reason,
    ((s.step h pos speed).1 = .error reason ↔ s.Immovable h pos reason) ∧
      ((s.step h pos speed).1 = .error reason → (s.step h pos speed).2 = s)
  /-- After a refused report the client is told where its entity is, if it is there, and nothing else changes. -/
  refused : ∀ now h report refusal, (s.report now h report).1 = .error refusal →
    (s.report now h report).2 = { s with
      outbox := ((s.entity? h).map fun e => s.outbox.tell h (.stop h e.pos report.seq)).getD s.outbox
      refused := s.refused + 1 }
  accepted : ∀ now h report acceptance, (s.report now h report).1 = .ok acceptance →
    acceptance = report.acceptance ∧
      ∃ e, s.entity? h = some e ∧ s.Granted e now h report (s.report now h report).2
  /-- The tests of the referee decide alone. -/
  placed : ∀ now h report, s.referee.check s.stage now h report = .ok () →
    ∃ st, Arena.place s.stage h report.target = (.ok (), st) ∧ (s.report now h report).1 = .ok report.acceptance
  unplaced : ∀ now h report refusal, s.referee.check s.stage now h report = .error refusal →
    (s.report now h report).1 = .error refusal

theorem answers_of_coherent {size : UInt32} (hs : s.stage.Coherent size) : s.Answers := by
  refine
    { join := fun e reason => ⟨add_eq_error_iff, fun hr => ?join⟩
      leave := fun h reason => ⟨remove_eq_error_iff, fun hr => ?leave⟩
      move := fun h pos reason => ⟨move_eq_error_iff, fun hr => ?move⟩
      step := fun h pos speed reason => ⟨step_eq_error_iff, fun hr => ?step⟩
      refused := ?refused
      accepted := ?accepted
      placed := ?placed
      unplaced := fun now h report refusal hc => congrArg Prod.fst (report_of_check_error hc) }
  case join =>
    rw [add_eq] at hr ⊢
    split at hr
    · rename_i hc
      rw [if_pos hc]
    · cases hr
  case leave =>
    rw [remove_eq, (remove_eq_error_iff.mp hr).1]
  case move =>
    rcases s.move_cases h pos with ⟨_, -, -, hm⟩ | ⟨_, -, hm⟩ <;> rw [hm] at hr ⊢
    cases hr
  case step =>
    rcases s.step_cases h pos speed with ⟨_, -, -, hs⟩ | ⟨_, -, hs⟩ <;> rw [hs] at hr ⊢
    cases hr
  case refused =>
    intro now h report refusal hr
    cases hc : s.referee.check s.stage now h report with
    | error => rw [report_of_check_error hc, resync_eq]
    | ok =>
      obtain ⟨e, -, -, hr'⟩ := report_of_check_ok hc
      rw [hr'] at hr
      cases hr
  case accepted =>
    intro now h report acceptance hr
    cases hc : s.referee.check s.stage now h report with
    | error =>
      rw [report_of_check_error hc] at hr
      cases hr
    | ok =>
      obtain ⟨e, he, -, hr'⟩ := report_of_check_ok hc
      rw [hr'] at hr ⊢
      cases hr
      exact ⟨rfl, e, he, granted_spec hs he⟩
  case placed =>
    intro now h report hc
    obtain ⟨e, -, hplace, hr⟩ := report_of_check_ok hc
    exact ⟨_, hplace, congrArg Prod.fst hr⟩

/-- **In every scene, an operation that fails is without effect, a refused report moves nobody, and an accepted one
moves its entity alone**, whatever became of the feed in the meantime. -/
theorem answers_after (setup : SceneSetup) (terrain : Terrain) (feed : PositionFeed) (past : List Deed)
    (line : PositionFeed) : ({ (empty setup terrain feed).after past with feed := line } : Scene).Answers :=
  answers_of_coherent (coherent_after setup terrain feed past)

end Scene

end TileRealm
