import TileRealm.Mover
import TileRealm.Proofs.Movement.Check
import TileRealm.Proofs.Visibility.Owed

/-!
# Runs of a scene

- `Deed`, `perform`, `after`: what can be done to a scene, and the scene after a history of deeds, the latest first;
- `sent`, `news`: the deliveries that a deed adds to the outbox, and those made since an entity's latest join;
- `add_eq`, `remove_eq`, `move_cases`, `step_cases`: what an operation does, and that it does nothing if it fails;
- `report_of_check_error`, `report_of_check_ok`: the scene after a report, in full;
- `Effect`, `accounted`: all that a deed can do to the stage, with the deliveries that it makes.  Nothing else is known
  of reports and of movers in the proofs about what clients are told;
- `flush_spec`, `flush_flush`: what a flush tells and counts, and that a second one tells nothing.
-/

set_option autoImplicit false

namespace TileRealm

namespace Scene

/-! ## Deeds -/

/-- What can be done to a scene. -/
inductive Deed where
  | join (e : Entity)
  | leave (h : Handle)
  | move (h : Handle) (pos : Tile)
  | step (h : Handle) (pos : Tile) (speed : UInt32)
  | report (now : Nat) (h : Handle) (report : Report)
  /-- A mover acts once. -/
  | drive (m : Mover) (now : Nat)
  | sample (area : Option Area)
  | flush
  | drain
  | takeRefused

/-- The scene that a deed leaves behind, also if it fails. -/
def perform (s : Scene) : Deed → Scene
  | .join e => (s.add e).2
  | .leave h => (s.remove h).2
  | .move h pos => (s.move h pos).2
  | .step h pos speed => (s.step h pos speed).2
  | .report now h report => (s.report now h report).2
  | .drive m now => (m.tick s now).2.2
  | .sample area => (s.sample area).2
  | .flush => s.flush.2
  | .drain => s.drain.2
  | .takeRefused => s.takeRefused.2

/-- The scene after a history of deeds, the latest first. -/
def after (s : Scene) : List Deed → Scene
  | [] => s
  | d :: past => (after s past).perform d

/-- Whether a deed is the join of `r`, who is not there yet. -/
def admits (s : Scene) (r : Handle) : Deed → Bool
  | .join e => decide (e.handle = r) && !s.contains r
  | _ => false

/-- Whether a deed makes `g` leave, who is there. -/
def dismisses (s : Scene) (g : Handle) : Deed → Bool
  | .leave h => decide (h = g) && s.contains g
  | _ => false

/-! ## Deliveries -/

/-- The deliveries that a deed adds to the outbox. -/
def sent (s : Scene) (d : Deed) : List Delivery :=
  (s.perform d).outbox.toList.drop s.outbox.toList.length

/-- All deliveries made since the latest join of `r`. -/
def news (s : Scene) (r : Handle) : List Deed → List Delivery
  | [] => []
  | d :: past => if (s.after past).admits r d then [] else s.news r past ++ (s.after past).sent d

end Scene

/-- Whether an event tells everybody that `g` is at a place now. -/
def Event.Shows (g : Handle) (pos : Tile) : Event → Prop
  | .move h p _ _ => h = g ∧ p = pos
  | .stop h p _ => h = g ∧ p = pos
  | _ => False

/-- What everybody is told of an accepted report. -/
def Report.event (report : Report) (h : Handle) : Event :=
  if report.isFinish then .stop h report.target report.seq else .move h report.target report.speed report.seq

theorem Report.event_shows (report : Report) (h : Handle) : (report.event h).Shows h report.target := by
  unfold Report.event
  split <;> exact ⟨rfl, rfl⟩

namespace Scene

variable {s s' : Scene} {d : Deed}

/-! ## Effects -/

/-- The stage with an entity at another place. -/
def shifted (s : Scene) (e : Entity) (h : Handle) (pos : Tile) : Stage :=
  { s.stage with
    entities := s.stage.entities.insert h { e with pos := pos }
    visibility := s.stage.visibility.move h pos }

/-- The stage with one more entity. -/
def entered (s : Scene) (e : Entity) : Stage :=
  { s.stage with
    entities := s.stage.entities.insert e.handle { e with scene := some s.stage.id }
    visibility := s.stage.visibility.add e.handle e.pos }

/-- The stage with an entity less. -/
def left (s : Scene) (h : Handle) : Stage :=
  { s.stage with
    entities := s.stage.entities.erase h
    visibility := (s.stage.visibility.removeAndRefresh h).2 }

/-- The scene after a step that everybody is told of. -/
def strode (s : Scene) (e : Entity) (h : Handle) (pos : Tile) (speed : UInt32) : Scene :=
  { s with stage := s.shifted e h pos, outbox := s.outbox.broadcast (.move h pos speed 0) }

/-- The stage whose players were told of all net changes. -/
def informed (s : Scene) : Stage :=
  { s.stage with visibility := s.visibility.drain.2 }

/-- The deliveries that tell one of its net changes. -/
def tidingsFor (s : Scene) (h : Handle) (c : Changes) : List Delivery :=
  ((s.sightings c).1 ++ (s.sightings c).2).map fun event => ⟨s.outbox.scene, .entity h, event⟩

/-- The deliveries that tell all players of their net changes. -/
def tidings (s : Scene) : List Delivery :=
  (s.visibility.pending.filter (·.1.isRole)).flatMap fun p => s.tidingsFor p.1 p.2

/-- A deed that makes nobody join or leave and is no flush. -/
structure Plain (s : Scene) (d : Deed) : Prop where
  admits : ∀ r, s.admits r d = false
  dismisses : ∀ g, s.dismisses g d = false
  ne_flush : d ≠ .flush

/-- All that a deed can do to the stage, with the deliveries that it makes. -/
inductive Effect (s : Scene) : Deed → Stage → List Delivery → Prop
  | enter {e : Entity} : s.entity? e.handle = none → Effect s (.join e) (s.entered e) []
  | leave {h : Handle} {e : Entity} : s.entity? h = some e → Effect s (.leave h) (s.left h) []
  | shift {h : Handle} {pos : Tile} {e : Entity} : s.entity? h = some e →
      Effect s (.move h pos) (s.shifted e h pos) []
  /-- An entity gets to another place, and everybody is told. -/
  | announce {d : Deed} {h : Handle} {pos : Tile} {e : Entity} {event : Event} :
      s.Plain d → s.entity? h = some e → event.Shows h pos →
      Effect s d (s.shifted e h pos) [⟨s.outbox.scene, .scene, event⟩]
  /-- The client of an entity is told where the entity is. -/
  | resync {d : Deed} {h : Handle} {pos : Tile} {seq : UInt32} :
      s.Plain d → Effect s d s.stage [⟨s.outbox.scene, .entity h, .stop h pos seq⟩]
  | idle {d : Deed} : s.Plain d → Effect s d s.stage []
  | flush : Effect s .flush s.informed s.tidings

/-- A deed has one of the effects, and its deliveries are the last in the outbox unless it empties that. -/
structure Accounted (s : Scene) (d : Deed) : Prop where
  effect : Effect s d (s.perform d).stage (s.sent d)
  outbox : d = .drain ∨ (s.perform d).outbox.toList = s.outbox.toList ++ s.sent d

theorem Effect.accounted {st : Stage} {told : List Delivery} (he : Effect s d st told)
    (hstage : (s.perform d).stage = st) (htold : (s.perform d).outbox.toList = s.outbox.toList ++ told) :
    s.Accounted d := by
  have hsent : s.sent d = told := by rw [sent, htold, List.drop_left]
  subst hsent
  exact ⟨hstage ▸ he, Or.inr htold⟩

/-- A deed that leaves the outbox alone. -/
theorem Effect.quiet {st : Stage} (he : Effect s d st []) (hstage : (s.perform d).stage = st)
    (houtbox : (s.perform d).outbox = s.outbox) : s.Accounted d :=
  he.accounted hstage (by rw [houtbox, List.append_nil])

/-- A deed that adds one delivery to the outbox. -/
theorem Effect.push {st : Stage} {recipient : Recipient} {event : Event}
    (he : Effect s d st [⟨s.outbox.scene, recipient, event⟩]) (hstage : (s.perform d).stage = st)
    (houtbox : (s.perform d).outbox = s.outbox.push recipient event) : s.Accounted d :=
  he.accounted hstage (by rw [houtbox, Outbox.toList_push])

theorem contains_iff {h : Handle} : s.contains h = true ↔ ∃ e, s.entity? h = some e := by
  simp only [contains, entity?, Std.ExtTreeMap.contains_eq_isSome_getElem?, Option.isSome_iff_exists]

theorem contains_eq_false_iff {h : Handle} : s.contains h = false ↔ s.entity? h = none := by
  simp only [contains, entity?, Std.ExtTreeMap.contains_eq_isSome_getElem?, Option.isSome_eq_false_iff,
    Option.isNone_iff_eq_none]

/-! ### Operations -/

/-- Nobody enters twice. -/
theorem add_eq (s : Scene) (e : Entity) : s.add e =
    if s.contains e.handle then (.error (.alreadyThere e.handle), s)
    else (.ok (), { s with stage := s.entered e, referee := s.referee.bind e.handle e.pos }) := by
  unfold add Stage.enter contains
  by_cases hc : s.stage.entities.contains e.handle = true
  · rw [if_pos hc, if_pos hc]
  · rw [if_neg hc, if_neg hc]
    rfl

/-- Nobody leaves who is not there. -/
theorem remove_eq (s : Scene) (h : Handle) : s.remove h =
    match s.entity? h with
    | none => (.error (.unknown h), s)
    | some e => (.ok { e with scene := none }, { s with stage := s.left h, referee := s.referee.unbind h }) := by
  unfold remove Stage.leave
  rw [entity?]
  cases s.stage.entities[h]? <;> rfl

/-- Why an entity is not moved: the tile is looked at first. -/
def Immovable (s : Scene) (h : Handle) (pos : Tile) (reason : SceneError) : Prop :=
  if s.terrain.walkable pos then s.entity? h = none ∧ reason = .unknown h else reason = .notWalkable pos

theorem not_immovable {e : Entity} {h : Handle} {pos : Tile} {reason : SceneError} (he : s.entity? h = some e)
    (hwalk : s.terrain.walkable pos = true) : ¬s.Immovable h pos reason := by
  simp [Immovable, he, hwalk]

/-- An entity that is there is moved to a tile that can be walked on; otherwise nothing changes. -/
theorem stage_move_cases (s : Scene) (h : Handle) (pos : Tile) :
    (∃ e, s.entity? h = some e ∧ s.terrain.walkable pos = true ∧
      s.stage.move h pos = (.ok e.pos, s.shifted e h pos)) ∨
    ∃ reason, s.Immovable h pos reason ∧ s.stage.move h pos = (.error reason, s.stage) := by
  unfold Stage.move Immovable entity? terrain
  cases s.stage.terrain.walkable pos with
  | false => exact .inr ⟨_, rfl, rfl⟩
  | true =>
    cases s.stage.entities[h]? with
    | none => exact .inr ⟨_, ⟨rfl, rfl⟩, rfl⟩
    | some e => exact .inl ⟨e, rfl, rfl, rfl⟩

theorem move_cases (s : Scene) (h : Handle) (pos : Tile) :
    (∃ e, s.entity? h = some e ∧ s.terrain.walkable pos = true ∧
      s.move h pos = (.ok (), { s with stage := s.shifted e h pos })) ∨
    ∃ reason, s.Immovable h pos reason ∧ s.move h pos = (.error reason, s) := by
  rcases s.stage_move_cases h pos with ⟨e, he, hwalk, hm⟩ | ⟨reason, hreason, hm⟩
  · refine .inl ⟨e, he, hwalk, ?_⟩
    rw [move, hm]
    rfl
  · refine .inr ⟨reason, hreason, ?_⟩
    rw [move, hm]
    rfl

/-- A step that is made is a move that everybody is told of. -/
theorem step_cases (s : Scene) (h : Handle) (pos : Tile) (speed : UInt32) :
    (∃ e, s.entity? h = some e ∧ s.terrain.walkable pos = true ∧
      s.step h pos speed = (.ok (), s.strode e h pos speed)) ∨
    ∃ reason, s.Immovable h pos reason ∧ s.step h pos speed = (.error reason, s) := by
  rcases s.move_cases h pos with ⟨e, he, hwalk, hm⟩ | ⟨reason, hreason, hm⟩
  · refine .inl ⟨e, he, hwalk, ?_⟩
    rw [step, hm]
    rfl
  · refine .inr ⟨reason, hreason, ?_⟩
    rw [step, hm]

theorem perform_join (s : Scene) (e : Entity) : s.perform (.join e) =
    if s.contains e.handle then s
    else { s with stage := s.entered e, referee := s.referee.bind e.handle e.pos } := by
  rw [perform, add_eq]
  split <;> rfl

theorem perform_leave (s : Scene) (h : Handle) : s.perform (.leave h) =
    if s.contains h then { s with stage := s.left h, referee := s.referee.unbind h } else s := by
  rw [perform, remove_eq]
  cases he : s.entity? h with
  | none => rw [contains_eq_false_iff.mpr he, if_neg Bool.false_ne_true]
  | some e => rw [contains_iff.mpr ⟨e, he⟩, if_pos rfl]

theorem accounted_join (s : Scene) (e : Entity) : s.Accounted (.join e) := by
  have hp := perform_join s e
  cases hc : s.contains e.handle with
  | true =>
    rw [if_pos hc] at hp
    have hadmits : ∀ r, s.admits r (.join e) = false := by
      intro r
      simp only [admits, Bool.and_eq_false_imp, decide_eq_true_eq]
      rintro rfl
      rw [hc]
      rfl
    exact (Effect.idle ⟨hadmits, fun _ => rfl, nofun⟩).quiet (by rw [hp]) (by rw [hp])
  | false =>
    rw [hc, if_neg Bool.false_ne_true] at hp
    exact (Effect.enter (contains_eq_false_iff.mp hc)).quiet (by rw [hp]) (by rw [hp])

theorem accounted_leave (s : Scene) (h : Handle) : s.Accounted (.leave h) := by
  have hp := perform_leave s h
  cases hc : s.contains h with
  | false =>
    rw [hc, if_neg Bool.false_ne_true] at hp
    have hdismisses : ∀ g, s.dismisses g (.leave h) = false := by
      intro g
      simp only [dismisses, Bool.and_eq_false_imp, decide_eq_true_eq]
      rintro rfl
      exact hc
    exact (Effect.idle ⟨fun _ => rfl, hdismisses, nofun⟩).quiet (by rw [hp]) (by rw [hp])
  | true =>
    rw [if_pos hc] at hp
    obtain ⟨e, he⟩ := contains_iff.mp hc
    exact (Effect.leave he).quiet (by rw [hp]) (by rw [hp])

theorem accounted_move (s : Scene) (h : Handle) (pos : Tile) : s.Accounted (.move h pos) := by
  rcases s.move_cases h pos with ⟨e, he, -, hm⟩ | ⟨reason, -, hm⟩
  · exact (Effect.shift he).quiet (by rw [perform, hm]) (by rw [perform, hm])
  · have hplain : s.Plain (.move h pos) := ⟨fun _ => rfl, fun _ => rfl, nofun⟩
    exact (Effect.idle hplain).quiet (by rw [perform, hm]) (by rw [perform, hm])

theorem accounted_step (s : Scene) (h : Handle) (pos : Tile) (speed : UInt32) : s.Accounted (.step h pos speed) := by
  have hplain : s.Plain (.step h pos speed) := ⟨fun _ => rfl, fun _ => rfl, nofun⟩
  rcases s.step_cases h pos speed with ⟨e, he, -, hs⟩ | ⟨reason, -, hs⟩
  · have hshows : Event.Shows h pos (.move h pos speed 0) := ⟨rfl, rfl⟩
    exact (Effect.announce hplain he hshows).push (by rw [perform, hs]; rfl) (by rw [perform, hs]; rfl)
  · exact (Effect.idle hplain).quiet (by rw [perform, hs]) (by rw [perform, hs])

/-! ## Reports -/

section

variable {now : Nat} {h : Handle} {report : Report} {refusal : Refusal}

theorem announce_eq (s : Scene) (h : Handle) (report : Report) : s.announce h report = { s with
    outbox := s.outbox.broadcast (report.event h)
    feed := if report.isFinish ∧ h.isRole then (s.feed.send ⟨h, s.id, report.target⟩).2 else s.feed } := by
  unfold announce Report.event
  cases report.isFinish with
  | false => simp
  | true => cases h.isRole <;> simp [id]

theorem resync_eq (s : Scene) (h : Handle) (report : Report) : s.resync h report = { s with
    outbox := ((s.entity? h).map fun e => s.outbox.tell h (.stop h e.pos report.seq)).getD s.outbox
    refused := s.refused + 1 } := by
  have hentity : ({ s with refused := s.refused + 1 } : Scene).entity? h = s.entity? h := rfl
  unfold resync
  dsimp only
  rw [hentity]
  cases s.entity? h <;> rfl

/-- A refused report changes nothing but what its client is told, and is counted. -/
theorem report_of_check_error (hc : s.referee.check s.stage now h report = .error refusal) :
    s.report now h report = (.error refusal, s.resync h report) := by
  simp only [Scene.report, Referee.report, hc]

/-- The scene after the accepted report of an entity. -/
def granted (s : Scene) (e : Entity) (now : Nat) (h : Handle) (report : Report) : Scene := { s with
  stage := s.shifted e h report.target
  referee := { s.referee with sessions := s.referee.sessions.insert h (.after report now) }
  outbox := s.outbox.broadcast (report.event h)
  feed := if report.isFinish ∧ h.isRole then (s.feed.send ⟨h, s.id, report.target⟩).2 else s.feed }

/-- The stage never refuses to move an entity whose report has passed all tests. -/
theorem report_of_check_ok (hc : s.referee.check s.stage now h report = .ok ()) :
    ∃ e, s.entity? h = some e ∧ Arena.place s.stage h report.target = (.ok (), s.shifted e h report.target) ∧
      s.report now h report = (.ok report.acceptance, s.granted e now h report) := by
  obtain ⟨pos, speed, hpos, -, hcheck⟩ := Referee.check_eq_ok.mp hc
  obtain ⟨e, he, -⟩ := Option.map_eq_some_iff.mp hpos
  have hwalk : s.stage.terrain.walkable report.target = true := Session.walk_of_check hcheck
  have hm : s.stage.move h report.target = (.ok e.pos, s.shifted e h report.target) := by
    simp [Stage.move, hwalk, he, shifted]
  have hplace : Arena.place s.stage h report.target = (.ok (), s.shifted e h report.target) := by
    simp only [Arena.place, Stage.place, hm]
  refine ⟨e, he, hplace, ?_⟩
  simp only [Scene.report, Referee.report, hc, hplace, announce_eq]
  rfl

end

theorem accounted_report (s : Scene) (now : Nat) (h : Handle) (report : Report) :
    s.Accounted (.report now h report) := by
  have hplain : s.Plain (.report now h report) := ⟨fun _ => rfl, fun _ => rfl, nofun⟩
  cases hc : s.referee.check s.stage now h report with
  | error refusal =>
    have hp : s.perform (.report now h report) = s.resync h report := congrArg Prod.snd (report_of_check_error hc)
    rw [resync_eq] at hp
    cases he : s.entity? h with
    | none =>
      rw [he] at hp
      exact (Effect.idle hplain).quiet (by rw [hp]) (by rw [hp]; rfl)
    | some e =>
      rw [he] at hp
      exact (Effect.resync hplain).push (by rw [hp]) (by rw [hp]; rfl)
  | ok =>
    obtain ⟨e, he, -, hr⟩ := report_of_check_ok hc
    have hp : s.perform (.report now h report) = s.granted e now h report := congrArg Prod.snd hr
    exact (Effect.announce hplain he (report.event_shows h)).push (by rw [hp]; rfl) (by rw [hp]; rfl)

/-! ## Movers -/

/-- No step of an entity, or one. -/
inductive Strides (s : Scene) (h : Handle) : Scene → Prop
  | rest : Strides s h s
  | step {e : Entity} {pos : Tile} {speed : UInt32} : s.entity? h = some e → s.terrain.walkable pos = true →
      Strides s h (s.strode e h pos speed)

theorem strides_walk (m : Mover) (s : Scene) (now : Nat) (speed : UInt32) (next : Tile) :
    s.Strides m.handle (m.walk s now speed next).2.2 := by
  rcases s.step_cases m.handle next speed with ⟨e, he, hwalk, hs⟩ | ⟨reason, -, hs⟩
  · rw [Mover.walk, hs]
    exact .step he hwalk
  · rw [Mover.walk, hs]
    exact .rest

theorem strides_pursue (m : Mover) (s : Scene) (now : Nat) (speed : UInt32) (pos target : Tile) :
    s.Strides m.handle (m.pursue s now speed pos target).2.2 := by
  unfold Mover.pursue
  obtain ⟨next, follower⟩ := m.follower.next s.terrain.walkable s.limits (m.rules.algorithm m.mode) pos target
  cases next with
  | some next => exact strides_walk { m with follower := follower } s now speed next
  | none =>
    dsimp only
    split <;> exact .rest

/-- Looking for a target draws at most a tile. -/
theorem target_eq (m : Mover) (s : Scene) (pos : Tile) : ∃ patrol random,
    (m.target s pos).2 = ({ m with patrolTarget := patrol }, { s with random := random }) := by
  unfold Mover.target
  split
  · exact ⟨m.patrolTarget, s.random, rfl⟩
  · exact ⟨m.patrolTarget, s.random, rfl⟩
  · unfold Mover.patrolTo
    dsimp only
    split
    · exact ⟨m.patrolTarget, s.random, rfl⟩
    · exact ⟨_, _, rfl⟩

/-- A mover changes random numbers, and makes a step. -/
theorem strides_tick (m : Mover) (s : Scene) (now : Nat) :
    ∃ random, ({ s with random := random } : Scene).Strides m.handle (m.tick s now).2.2 := by
  unfold Mover.tick
  split
  · exact ⟨s.random, .rest⟩
  · rename_i e _
    dsimp only
    split
    · have henter : (m.enter (m.nextMode s e.pos)).handle = m.handle := by
        unfold Mover.enter
        split <;> rfl
      obtain ⟨patrol, random, htarget⟩ := target_eq (m.enter (m.nextMode s e.pos)) s e.pos
      refine ⟨random, ?_⟩
      unfold Mover.act
      dsimp only
      split
      · rename_i target m' t ht
        rw [ht] at htarget
        obtain ⟨rfl, rfl⟩ := Prod.mk.inj htarget
        rw [← henter]
        exact strides_pursue { m.enter (m.nextMode s e.pos) with patrolTarget := patrol } _ now _ e.pos target
      · rename_i m' t ht
        rw [ht] at htarget
        obtain ⟨rfl, rfl⟩ := Prod.mk.inj htarget
        exact .rest
    · exact ⟨s.random, .rest⟩

theorem accounted_drive (s : Scene) (m : Mover) (now : Nat) : s.Accounted (.drive m now) := by
  have hplain : s.Plain (.drive m now) := ⟨fun _ => rfl, fun _ => rfl, nofun⟩
  obtain ⟨random, ht⟩ := strides_tick m s now
  have hp : s.perform (.drive m now) = (m.tick s now).2.2 := rfl
  generalize (m.tick s now).2.2 = s' at ht hp
  cases ht with
  | rest => exact (Effect.idle hplain).quiet (by rw [hp]) (by rw [hp])
  | @step e pos speed he =>
    have hshows : Event.Shows m.handle pos (.move m.handle pos speed 0) := ⟨rfl, rfl⟩
    exact (Effect.announce hplain he hshows).push (by rw [hp]; rfl) (by rw [hp]; rfl)

/-! ## Flushes -/

end Scene

/-- Whether an event tells that an entity came into view. -/
def Event.appears : Event → Bool
  | .appear _ => true
  | _ => false

/-- Whether an event tells that an entity went out of view. -/
def Event.disappears : Event → Bool
  | .disappear _ => true
  | _ => false

theorem Outbox.foldl_tell (h : Handle) (events : List Event) (o : Outbox) :
    (events.foldl (fun o event => o.tell h event) o).scene = o.scene ∧
      (events.foldl (fun o event => o.tell h event) o).toList =
        o.toList ++ events.map fun event => ⟨o.scene, .entity h, event⟩ := by
  induction events generalizing o with
  | nil => exact ⟨rfl, by simp⟩
  | cons event events ih =>
    obtain ⟨hscene, hlist⟩ := ih (o.tell h event)
    refine ⟨hscene, ?_⟩
    rw [List.foldl_cons, hlist, tell, Outbox.toList_push, List.map_cons, List.append_assoc]
    rfl

namespace Scene

variable {s s' : Scene} {d : Deed}

/-- The first events of a player's tidings are those that tell who appeared, and the others tell who disappeared. -/
theorem count_tidingsFor (s : Scene) (h : Handle) (c : Changes) :
    (s.tidingsFor h c).countP (·.event.appears) = (s.sightings c).1.length ∧
      (s.tidingsFor h c).countP (·.event.disappears) = (s.sightings c).2.length := by
  have hfirst : ∀ event ∈ (s.sightings c).1, event.appears = true ∧ event.disappears = false := by
    intro event he
    obtain ⟨g, _, hg⟩ := List.mem_filterMap.mp he
    obtain ⟨e, _, rfl⟩ := Option.map_eq_some_iff.mp hg
    exact ⟨rfl, rfl⟩
  have hsecond : ∀ event ∈ (s.sightings c).2, event.appears = false ∧ event.disappears = true := by
    intro event he
    obtain ⟨g, _, rfl⟩ := List.mem_map.mp he
    exact ⟨rfl, rfl⟩
  simp only [tidingsFor, List.countP_map, Function.comp_def, List.countP_append]
  constructor
  · rw [List.countP_eq_length.mpr fun e he => (hfirst e he).1,
      List.countP_eq_zero.mpr fun e he => by simp [(hsecond e he).1], Nat.add_zero]
  · rw [List.countP_eq_length.mpr fun e he => (hsecond e he).2,
      List.countP_eq_zero.mpr fun e he => by simp [(hfirst e he).2], Nat.zero_add]

/-- Telling several of their net changes. -/
theorem foldl_inform (todo : List (Handle × Changes)) (count : FlushCount) (s : Scene) :
    let told := todo.flatMap fun p => s.tidingsFor p.1 p.2
    let done := todo.foldl (fun (count, s) (h, changes) => s.inform count h changes) (count, s)
    done.2.stage = s.stage ∧ done.2.outbox.toList = s.outbox.toList ++ told ∧
      done.1.appeared = count.appeared + told.countP (·.event.appears) ∧
      done.1.disappeared = count.disappeared + told.countP (·.event.disappears) := by
  induction todo generalizing count s with
  | nil => exact ⟨rfl, by simp, rfl, rfl⟩
  | cons p todo ih =>
    obtain ⟨h, c⟩ := p
    obtain ⟨hscene, hlist⟩ := Outbox.foldl_tell h ((s.sightings c).1 ++ (s.sightings c).2) s.outbox
    obtain ⟨happear, hdisappear⟩ := s.count_tidingsFor h c
    -- the tidings of the others are the same before and after
    have hsame : (s.inform count h c).2.tidingsFor = s.tidingsFor := by
      funext k c'
      simp only [tidingsFor, inform, hscene]
      rfl
    obtain ⟨hstage, houtbox, hcount, hcount'⟩ := ih (s.inform count h c).1 (s.inform count h c).2
    rw [hsame] at houtbox hcount hcount'
    simp only [List.flatMap_cons, List.countP_append, happear, hdisappear, ← Nat.add_assoc, ← List.append_assoc]
    refine ⟨hstage, ?_, hcount, hcount'⟩
    have : (s.inform count h c).2.outbox.toList = s.outbox.toList ++ s.tidingsFor h c := hlist
    rw [← this]
    exact houtbox

/-- A flush tells the players of their net changes, which are counted. -/
theorem flush_spec (s : Scene) :
    s.flush.2.stage = s.informed ∧ s.flush.2.outbox.toList = s.outbox.toList ++ s.tidings ∧
      s.flush.1 = ⟨s.tidings.countP (·.event.appears), s.tidings.countP (·.event.disappears)⟩ := by
  obtain ⟨hstage, houtbox, hcount, hcount'⟩ :=
    foldl_inform (s.visibility.pending.filter (·.1.isRole)) ⟨0, 0⟩ { s with stage := s.informed }
  rw [Nat.zero_add] at hcount hcount'
  exact ⟨hstage, houtbox, congr (congrArg FlushCount.mk hcount) hcount'⟩

/-- A second flush right after the first tells nobody anything. -/
theorem flush_flush (s : Scene) : s.flush.2.flush = (⟨0, 0⟩, s.flush.2) := by
  have hv : s.flush.2.visibility = s.visibility.drain.2 := congrArg Stage.visibility s.flush_spec.1
  have hdrain := Visibility.drain_drain s.visibility
  rw [← hv] at hdrain
  rw [flush, hdrain]
  rfl

/-! ## All deeds -/

/-- **Every deed has one of the effects.** -/
theorem accounted (s : Scene) (d : Deed) : s.Accounted d := by
  cases d with
  | join e => exact accounted_join s e
  | leave h => exact accounted_leave s h
  | move h pos => exact accounted_move s h pos
  | step h pos speed => exact accounted_step s h pos speed
  | report now h report => exact accounted_report s now h report
  | drive m now => exact accounted_drive s m now
  | sample area =>
    have hplain : s.Plain (.sample area) := ⟨fun _ => rfl, fun _ => rfl, nofun⟩
    exact (Effect.idle hplain).quiet rfl rfl
  | flush => exact Effect.flush.accounted s.flush_spec.1 s.flush_spec.2.1
  | drain =>
    have hsent : s.sent .drain = [] := List.drop_nil
    refine ⟨?_, Or.inl rfl⟩
    rw [hsent]
    exact .idle ⟨fun _ => rfl, fun _ => rfl, nofun⟩
  | takeRefused =>
    have hplain : s.Plain .takeRefused := ⟨fun _ => rfl, fun _ => rfl, nofun⟩
    exact (Effect.idle hplain).quiet rfl rfl

end Scene

end TileRealm
