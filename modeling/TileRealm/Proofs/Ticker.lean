import TileRealm.Proofs.Scene.Replica
import TileRealm.Ticker

/-!
# Runs of a ticker

A run is a series of beats, in each of which commands come in and the ticker ticks.

- `after`: the ticker after a run, the latest beat first;
- `ledger`, `scene_after`: a run is a history of deeds on the scene, each tick ending with a flush;
- `batch`, `batches`: what ticks hand on; all deliveries of the deeds are handed on (`outbound_after`,
  `flatten_batches`);
- `replica_after`: the places that the clients of players have after a run.  They are right, except for those who left
  and joined again without a word.
-/

set_option autoImplicit false

namespace TileRealm

/-! ## Histories of a scene -/

namespace Scene

variable {s : Scene} {d : Deed}

theorem after_append (s : Scene) (later earlier : List Deed) :
    s.after (later ++ earlier) = (s.after earlier).after later := by
  induction later with
  | nil => rfl
  | cons d later ih => rw [List.cons_append, after, after, ih]

theorem after_reverse (s : Scene) (deeds : List Deed) : s.after deeds.reverse = deeds.foldl perform s := by
  induction deeds generalizing s with
  | nil => rfl
  | cons d deeds ih =>
    rw [List.reverse_cons, after_append, ih]
    rfl

/-- All deliveries of a history, the oldest first. -/
def deliveries (s : Scene) : List Deed → List Delivery
  | [] => []
  | d :: past => s.deliveries past ++ (s.after past).sent d

theorem deliveries_append (s : Scene) (later earlier : List Deed) :
    s.deliveries (later ++ earlier) = s.deliveries earlier ++ (s.after earlier).deliveries later := by
  induction later with
  | nil => rw [List.nil_append, deliveries, List.append_nil]
  | cons d later ih => rw [List.cons_append, deliveries, ih, deliveries, after_append, List.append_assoc]

/-- Unless it is emptied, the outbox keeps all deliveries. -/
theorem outbox_after {past : List Deed} (hd : .drain ∉ past) :
    (s.after past).outbox.toList = s.outbox.toList ++ s.deliveries past := by
  induction past with
  | nil => rw [deliveries, List.append_nil, after]
  | cons d past ih =>
    rcases ((s.after past).accounted d).outbox with rfl | hout
    · exact absurd List.mem_cons_self hd
    · rw [after, hout, ih fun hm => hd (List.mem_cons_of_mem d hm), deliveries, List.append_assoc]

end Scene

/-! ## Beats -/

/-- What a command does to the scene; a mover that is handed over does nothing yet. -/
def Command.deeds (now : Nat) : Command → List Scene.Deed
  | .join e => [.join e]
  | .leave h => [.leave h]
  | .report h r => [.report now h r]
  | .attach _ => []

namespace Ticker

variable {t : Ticker} {b : Beat}

/-- The ticker after a run, the latest beat first. -/
def after (t : Ticker) : List Beat → Ticker
  | [] => t
  | b :: past => (t.after past).beat b

/-- The ticker once it obeyed the commands in its mailbox. -/
def obeyed (t : Ticker) (now : Nat) : Ticker :=
  t.mailbox.drain.1.foldl (obey now) { t with mailbox := t.mailbox.drain.2 }

/-- What commands and movers do in a tick, the latest deed first. -/
def work (t : Ticker) (now : Nat) : List Scene.Deed :=
  (t.mailbox.toList.flatMap (Command.deeds now) ++ (t.obeyed now).movers.values.map (Scene.Deed.drive · now)).reverse

/-- What happens to the scene in a tick, the latest deed first. -/
def deeds (t : Ticker) (now : Nat) : List Scene.Deed :=
  [.takeRefused, .drain, .flush] ++ t.work now

/-- What happens to the scene in a run, the latest deed first. -/
def ledger (t : Ticker) : List Beat → List Scene.Deed
  | [] => []
  | b :: past => ((t.after past).mail b.commands).deeds b.now ++ t.ledger past

/-! ## A run is a history of the scene -/

theorem scene_obey (now : Nat) (t : Ticker) (c : Command) :
    (obey now t c).scene = (c.deeds now).foldl Scene.perform t.scene := by
  cases c with
  | join | leave | report => rfl
  | attach m =>
    unfold obey
    dsimp only
    split <;> rfl

theorem scene_foldl_obey (now : Nat) (commands : List Command) (t : Ticker) :
    (commands.foldl (obey now) t).scene = (commands.flatMap (Command.deeds now)).foldl Scene.perform t.scene := by
  induction commands generalizing t with
  | nil => rfl
  | cons c commands ih => rw [List.foldl_cons, ih, scene_obey, List.flatMap_cons, List.foldl_append]

theorem scene_foldl_drive (now : Nat) (movers : List Mover) (t : Ticker) :
    (movers.foldl (drive now) t).scene = (movers.map (Scene.Deed.drive · now)).foldl Scene.perform t.scene := by
  induction movers generalizing t with
  | nil => rfl
  | cons m movers ih =>
    rw [List.foldl_cons, ih]
    rfl

/-- The ticker after commands and movers did their work. -/
def worked (t : Ticker) (now : Nat) : Ticker :=
  (t.obeyed now).movers.values.foldl (drive now) (t.obeyed now)

theorem scene_worked (t : Ticker) (now : Nat) : (t.worked now).scene = t.scene.after (t.work now) := by
  rw [worked, scene_foldl_drive, obeyed, scene_foldl_obey, work, Scene.after_reverse, List.foldl_append]
  rfl

/-- Handing a batch on changes nothing but the way out. -/
theorem post_eq (t : Ticker) (batch : List Delivery) : t.post batch = { t with
    outbound := if batch.isEmpty then t.outbound else t.outbound.map (·.send batch) } := by
  unfold post
  split <;> rfl

theorem scene_step (t : Ticker) (now : Nat) : (t.step now).2.scene = t.scene.after (t.deeds now) := by
  rw [deeds, Scene.after_append, ← scene_worked]
  exact congrArg scene (post_eq _ _)

/-- The scene after a run is the scene after the history of the run. -/
theorem scene_after (t : Ticker) (beats : List Beat) : (t.after beats).scene = t.scene.after (t.ledger beats) := by
  induction beats with
  | nil => rfl
  | cons b beats ih =>
    rw [after, beat, scene_step, ledger, Scene.after_append, ← ih]
    rfl

/-! ## Deliveries -/

theorem mem_work {now : Nat} {d : Scene.Deed} (hd : d ∈ t.work now) :
    (∃ e, d = .join e) ∨ (∃ h, d = .leave h) ∨ (∃ h report, d = .report now h report) ∨ ∃ m, d = .drive m now := by
  rw [work, List.mem_reverse, List.mem_append, List.mem_flatMap, List.mem_map] at hd
  rcases hd with ⟨c, _, hd⟩ | ⟨m, _, rfl⟩
  · cases c <;> simp_all [Command.deeds]
  · exact Or.inr (Or.inr (Or.inr ⟨m, rfl⟩))

theorem leave_mem_work {now : Nat} {h : Handle} (hm : .leave h ∈ t.work now) : .leave h ∈ t.mailbox.toList := by
  rw [work, List.mem_reverse, List.mem_append, List.mem_flatMap, List.mem_map] at hm
  rcases hm with ⟨c, hc, hm⟩ | ⟨m, _, hm⟩
  · cases c with
    | leave h' =>
      obtain rfl : h = h' := by simpa [Command.deeds] using hm
      exact hc
    | join | report | attach => simp [Command.deeds] at hm
  · cases hm

/-- In a run nothing is moved without a word. -/
theorem ledger_loud (t : Ticker) (beats : List Beat) (h : Handle) (pos : Tile) : .move h pos ∉ t.ledger beats := by
  induction beats with
  | nil => exact List.not_mem_nil
  | cons b beats ih =>
    intro hm
    rw [ledger, List.mem_append, deeds, List.mem_append] at hm
    rcases hm with (hm | hm) | hm
    · simp at hm
    · rcases mem_work hm with ⟨_, hd⟩ | ⟨_, hd⟩ | ⟨_, _, hd⟩ | ⟨_, hd⟩ <;> cases hd
    · exact ih hm

/-- Commands and movers change neither the mailbox nor the way out, and make no tick. -/
theorem worked_channels (t : Ticker) (now : Nat) : (t.worked now).mailbox = t.mailbox.drain.2 ∧
    (t.worked now).outbound = t.outbound ∧ (t.worked now).current = t.current := by
  have hobey : ∀ (u : Ticker) (c : Command), (obey now u c).mailbox = u.mailbox ∧
      (obey now u c).outbound = u.outbound ∧ (obey now u c).current = u.current := by
    intro u c
    cases c with
    | join | leave | report => exact ⟨rfl, rfl, rfl⟩
    | attach =>
      unfold obey
      dsimp only
      split <;> exact ⟨rfl, rfl, rfl⟩
  let Same (u : Ticker) : Prop :=
    u.mailbox = t.mailbox.drain.2 ∧ u.outbound = t.outbound ∧ u.current = t.current
  have hobeyed : Same (t.obeyed now) :=
    List.foldlRecOn (motive := Same) t.mailbox.drain.1 (obey now) ⟨rfl, rfl, rfl⟩ fun u hu c _ =>
      ⟨(hobey u c).1.trans hu.1, (hobey u c).2.1.trans hu.2.1, (hobey u c).2.2.trans hu.2.2⟩
  exact List.foldlRecOn (motive := Same) (t.obeyed now).movers.values (drive now) hobeyed fun _ hu _ _ => hu

/-- What a tick hands on: all that is in the outbox after the flush. -/
def batch (t : Ticker) (now : Nat) : List Delivery :=
  (t.worked now).scene.flush.2.outbox.toList

/-- The deliveries of a tick's deeds come behind those that were already in the outbox. -/
theorem batch_eq_deliveries (t : Ticker) (now : Nat) :
    t.batch now = t.scene.outbox.toList ++ t.scene.deliveries (t.deeds now) := by
  have hkept : .drain ∉ Scene.Deed.flush :: t.work now := by
    intro hm
    rcases List.mem_cons.mp hm with hd | hm
    · cases hd
    · rcases mem_work hm with ⟨_, hd⟩ | ⟨_, hd⟩ | ⟨_, _, hd⟩ | ⟨_, hd⟩ <;> cases hd
  have hdrain : ∀ s : Scene, s.sent .drain = [] := fun _ => List.drop_nil
  have hrefused : ∀ s : Scene, s.sent .takeRefused = [] := fun _ => List.drop_length
  have hout := Scene.outbox_after (s := t.scene) hkept
  rw [Scene.after, ← scene_worked] at hout
  rw [deeds, List.cons_append, Scene.deliveries, hrefused, List.append_nil, List.cons_append, Scene.deliveries,
    hdrain, List.append_nil]
  exact hout

/-- A tick hands its batch on, and empties the outbox. -/
theorem outbound_step (t : Ticker) (now : Nat) :
    (t.step now).2.outbound = (t.post (t.batch now)).outbound ∧ (t.step now).2.scene.outbox.toList = [] := by
  constructor
  · have hpost (u : Ticker) (batch : List Delivery) : (u.post batch).outbound =
        if batch.isEmpty then u.outbound else u.outbound.map (·.send batch) := congrArg outbound (post_eq u batch)
    rw [hpost t, ← (worked_channels t now).2.1]
    exact hpost _ _
  · rw [scene_step]
    rfl

/-- The batches that a run hands on, the oldest first. -/
def batches (t : Ticker) : List Beat → List (List Delivery)
  | [] => []
  | b :: past => t.batches past ++ [((t.after past).mail b.commands).batch b.now].filter (!·.isEmpty)

theorem nil_notMem_batches (t : Ticker) (beats : List Beat) : [] ∉ t.batches beats := by
  induction beats with
  | nil => exact List.not_mem_nil
  | cons b beats ih =>
    rw [batches, List.mem_append]
    rintro (h | h)
    · exact ih h
    · exact absurd (List.mem_filter.mp h).2 (by decide)

theorem outbound_after {c : Channel (List Delivery)} (hout : t.outbound = some c) (hopen : c.closed = false)
    (beats : List Beat) : (t.after beats).outbound = some ⟨(c.toList ++ t.batches beats).toArray, false⟩ := by
  induction beats with
  | nil => rw [after, hout, batches, List.append_nil, Channel.toList, Array.toArray_toList, ← hopen]
  | cons b beats ih =>
    have hmail : ((t.after beats).mail b.commands).outbound = some ⟨(c.toList ++ t.batches beats).toArray, false⟩ := ih
    rw [after, beat, (outbound_step _ b.now).1, post_eq, batches]
    dsimp only
    rw [hmail]
    cases ((t.after beats).mail b.commands).batch b.now with
    | nil => simp
    | cons d batch => simp [Channel.send, Channel.send?]

/-- What was in the outbox and all that is sent is handed on, or still in the outbox. -/
theorem flatten_batches (t : Ticker) (beats : List Beat) :
    (t.batches beats).flatten ++ (t.after beats).scene.outbox.toList =
      t.scene.outbox.toList ++ t.scene.deliveries (t.ledger beats) := by
  induction beats with
  | nil => simp [batches, after, ledger, Scene.deliveries]
  | cons b beats ih =>
    have hscene : ((t.after beats).mail b.commands).scene = t.scene.after (t.ledger beats) := scene_after t beats
    have hbox : ((t.after beats).mail b.commands).scene.outbox = (t.after beats).scene.outbox := rfl
    have hflatten : ∀ batch : List Delivery, ([batch].filter (!·.isEmpty)).flatten = batch := by
      rintro (_ | _) <;> simp
    rw [after, beat, (outbound_step _ b.now).2, List.append_nil, batches, List.flatten_append, hflatten,
      batch_eq_deliveries, hbox, ← List.append_assoc, ih, ledger, Scene.deliveries_append, hscene, List.append_assoc]

theorem outbox_after (hempty : t.scene.outbox.toList = []) (beats : List Beat) :
    (t.after beats).scene.outbox.toList = [] := by
  cases beats with
  | nil => exact hempty
  | cons b beats => exact (outbound_step _ b.now).2

/-- With an open way out, all deliveries of a run are handed on, in batches that are not empty. -/
theorem handed_after (hempty : t.scene.outbox.toList = []) (hfresh : t.outbound = some .fresh) (beats : List Beat) :
    ∃ batches : List (List Delivery), [] ∉ batches ∧ (t.after beats).outbound = some ⟨batches.toArray, false⟩ ∧
      batches.flatten = t.scene.deliveries (t.ledger beats) := by
  have hflatten := t.flatten_batches beats
  rw [hempty, outbox_after hempty, List.append_nil, List.nil_append] at hflatten
  exact ⟨t.batches beats, t.nil_notMem_batches beats, outbound_after hfresh rfl beats, hflatten⟩

/-! ## What clients have after a run -/

/-- After a run nobody is owed anything. -/
theorem told_after (beats : List Beat) (hnew : t.scene.visibility.watchers = ∅) {r : Handle} {w : Watcher}
    (hw : (t.after beats).scene.visibility.watchers[r]? = some w) : w.entered = ∅ ∧ w.left = ∅ := by
  cases beats with
  | nil => simp [after, hnew] at hw
  | cons b beats =>
    have hflush : ∀ s : Scene, (s.after [.takeRefused, .drain, .flush]).visibility = s.flush.2.visibility :=
      fun _ => rfl
    rw [after, beat, scene_step, deeds, Scene.after_append, hflush] at hw
    exact Scene.told_of_flush hw

/-- An open mailbox takes all commands. -/
theorem foldl_send (commands : List Command) {c : Channel Command} (hc : c.closed = false) :
    (commands.foldl Channel.send c).toList = c.toList ++ commands ∧ (commands.foldl Channel.send c).closed = false := by
  induction commands generalizing c with
  | nil => exact ⟨(List.append_nil _).symm, hc⟩
  | cons command commands ih =>
    have hsend : c.send command = { c with waiting := c.waiting.push command } := by
      simp [Channel.send, Channel.send?, hc]
    have hopen : (c.send command).closed = false := by
      rw [hsend]
      exact hc
    obtain ⟨hlist, hclosed⟩ := ih hopen
    refine ⟨?_, hclosed⟩
    rw [List.foldl_cons, hlist, hsend]
    simp [Channel.toList]

/-- The mailbox is empty and open after every tick. -/
theorem mailbox_after (hmail : t.mailbox = .fresh) (beats : List Beat) : (t.after beats).mailbox = .fresh := by
  induction beats with
  | nil => exact hmail
  | cons b beats ih =>
    have hclosed : ((t.after beats).mail b.commands).mailbox.closed = false :=
      (foldl_send b.commands (c := (t.after beats).mailbox) (by rw [ih]; rfl)).2
    have hbeat : ((t.after beats).beat b).mailbox = ((t.after beats).mail b.commands).mailbox.drain.2 :=
      (congrArg mailbox (post_eq _ _)).trans (worked_channels _ b.now).1
    rw [after, hbeat, Channel.drain, hclosed]
    rfl

/-- The commands that come in before a tick are those that it obeys. -/
theorem toList_mail (hmail : t.mailbox = .fresh) (commands : List Command) :
    (t.mail commands).mailbox.toList = commands := by
  rw [mail, (foldl_send commands (by rw [hmail]; rfl)).1, hmail]
  rfl

/-- `g` leaves and joins again in one beat. -/
def Beat.Returns (g : Handle) (b : Beat) : Prop :=
  ∃ earlier later e, b.commands = earlier ++ .leave g :: later ∧ .join e ∈ later ∧ e.handle = g

/-- Who leaves in a tick and does not join again is not there afterwards. -/
theorem entity?_of_leave {g : Handle} (hmail : t.mailbox = .fresh) (hleave : .leave g ∈ b.commands)
    (hreturn : ¬b.Returns g) : (t.beat b).scene.entity? g = none := by
  obtain ⟨earlier, later, hsplit⟩ := List.append_of_mem hleave
  have hstays : ∀ e, .join e ∈ later → e.handle ≠ g := fun e he hg => hreturn ⟨earlier, later, e, hsplit, he, hg⟩
  have hflush : ∀ s : Scene, (s.after [.takeRefused, .drain, .flush]).entity? g = s.entity? g := by
    intro s
    have hstage : (s.after [.takeRefused, .drain, .flush]).stage = s.informed := s.flush_spec.1
    rw [Scene.entity?, hstage]
    rfl
  rw [beat, scene_step, deeds, Scene.after_append, hflush, work, Scene.after_reverse, toList_mail hmail, hsplit,
    List.flatMap_append, List.flatMap_cons, List.append_assoc, List.append_assoc, List.foldl_append, List.foldl_append,
    Command.deeds, List.foldl_cons, List.foldl_nil]
  apply Scene.entity?_foldl_perform
  · intro e he
    rw [List.mem_append, List.mem_flatMap, List.mem_map] at he
    rcases he with ⟨c, hc, he⟩ | ⟨m, _, he⟩
    · cases c with
      | join e' =>
        obtain rfl : e = e' := by simpa [Command.deeds] using he
        exact hstays e hc
      | leave | report | attach => simp [Command.deeds] at he
    · cases he
  · exact (Scene.accounted _ (.leave g)).effect.gone

variable {rules : TickRules} {setup : SceneSetup} {terrain : Terrain} {feed : PositionFeed} {r g : Handle}

/-- A ticker with nobody in its scene, whose way out is open. -/
def start (rules : TickRules) (setup : SceneSetup) (terrain : Terrain) (feed : PositionFeed) : Ticker :=
  create rules (.empty setup terrain feed) (some .fresh)

/-- After a run, the client of a player has those that the player sees. -/
theorem sameKeys_after (beats : List Beat) (hr : r.isRole = true) {w : Watcher}
    (hw : ((start rules setup terrain feed).after beats).scene.visibility.watchers[r]? = some w) :
    Scene.SameKeys w.visible
      ((start rules setup terrain feed).scene.replica r ((start rules setup terrain feed).ledger beats)) := by
  obtain ⟨hentered, hleft⟩ := told_after beats rfl hw
  rw [scene_after] at hw
  obtain ⟨view, hview, howes⟩ := Scene.owes_replay setup terrain feed _ r w hw hr
  exact Scene.sameKeys_replica hview howes hentered hleft

theorem coherent_after (beats : List Beat) :
    ((start rules setup terrain feed).after beats).scene.stage.Coherent setup.cellSize := by
  rw [scene_after]
  exact Scene.coherent_after setup terrain feed _

/-- An entity that never leaves and joins again in one beat has no former place. -/
theorem formerPlace_of_not_returns {beats : List Beat} (hreturn : ∀ b ∈ beats, ¬b.Returns g) (hr : r.isRole = true)
    {w : Watcher} (hw : ((start rules setup terrain feed).after beats).scene.visibility.watchers[r]? = some w)
    (hg : g ∈ w.visible) :
    (start rules setup terrain feed).scene.formerPlace r g ((start rules setup terrain feed).ledger beats) = none := by
  induction beats generalizing w with
  | nil => rfl
  | cons b beats ih =>
    have hcoherent : ∀ beats, ((start rules setup terrain feed).after beats).scene.stage.Coherent setup.cellSize :=
      coherent_after
    obtain ⟨e, he⟩ := Scene.entity_of_visible (hcoherent (b :: beats)) hw hg
    have hmail := mailbox_after (t := start rules setup terrain feed) rfl beats
    by_cases hleave : .leave g ∈ b.commands
    -- whoever leaves in this beat stays away, and so is not seen at its end
    · have hgone := entity?_of_leave hmail hleave (hreturn b List.mem_cons_self)
      exact absurd (he.symm.trans hgone) (by simp)
    -- otherwise it is known where the entity is, or nothing changed since the last tick
    · have hstay : .leave g ∉ ((start rules setup terrain feed).after beats |>.mail b.commands).deeds b.now := by
        intro hm
        rw [deeds, List.mem_append] at hm
        rcases hm with hm | hm
        · simp at hm
        · exact hleave (toList_mail hmail b.commands ▸ leave_mem_work hm)
      have hthere := Scene.contains_of_watcher (hcoherent (b :: beats)) hw
      rw [scene_after] at hthere
      have hshown := (sameKeys_after (b :: beats) hr hw g).mp hg
      rcases Scene.formerPlace_of_stay hstay hthere hshown with hnone | ⟨hthere, hshown, hsame⟩
      · exact hnone
      · rw [← scene_after] at hthere
        obtain ⟨w', hw'⟩ := Scene.watcher_of_contains (hcoherent beats) hthere
        have hg' := (sameKeys_after beats hr hw' g).mpr hshown
        exact hsame.trans (ih (fun b' hb => hreturn b' (List.mem_cons_of_mem b hb)) hw' hg')

/-- **What clients have after a run.** Everything that a run sends is handed on.  The clients of players have all that
their players see, each at its place, except for those who left and joined again and were not told of since: those they
have where they first left.  This befalls nobody who never leaves and joins again in one beat. -/
theorem replica_after (rules : TickRules) (setup : SceneSetup) (terrain : Terrain) (feed : PositionFeed)
    (beats : List Beat) :
    let t := start rules setup terrain feed
    let past := t.ledger beats
    (t.after beats).scene = t.scene.after past ∧
    (∃ batches : List (List Delivery), [] ∉ batches ∧ (t.after beats).outbound = some ⟨batches.toArray, false⟩ ∧
      batches.flatten = t.scene.deliveries past) ∧
    ∀ r seen g, r.isRole = true → (t.after beats).scene.visibility.visible r = some seen → g ∈ seen →
      ∃ e, (t.after beats).scene.entity? g = some e ∧
        (t.scene.replica r past)[g]? = some ((t.scene.formerPlace r g past).getD e.pos) ∧
        ((t.scene.replica r past)[g]? = some e.pos ↔ ∀ p, t.scene.formerPlace r g past = some p → p = e.pos) ∧
        ((∀ b ∈ beats, ¬b.Returns g) → t.scene.formerPlace r g past = none) := by
  intro t past
  have hscene : (t.after beats).scene = t.scene.after past := scene_after t beats
  refine ⟨hscene, handed_after rfl rfl beats, ?_⟩
  intro r seen g hr hseen hg
  obtain ⟨w, hw, rfl⟩ := Option.map_eq_some_iff.mp hseen
  obtain ⟨e, he⟩ := Scene.entity_of_visible (coherent_after beats) hw hg
  have hplace := Scene.replica_eq_getD (Scene.coherent_after setup terrain feed) (ledger_loud t beats) (hscene ▸ he)
    ((sameKeys_after beats hr hw g).mp hg)
  refine ⟨e, he, hplace, ?_, fun hreturn => formerPlace_of_not_returns hreturn hr hw hg⟩
  have hplace' : (t.scene.replica r past)[g]? = some ((t.scene.formerPlace r g past).getD e.pos) := hplace
  rw [hplace']
  cases t.scene.formerPlace r g past <;> simp

/-- A monster leaves and joins again at another tile between two ticks; the client of a player who sees it is told
nothing, and has it at the tile that it left. -/
theorem replica_stale :
    let player := Handle.pack .role 0 1
    let monster := Handle.pack .monster 0 2
    let t := start {} {} ⟨8, 8, .bitmap #[0xFFFFFFFFFFFFFFFF]⟩ .disconnected
    let beats : List Beat := [
      ⟨[.leave monster, .join (.outside monster "bat" ⟨5, 5⟩ 4)], 33000000⟩,
      ⟨[.join (.outside player "eve" ⟨1, 1⟩ 4), .join (.outside monster "bat" ⟨2, 2⟩ 4)], 0⟩]
    player.isRole = true ∧ (t.after beats).scene.visibility.visible player = some ((∅ : HandleSet).insert monster) ∧
      ((t.after beats).scene.entity? monster).map (·.pos) = some ⟨5, 5⟩ ∧
      (t.scene.replica player (t.ledger beats))[monster]? = some ⟨2, 2⟩ := by
  decide +kernel

end Ticker

end TileRealm
