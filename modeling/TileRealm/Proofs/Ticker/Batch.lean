import Mathlib.Algebra.Group.Nat.Defs
import TileRealm.Proofs.Scene.Answer
import TileRealm.Proofs.Ticker.Movers

/-!
# What a tick hands on

- `turns`: those who act one after the other, each with the scene that it finds; `outbox_turns` collects what they send;
- `Command.answer`, `Mover.word`: what a command and what a mover sends, `outbox_obey` and `outbox_drive`;
- `Scene.tidings_eq`: what players are told at the end, player by player;
- `Regular`: what holds of a ticker in every run (`Regular.after`);
- `Ticked`: everything that one tick does, says and counts (`Regular.ticked`);
- `pipeline_after`: this for every tick of a run, and what the whole run hands on.
-/

set_option autoImplicit false

namespace TileRealm

/-! ## What movers send -/

namespace Mover

/-- The message that tells everybody of a step. -/
def heard (m : Mover) (s : Scene) (speed : UInt32) (pos : Tile) : Delivery :=
  ⟨s.outbox.scene, .scene, .move m.handle pos speed 0⟩

/-- What a mover sends: the step that it makes, if it makes one. -/
def word (now : Nat) (m : Mover) (s : Scene) : List Delivery :=
  ((s.entity? m.handle).bind fun e => (m.tick s now).1.map (m.heard s (s.referee.rules.cap e.speed))).toList

/-- What a mover sends comes last into the outbox. -/
theorem outbox_tick (m : Mover) (s : Scene) (now : Nat) :
    (m.tick s now).2.2.outbox.toList = s.outbox.toList ++ m.word now s := by
  have hticks := m.ticks_tick s now
  rw [word]
  generalize (m.tick s now).1 = answer at hticks ⊢
  generalize (m.tick s now).2.1 = m' at hticks
  generalize (m.tick s now).2.2 = s' at hticks ⊢
  cases hticks with
  | absent he => rw [he, Option.bind_none, Option.toList_none, List.append_nil]
  | early he => rw [he, Option.bind_some, Option.map_none, Option.toList_none, List.append_nil]
  | due he _ hacts =>
    rw [he, Option.bind_some]
    cases hacts with
    | aimless | rest | refused => exact (List.append_nil _).symm
    | step => exact Outbox.toList_push _ _ _

end Mover

/-! ## What commands send -/

namespace Command

/-- What a command sends: the reply to a report, and nothing else. -/
def answer (now : Nat) (c : Command) (s : Scene) : List Delivery :=
  match c with
  | .report h r => s.replyTo now h r
  | .join _ | .leave _ | .attach _ => []

/-- Whether a command is a report that is refused. -/
def isRefused (now : Nat) (c : Command) (s : Scene) : Bool :=
  match c with
  | .report h r => !(s.report now h r).1.isOk
  | .join _ | .leave _ | .attach _ => false

/-- Whether a command is a report of somebody who is there. -/
def isHeard (c : Command) (s : Scene) : Bool :=
  match c with
  | .report h _ => s.contains h
  | .join _ | .leave _ | .attach _ => false

theorem length_answer (now : Nat) (c : Command) (s : Scene) :
    (c.answer now s).length = if c.isHeard s then 1 else 0 := by
  cases c with
  | report h r => exact s.length_replyTo now h r
  | join | leave | attach => rfl

end Command

/-! ## What players are told -/

namespace Scene

variable {s : Scene} {size : UInt32}

/-- How the entities of a set look, in the order of their handles. -/
def portraits (s : Scene) (peers : HandleSet) : List Portrait :=
  peers.toList.filterMap fun g => (s.entity? g).map Entity.portrait

/-- Of those who are there none is left out. -/
theorem handle_portraits (hs : s.stage.Coherent size) {peers : HandleSet} (hpeers : ∀ g ∈ peers, s.contains g = true) :
    (s.portraits peers).map Portrait.handle = peers.toList := by
  have hlist : ∀ l : List Handle, (∀ g ∈ l, s.contains g = true) →
      (l.filterMap fun g => (s.entity? g).map Entity.portrait).map Portrait.handle = l := by
    intro l hl
    induction l with
    | nil => rfl
    | cons g l ih =>
      obtain ⟨e, he⟩ := contains_iff.mp (hl g List.mem_cons_self)
      rw [List.filterMap_cons_some (by rw [he]; rfl), List.map_cons, ih fun k hk => hl k (List.mem_cons_of_mem g hk),
        Entity.portrait, hs.named he]
  exact hlist _ fun g hg => hpeers g (Std.ExtTreeSet.mem_toList.mp hg)

/-- What one player is told: who appears, and then who disappears. -/
def told (s : Scene) (r : Handle) (w : Watcher) : List Delivery :=
  ((s.portraits w.entered).map Event.appear ++ w.left.toList.map Event.disappear).map fun event =>
    ⟨s.outbox.scene, .entity r, event⟩

/-- The players are told one after the other. -/
theorem tidings_eq (s : Scene) : s.tidings =
    (s.visibility.watchers.toList.filter (·.1.isRole)).flatMap fun p => s.told p.1 p.2 := by
  have hfor : ∀ (r : Handle) (w : Watcher), s.tidingsFor r w.changes = s.told r w := by
    intro r w
    simp only [tidingsFor, sightings, told, portraits, Watcher.changes, List.map_filterMap, Option.map_map]
    rfl
  -- those who have nothing to be told of are not in the list of changes
  have hnothing : ∀ (r : Handle) (w : Watcher), w.changes.isEmpty = true → s.told r w = [] := by
    intro r w hw
    obtain ⟨hentered, hleft⟩ : w.entered = ∅ ∧ w.left = ∅ := by simpa [Changes.isEmpty, Watcher.changes] using hw
    simp [told, portraits, hentered, hleft]
  rw [tidings, Visibility.pending]
  generalize s.visibility.watchers.toList = watchers
  induction watchers with
  | nil => rfl
  | cons p watchers ih =>
    obtain ⟨r, w⟩ := p
    cases hw : w.changes.isEmpty <;> cases hr : r.isRole <;>
      simp only [List.filterMap_cons, List.filter_cons, hw, hr, Bool.false_eq_true, if_true, if_false,
        List.flatMap_cons, ih, hfor, hnothing, List.nil_append]

end Scene

namespace Ticker

variable {t : Ticker} {now : Nat}

/-! ## Taking turns -/

section

variable {α : Type} {act : Ticker → α → Ticker}

/-- Those who act one after the other, each with the scene that it finds. -/
def turns (act : Ticker → α → Ticker) (t : Ticker) : List α → List (α × Scene)
  | [] => []
  | a :: actors => (a, t.scene) :: turns act (act t a) actors

theorem fst_turns (t : Ticker) (actors : List α) : (turns act t actors).map (·.1) = actors := by
  induction actors generalizing t with
  | nil => rfl
  | cons a actors ih => rw [turns, List.map_cons, ih]

/-- All that is sent in the turns comes into the outbox, in the order of the turns. -/
theorem outbox_turns {word : α → Scene → List Delivery}
    (hact : ∀ t a, (act t a).scene.outbox.toList = t.scene.outbox.toList ++ word a t.scene) (t : Ticker)
    (actors : List α) : (actors.foldl act t).scene.outbox.toList =
      t.scene.outbox.toList ++ (turns act t actors).flatMap fun p => word p.1 p.2 := by
  induction actors generalizing t with
  | nil => exact (List.append_nil _).symm
  | cons a actors ih => rw [List.foldl_cons, ih, hact, turns, List.flatMap_cons, List.append_assoc]

/-- All refusals in the turns are counted. -/
theorem refused_turns {refuses : α → Scene → Bool}
    (hact : ∀ t a, (act t a).scene.refused = t.scene.refused + if refuses a t.scene then 1 else 0) (t : Ticker)
    (actors : List α) : (actors.foldl act t).scene.refused =
      t.scene.refused + .ofNat ((turns act t actors).countP fun p => refuses p.1 p.2) := by
  induction actors generalizing t with
  | nil => exact (UInt64.add_zero _).symm
  | cons a actors ih =>
    rw [List.foldl_cons, ih, hact, turns, List.countP_cons, Scene.ofNat_add_ite, UInt64.add_assoc,
      UInt64.add_comm (.ofNat _)]

end

theorem outbox_obey (now : Nat) (t : Ticker) (c : Command) :
    (obey now t c).scene.outbox.toList = t.scene.outbox.toList ++ c.answer now t.scene := by
  cases c with
  | report h r => exact t.scene.outbox_report now h r
  | join e =>
    rw [scene_obey, Command.deeds, List.foldl_cons, List.foldl_nil, Scene.perform_join]
    split <;> exact (List.append_nil _).symm
  | leave h =>
    rw [scene_obey, Command.deeds, List.foldl_cons, List.foldl_nil, Scene.perform_leave]
    split <;> exact (List.append_nil _).symm
  | attach m =>
    rw [scene_obey]
    exact (List.append_nil _).symm

theorem refused_obey (now : Nat) (t : Ticker) (c : Command) :
    (obey now t c).scene.refused = t.scene.refused + if c.isRefused now t.scene then 1 else 0 := by
  cases c with
  | report h r => exact t.scene.refused_report now h r
  | join e =>
    rw [scene_obey, Command.isRefused, if_neg Bool.false_ne_true, UInt64.add_zero]
    exact (Scene.rest_perform _ (.join e)).refused nofun nofun
  | leave h =>
    rw [scene_obey, Command.isRefused, if_neg Bool.false_ne_true, UInt64.add_zero]
    exact (Scene.rest_perform _ (.leave h)).refused nofun nofun
  | attach m =>
    rw [scene_obey, Command.isRefused, if_neg Bool.false_ne_true, UInt64.add_zero]
    rfl

theorem outbox_drive (now : Nat) (t : Ticker) (m : Mover) :
    (drive now t m).scene.outbox.toList = t.scene.outbox.toList ++ m.word now t.scene :=
  m.outbox_tick t.scene now

theorem refused_foldl_drive (now : Nat) (movers : List Mover) (t : Ticker) :
    (movers.foldl (drive now) t).scene.refused = t.scene.refused :=
  List.foldlRecOn (motive := fun u => u.scene.refused = t.scene.refused) movers (drive now) rfl fun u hu m _ =>
    ((Scene.rest_perform u.scene (.drive m now)).refused nofun nofun).trans hu

/-! ## One tick -/

/-- The commands that wait, each with the scene that it finds. -/
def readings (t : Ticker) (now : Nat) : List (Command × Scene) :=
  turns (obey now) { t with mailbox := t.mailbox.drain.2 } t.mailbox.toList

/-- The movers that are there after the commands, each with the scene that it finds. -/
def drives (t : Ticker) (now : Nat) : List (Mover × Scene) :=
  turns (drive now) (t.obeyed now) (t.obeyed now).movers.values

/-- A tick hands on what was in the outbox, what the commands send, what the movers send, and what the players are told
at the end. -/
theorem batch_eq (t : Ticker) (now : Nat) : t.batch now =
    t.scene.outbox.toList ++ (t.readings now).flatMap (fun p => p.1.answer now p.2) ++
      (t.drives now).flatMap (fun p => p.1.word now p.2) ++ (t.worked now).scene.tidings := by
  have hobeyed : (t.obeyed now).scene.outbox.toList =
      t.scene.outbox.toList ++ (t.readings now).flatMap fun p => p.1.answer now p.2 :=
    outbox_turns (outbox_obey now) { t with mailbox := t.mailbox.drain.2 } t.mailbox.toList
  have hworked : (t.worked now).scene.outbox.toList =
      (t.obeyed now).scene.outbox.toList ++ (t.drives now).flatMap fun p => p.1.word now p.2 :=
    outbox_turns (outbox_drive now) (t.obeyed now) (t.obeyed now).movers.values
  rw [batch, (Scene.flush_spec _).2.1, hworked, hobeyed]

theorem refused_worked (t : Ticker) (now : Nat) : (t.worked now).scene.refused =
    t.scene.refused + .ofNat ((t.readings now).countP fun p => p.1.isRefused now p.2) := by
  rw [worked, refused_foldl_drive]
  exact refused_turns (refused_obey now) { t with mailbox := t.mailbox.drain.2 } t.mailbox.toList

/-- All that a tick reports and leaves behind. -/
theorem step_eq (t : Ticker) (now : Nat) : t.step now = (
    { tick := t.current + 1
      commands := t.mailbox.toList.length
      entities := (t.worked now).scene.size
      refused := (t.worked now).scene.refused
      appeared := (t.worked now).scene.flush.1.appeared
      disappeared := (t.worked now).scene.flush.1.disappeared
      deliveries := (t.batch now).length },
    { t.worked now with
      scene := (t.worked now).scene.flush.2.drain.2.takeRefused.2
      outbound := (t.post (t.batch now)).outbound
      current := t.current + 1 }) := by
  obtain ⟨-, houtbound, hcurrent⟩ := worked_channels t now
  obtain ⟨outbox, hflush⟩ := (t.worked now).scene.flush_eq
  have hentities : (t.worked now).scene.flush.2.size = (t.worked now).scene.size := by
    rw [hflush]
    rfl
  have hrefused : (t.worked now).scene.flush.2.refused = (t.worked now).scene.refused := by rw [hflush]
  -- the ticker after work, but for what the flush takes
  let u : Ticker := { t.worked now with
    scene := (t.worked now).scene.flush.2.drain.2.takeRefused.2
    current := (t.worked now).current + 1 }
  have hpost : u.post (t.batch now) = { u with outbound := (t.post (t.batch now)).outbound } := by
    rw [post_eq, post_eq t, ← houtbound]
  have hstep : t.step now =
      let u' := u.post (t.batch now)
      (⟨u'.current, t.mailbox.toList.length, u'.scene.size, (t.worked now).scene.flush.2.refused,
        (t.worked now).scene.flush.1.appeared, (t.worked now).scene.flush.1.disappeared, (t.batch now).length⟩,
        u') := rfl
  rw [hstep, hpost, hrefused, ← hentities, ← hcurrent]
  rfl

/-- The stage is left as the flush leaves it. -/
theorem stage_step (t : Ticker) (now : Nat) : (t.step now).2.scene.stage = (t.worked now).scene.informed := by
  have hkept : ∀ s : Scene, s.drain.2.takeRefused.2.stage = s.stage := fun _ => rfl
  have hscene : (t.step now).2.scene = (t.worked now).scene.flush.2.drain.2.takeRefused.2 := by rw [step_eq]
  rw [hscene, hkept, (Scene.flush_spec _).1]

/-! ### Movers after their turns -/

theorem getElem?_drive (t : Ticker) (now : Nat) (m : Mover) (h : Handle) : (drive now t m).movers[h]? =
    if h = m.handle then some (m.tick t.scene now).2.1 else t.movers[h]? := by
  rw [← (m.heir_tick t.scene now).handle]
  exact Roster.getElem?_insert

theorem getElem?_foldl_drive_of_notMem {movers : List Mover} {h : Handle} (hh : h ∉ movers.map Mover.handle) :
    (movers.foldl (drive now) t).movers[h]? = t.movers[h]? := by
  induction movers generalizing t with
  | nil => rfl
  | cons m movers ih =>
    obtain ⟨hm, hmovers⟩ : h ≠ m.handle ∧ h ∉ movers.map Mover.handle := by simpa using hh
    rw [List.foldl_cons, ih hmovers, getElem?_drive, if_neg hm]

/-- A mover that has its turn is kept as it is after its turn. -/
theorem getElem?_foldl_drive {movers : List Mover} (hnodup : (movers.map Mover.handle).Nodup) {p : Mover × Scene}
    (hp : p ∈ turns (drive now) t movers) :
    (movers.foldl (drive now) t).movers[p.1.handle]? = some (p.1.tick p.2 now).2.1 := by
  induction movers generalizing t with
  | nil => cases hp
  | cons m movers ih =>
    rw [List.map_cons, List.nodup_cons] at hnodup
    rw [List.foldl_cons]
    rcases List.mem_cons.mp hp with rfl | hp
    · rw [getElem?_foldl_drive_of_notMem hnodup.1, getElem?_drive, if_pos rfl]
    · exact ih hnodup.2 hp

/-! ### Regular tickers -/

/-- What is true of a ticker in every run: its scene is coherent and owes everybody the difference to something that it
was told of, and its movers are in their places. -/
structure Regular (size : UInt32) (t : Ticker) : Prop where
  coherent : t.scene.stage.Coherent size
  owing : t.scene.visibility.All fun _ w => ∃ told, w.Owes told
  filed : Filed t.movers

variable {size : UInt32}

theorem Regular.worked (ht : t.Regular size) (now : Nat) : (t.worked now).Regular size := by
  have hscene : ∀ past, (t.scene.after past).stage.Coherent size ∧
      (t.scene.after past).visibility.All fun _ w => ∃ told, w.Owes told := by
    intro past
    induction past with
    | nil => exact ⟨ht.coherent, ht.owing⟩
    | cons d past ih =>
      have heffect := ((t.scene.after past).accounted d).effect
      exact ⟨heffect.coherent ih.1, heffect.owing ih.2⟩
  obtain ⟨hcoherent, howing⟩ := hscene (t.work now)
  rw [← scene_worked] at hcoherent howing
  exact ⟨hcoherent, howing, filed_worked ht.filed now⟩

theorem Regular.step (ht : t.Regular size) (now : Nat) : (t.step now).2.Regular size := by
  have hworked := ht.worked now
  refine ⟨?_, ?_, ?_⟩
  · rw [stage_step]
    exact Scene.coherent_informed hworked.coherent
  · rw [Scene.visibility, stage_step]
    exact Scene.Effect.flush.owing hworked.owing
  · rw [step_eq]
    exact hworked.filed

theorem Regular.after (ht : t.Regular size) (beats : List Beat) : (t.after beats).Regular size := by
  induction beats with
  | nil => exact ht
  | cons b beats ih =>
    have hmail : ((t.after beats).mail b.commands).Regular size := ⟨ih.coherent, ih.owing, ih.filed⟩
    exact hmail.step b.now

/-! ## All of a tick -/

/-- Everything that a tick does, says and counts. -/
structure Ticked (t : Ticker) (now : Nat) : Prop where
  /-- The commands that wait are carried out in the order in which they came in. -/
  commands : (t.readings now).map (·.1) = t.mailbox.toList
  /-- Each report is answered by one message, unless its entity is not there, and nothing else is. -/
  answers : ∀ p ∈ t.readings now, (p.1.answer now p.2).length = if p.1.isHeard p.2 then 1 else 0
  /-- Those movers act that are there after the commands. -/
  movers : ∀ (h : Handle) (m : Mover), (t.obeyed now).movers[h]? = some m ↔ m.handle = h ∧ m ∈ (t.drives now).map (·.1)
  /-- They act in the order of their handles, so that none acts twice. -/
  ascending : ((t.drives now).map (·.1.handle)).Pairwise fun a b => a.raw < b.raw
  /-- They stay, as they are after they acted. -/
  driven : ∀ p ∈ t.drives now, (t.step now).2.movers[p.1.handle]? = some (p.1.tick p.2 now).2.1
  staying : ∀ h : Handle, (t.step now).2.movers[h]?.isSome = (t.obeyed now).movers[h]?.isSome
  /-- Nothing else happens to the scene but one flush at the end. -/
  scene : (t.step now).2.scene = t.scene.after (t.deeds now)
  /-- The players are told in the order of their handles. -/
  players : ((t.worked now).scene.visibility.watchers.toList.map (·.1)).Pairwise (fun a b => a.raw < b.raw) ∧
    (t.worked now).scene.tidings = ((t.worked now).scene.visibility.watchers.toList.filter (·.1.isRole)).flatMap
      fun p => (t.worked now).scene.told p.1 p.2
  /-- Each of them is told of all who came into its view and of all who went out of it, in the order of handles. -/
  told : ∀ (r : Handle) (w : Watcher), (t.worked now).scene.visibility.watchers[r]? = some w →
    ((t.worked now).scene.portraits w.entered).map Portrait.handle = w.entered.toList ∧
      w.entered.toList.Pairwise (fun a b => a.raw < b.raw) ∧ w.left.toList.Pairwise (fun a b => a.raw < b.raw)
  /-- What was in the outbox comes first, then what commands, movers and the flush send. -/
  batch : t.batch now = t.scene.outbox.toList ++ (t.readings now).flatMap (fun p => p.1.answer now p.2) ++
    (t.drives now).flatMap (fun p => p.1.word now p.2) ++ (t.worked now).scene.tidings
  /-- The batch is handed on, unless it is empty. -/
  outbound : (t.step now).2.outbound = (t.post (t.batch now)).outbound
  report : (t.step now).1 =
    { tick := t.current + 1
      commands := t.mailbox.toList.length
      entities := (t.step now).2.scene.entities.length
      refused := t.scene.refused + .ofNat ((t.readings now).countP fun p => p.1.isRefused now p.2)
      appeared := (t.worked now).scene.tidings.countP (·.event.appears)
      disappeared := (t.worked now).scene.tidings.countP (·.event.disappears)
      deliveries := (t.batch now).length }
  /-- Nothing is left to do, to say or to count. -/
  done : (t.step now).2.mailbox.toList = [] ∧ (t.step now).2.scene.outbox.toList = [] ∧
    (t.step now).2.scene.visibility.pending = [] ∧ (t.step now).2.scene.refused = 0
  /-- The ticks are counted in machine numbers: behind the largest of them the count starts again at 0. -/
  current : (t.step now).2.current = t.current + 1 ∧
    (t.step now).2.current.toNat = (t.current.toNat + 1) % 2 ^ 64

theorem Regular.ticked (ht : t.Regular size) (now : Nat) : t.Ticked now := by
  have hworked := ht.worked now
  have hfiled := filed_obeyed ht.filed now
  have hdrives : (t.drives now).map (·.1) = (t.obeyed now).movers.values := fst_turns _ _
  have hhandles : (t.drives now).map (·.1.handle) = (t.obeyed now).movers.values.map Mover.handle := by
    rw [← hdrives, List.map_map]
    rfl
  have hmovers : (t.step now).2.movers = (t.worked now).movers := by rw [step_eq]
  refine
    { commands := fst_turns _ _
      answers := fun p _ => p.1.length_answer now p.2
      movers := fun h m => ?movers
      ascending := hhandles ▸ hfiled.ascending
      driven := fun p hp => ?driven
      staying := fun h => ?staying
      scene := scene_step t now
      players := ⟨?players, Scene.tidings_eq _⟩
      told := fun r w hw => ⟨?told, HandleSet.ascending_toList _, HandleSet.ascending_toList _⟩
      batch := batch_eq t now
      outbound := (outbound_step t now).1
      report := ?report
      done := ?done
      current := by rw [step_eq]; exact ⟨rfl, UInt64.toNat_add _ _⟩ }
  case movers =>
    rw [hdrives]
    exact hfiled.getElem?_iff
  case driven =>
    rw [hmovers]
    exact getElem?_foldl_drive hfiled.nodup hp
  case staying =>
    rw [hmovers]
    by_cases hh : h ∈ (t.drives now).map (·.1.handle)
    · obtain ⟨p, hp, rfl⟩ := List.mem_map.mp hh
      have hafter : (t.worked now).movers[p.1.handle]? = some (p.1.tick p.2 now).2.1 :=
        getElem?_foldl_drive hfiled.nodup hp
      have hbefore : (t.obeyed now).movers[p.1.handle]? = some p.1 :=
        hfiled.getElem?_iff.mpr ⟨rfl, hdrives ▸ List.mem_map_of_mem hp⟩
      rw [hafter, hbefore]
      rfl
    · rw [Ticker.worked, getElem?_foldl_drive_of_notMem (hhandles ▸ hh)]
  case players =>
    rw [List.pairwise_map]
    exact Std.ExtTreeMap.ordered_keys_toList.imp Handle.compare_lt_iff.mp
  case told =>
    apply Scene.handle_portraits hworked.coherent
    intro g hg
    obtain ⟨told, howes⟩ := hworked.owing r w hw
    rw [howes.entered, Std.ExtTreeSet.mem_diff_iff] at hg
    exact Scene.contains_iff.mpr (Scene.entity_of_visible hworked.coherent hw hg.1)
  case report =>
    have hentities : (t.step now).2.scene.entities.length = (t.worked now).scene.size := by
      rw [Scene.entities, stage_step, Roster.values_eq, List.length_map, Std.ExtTreeMap.length_toList]
      rfl
    rw [hentities, ← refused_worked, step_eq, (Scene.flush_spec _).2.2]
  case done =>
    have hmailbox : (t.step now).2.mailbox = t.mailbox.drain.2 := by rw [step_eq, (worked_channels t now).1]
    refine ⟨?_, (outbound_step t now).2, ?_, by rw [scene_step]; rfl⟩
    · rw [hmailbox]
      rfl
    · rw [Scene.visibility, stage_step]
      exact congrArg Prod.fst (Visibility.drain_drain _)

/-! ## A run -/

/-- **What ticks hand on.** Whatever happened to its scene before, each tick of a run carries out the commands that
wait, lets every mover act once, tells the players of the net changes, and hands on what was sent as one batch, counted
and in this order.  With an open way out, the batches of a run are what was in the outbox at first and all that was sent
since, each once and in the order in which it was sent. -/
theorem pipeline_after (setup : SceneSetup) (terrain : Terrain) (feed line : PositionFeed) (past : List Scene.Deed)
    (hscene : t.scene = { (Scene.empty setup terrain feed).after past with feed := line }) (hfiled : Filed t.movers) :
    t.scene.refused = .ofNat ((Scene.empty setup terrain feed).refusals past) ∧
    (∀ beats commands now, ((t.after beats).mail commands).Ticked now) ∧
    ∀ c, t.outbound = some c → c.closed = false → ∀ beats,
      (t.after beats).outbound = some ⟨(c.toList ++ t.batches beats).toArray, false⟩ ∧ [] ∉ t.batches beats ∧
      (beats ≠ [] → (t.batches beats).flatten = t.scene.outbox.toList ++ t.scene.deliveries (t.ledger beats)) := by
  have hregular : t.Regular setup.cellSize := by
    refine ⟨?_, ?_, hfiled⟩
    · rw [hscene]
      exact Scene.coherent_after setup terrain feed past
    · rw [hscene]
      exact Scene.owing_after setup terrain feed past
  refine ⟨?_, ?_, ?_⟩
  · rw [hscene]
    exact Scene.refused_after _ past
  · intro beats commands now
    have hafter := hregular.after beats
    have hmail : ((t.after beats).mail commands).Regular setup.cellSize :=
      ⟨hafter.coherent, hafter.owing, hafter.filed⟩
    exact hmail.ticked now
  · intro c hout hopen beats
    refine ⟨outbound_after hout hopen beats, t.nil_notMem_batches beats, fun hne => ?_⟩
    obtain ⟨b, beats, rfl⟩ := List.exists_cons_of_ne_nil hne
    have hflatten := t.flatten_batches (b :: beats)
    rw [after, beat, (outbound_step _ b.now).2, List.append_nil] at hflatten
    exact hflatten

/-- A player reports before it joins, and so is not answered.  The first tick hands on a step that a monster made
before, the report of another player and one more step of the monster, and then the two players are told of the two
others each; the second tells both players that the monster is gone. -/
theorem pipeline_after_four :
    let eve := Handle.pack .role 0 1
    let ada := Handle.pack .role 0 9
    let bat := Handle.pack .monster 0 2
    let past : List Scene.Deed := [.report 0 ada (.finish 3 ⟨1, 1⟩), .step bat ⟨4, 3⟩ 4,
      .join (.outside bat "bat" ⟨4, 4⟩ 4), .join (.outside eve "eve" ⟨1, 1⟩ 4)]
    let t : Ticker := {
      scene := { (Scene.empty {} ⟨8, 8, .bitmap #[0xFFFFFFFFFFFFFFFF]⟩ .disconnected).after past with
        feed := .disconnected }
      movers := (∅ : Roster Mover).insert bat (.create bat ⟨4, 4⟩ {})
      mailbox := ⟨#[.report ada (.finish 1 ⟨0, 0⟩), .join (.outside ada "ada" ⟨2, 2⟩ 4),
        .report eve (.start 1 ⟨1, 1⟩ ⟨1, 2⟩ 4)], false⟩
      outbound := some .fresh
      rules := {}
      current := 5 }
    Filed t.movers ∧ t.scene.refused = 1 ∧ t.Ticked 1000000000 ∧
      (t.step 1000000000).1 =
        { tick := 6, commands := 3, entities := 3, refused := 2, appeared := 4, disappeared := 0, deliveries := 7 } ∧
      ∃ batches : List (List Delivery), batches.map List.length = [7, 2] ∧
        (t.after [⟨[.leave bat], 2000000000⟩, ⟨[], 1000000000⟩]).outbound = some ⟨batches.toArray, false⟩ := by
  intro eve ada bat past t
  have hfiled : Filed t.movers := by
    have hnobody : Filed ∅ := by simp [Filed]
    exact hnobody.insert (.create bat ⟨4, 4⟩ {})
  obtain ⟨hrefused, hticked, hrun⟩ := pipeline_after (t := t) {} ⟨8, 8, .bitmap #[0xFFFFFFFFFFFFFFFF]⟩ .disconnected
    .disconnected past rfl hfiled
  refine ⟨hfiled, ?_, hticked [] [] 1000000000, by decide +kernel, _, ?_,
    (hrun .fresh rfl rfl [⟨[.leave bat], 2000000000⟩, ⟨[], 1000000000⟩]).1⟩
  · rw [hrefused]
    decide +kernel
  · decide +kernel

end Ticker

end TileRealm
