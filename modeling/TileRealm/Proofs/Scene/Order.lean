import Mathlib.Data.List.Basic
import TileRealm.Proofs.Scene.Answer
import TileRealm.Proofs.Scene.ClientView

/-!
# Reports of different entities in any order

The answer to a report depends on nothing but the ground, the rules and what is kept of its own entity, and of all this
it changes only the last.

- `Letter`, `Reply`: reports that come in one after the other, and what comes of each;
- `Alike`: two scenes that keep the same of an entity.  They answer its letters alike (`Alike.receive`), and the letters
  of others make no difference (`alike_receive`), so what comes of its letters can be told from these alone
  (`Alike.filter`);
- `told_after`: everybody is owed the difference to something that it was told of, so with that the places determine who
  sees whom, and who is still to be told of it (`stage_eq`);
- `order_after`: senders who take turns in another way are answered alike, and leave the same behind.
-/

set_option autoImplicit false

namespace TileRealm

/-! ## Letters -/

/-- A report of a client on its way to a scene, and the time at which it is answered. -/
structure Letter where
  sender : Handle
  now : Nat
  report : Report
deriving DecidableEq

/-- What comes of a letter: the answer, and the messages that are sent. -/
structure Reply where
  letter : Letter
  answer : Except Refusal Acceptance
  messages : List Delivery

/-- Whether the report is refused. -/
def Reply.refuses (r : Reply) : Bool :=
  !r.answer.isOk

/-- Two lists of letters in which those of each sender come in the same order, however the senders take turns. -/
def SameBySender (letters letters' : List Letter) : Prop :=
  ∀ h, letters.filter (·.sender = h) = letters'.filter (·.sender = h)

/-- Lists that are the same key by key are permutations of each other. -/
theorem perm_of_filter_eq {α : Type} {key : α → Handle} {l l' : List α}
    (h : ∀ k, (l.filter fun a => key a = k) = l'.filter fun a => key a = k) : l.Perm l' := by
  classical
  rw [List.perm_iff_count]
  intro a
  have hpart : ∀ l : List α, (l.filter fun b => key b = key a).count a = l.count a :=
    fun l => List.count_filter (decide_eq_true rfl)
  rw [← hpart l, ← hpart l', h]

namespace Scene

variable {s s' t : Scene} {h : Handle} {l : Letter} {letters letters' : List Letter}

/-- The scene after a letter. -/
def receive (s : Scene) (l : Letter) : Scene :=
  (s.report l.now l.sender l.report).2

/-- What comes of a letter. -/
def reply (s : Scene) (l : Letter) : Reply :=
  ⟨l, (s.report l.now l.sender l.report).1, s.sent (.report l.now l.sender l.report)⟩

/-- The scene after several letters. -/
def receiveAll (s : Scene) (letters : List Letter) : Scene :=
  letters.foldl receive s

/-- What comes of several letters, one after the other. -/
def replies (s : Scene) : List Letter → List Reply
  | [] => []
  | l :: letters => s.reply l :: (s.receive l).replies letters

theorem letter_replies (s : Scene) (letters : List Letter) : (s.replies letters).map Reply.letter = letters := by
  induction letters generalizing s with
  | nil => rfl
  | cons l letters ih => rw [replies, List.map_cons, ih, reply]

/-! ## What a letter changes -/

/-- Nothing that is not kept of some entity, but for the messages, the feed and the count of refusals. -/
structure SameHouse (s s' : Scene) : Prop where
  scene : s.outbox.scene = s'.outbox.scene
  id : s.stage.id = s'.stage.id
  terrain : s.stage.terrain = s'.stage.terrain
  rules : s.referee.rules = s'.referee.rules
  random : s.random = s'.random
  limits : s.limits = s'.limits
  spawnAttempts : s.spawnAttempts = s'.spawnAttempts

namespace SameHouse

theorem refl (s : Scene) : SameHouse s s :=
  ⟨rfl, rfl, rfl, rfl, rfl, rfl, rfl⟩

theorem symm (h : SameHouse s s') : SameHouse s' s :=
  ⟨h.scene.symm, h.id.symm, h.terrain.symm, h.rules.symm, h.random.symm, h.limits.symm, h.spawnAttempts.symm⟩

theorem trans (h : SameHouse s s') (h' : SameHouse s' t) : SameHouse s t :=
  ⟨h.scene.trans h'.scene, h.id.trans h'.id, h.terrain.trans h'.terrain, h.rules.trans h'.rules,
    h.random.trans h'.random, h.limits.trans h'.limits, h.spawnAttempts.trans h'.spawnAttempts⟩

end SameHouse

theorem sameHouse_receive (s : Scene) (l : Letter) : SameHouse s (s.receive l) := by
  unfold receive
  cases hc : s.referee.check s.stage l.now l.sender l.report with
  | error =>
    have hscene : (((s.entity? l.sender).map fun e => s.outbox.tell l.sender (.stop l.sender e.pos l.report.seq)).getD
        s.outbox).scene = s.outbox.scene := by
      cases s.entity? l.sender <;> rfl
    rw [report_of_check_error hc, resync_eq]
    exact ⟨hscene.symm, rfl, rfl, rfl, rfl, rfl, rfl⟩
  | ok =>
    obtain ⟨e, -, -, hr⟩ := report_of_check_ok hc
    rw [hr]
    exact ⟨rfl, rfl, rfl, rfl, rfl, rfl, rfl⟩

theorem refused_receive (s : Scene) (l : Letter) :
    (s.receive l).refused = s.refused + if (s.reply l).refuses then 1 else 0 := by
  rw [receive, refused_report]
  rfl

theorem refused_receiveAll (s : Scene) (letters : List Letter) :
    (s.receiveAll letters).refused = s.refused + .ofNat ((s.replies letters).countP Reply.refuses) := by
  induction letters generalizing s with
  | nil => exact (UInt64.add_zero _).symm
  | cons l letters ih =>
    have hcons : (s.receiveAll (l :: letters)).refused = ((s.receive l).receiveAll letters).refused := rfl
    rw [hcons, ih, refused_receive, replies, List.countP_cons, ofNat_add_ite, UInt64.add_assoc,
      UInt64.add_comm (.ofNat _)]

theorem outbox_receiveAll (s : Scene) (letters : List Letter) :
    (s.receiveAll letters).outbox.toList = s.outbox.toList ++ (s.replies letters).flatMap Reply.messages := by
  induction letters generalizing s with
  | nil => exact (List.append_nil _).symm
  | cons l letters ih =>
    have hcons : (s.receiveAll (l :: letters)).outbox = ((s.receive l).receiveAll letters).outbox := rfl
    have hone : (s.receive l).outbox.toList = s.outbox.toList ++ (s.reply l).messages := by
      rw [reply, sent_report]
      exact s.outbox_report l.now l.sender l.report
    rw [hcons, ih, hone, replies, List.flatMap_cons, List.append_assoc]

/-! ## What a letter depends on -/

/-- Two scenes that keep the same of an entity. -/
structure Alike (h : Handle) (s s' : Scene) : Prop where
  house : SameHouse s s'
  entity : s.entity? h = s'.entity? h
  session : s.referee.sessions[h]? = s'.referee.sessions[h]?

namespace Alike

theorem refl (h : Handle) (s : Scene) : Alike h s s :=
  ⟨.refl s, rfl, rfl⟩

theorem symm (ha : Alike h s s') : Alike h s' s :=
  ⟨ha.house.symm, ha.entity.symm, ha.session.symm⟩

theorem trans (ha : Alike h s s') (ha' : Alike h s' t) : Alike h s t :=
  ⟨ha.house.trans ha'.house, ha.entity.trans ha'.entity, ha.session.trans ha'.session⟩

theorem check_eq (ha : Alike h s s') (now : Nat) (report : Report) :
    s.referee.check s.stage now h report = s'.referee.check s'.stage now h report := by
  have hpos : Arena.position s.stage h = Arena.position s'.stage h := congrArg (Option.map Entity.pos) ha.entity
  have hspeed : Arena.speed s.stage h = Arena.speed s'.stage h := congrArg (Option.map Entity.speed) ha.entity
  have hwalk : Arena.walkable s.stage = Arena.walkable s'.stage := congrArg Terrain.walkable ha.house.terrain
  simp only [Referee.check, Referee.survey, Referee.session_eq, hpos, hspeed, hwalk, ha.house.rules, ha.session]

end Alike

/-- A letter of another one changes nothing that is kept of an entity. -/
theorem alike_receive (hne : l.sender ≠ h) : Alike h s (s.receive l) := by
  have hhouse := sameHouse_receive s l
  unfold receive at hhouse ⊢
  cases hc : s.referee.check s.stage l.now l.sender l.report with
  | error =>
    rw [report_of_check_error hc, resync_eq] at hhouse ⊢
    exact ⟨hhouse, rfl, rfl⟩
  | ok =>
    obtain ⟨e, -, -, hr⟩ := report_of_check_ok hc
    rw [hr] at hhouse ⊢
    exact ⟨hhouse, (Roster.getElem?_insert.trans (if_neg hne.symm)).symm,
      (Roster.getElem?_insert.trans (if_neg hne.symm)).symm⟩

/-- Scenes that keep the same of an entity answer its letters alike, and keep the same of it afterwards. -/
theorem Alike.receive (ha : Alike l.sender s s') :
    s.reply l = s'.reply l ∧ Alike l.sender (s.receive l) (s'.receive l) := by
  have hhouse := (sameHouse_receive s l).symm.trans (ha.house.trans (sameHouse_receive s' l))
  cases hc : s.referee.check s.stage l.now l.sender l.report with
  | error =>
    have hr := report_of_check_error hc
    have hr' := report_of_check_error (ha.check_eq l.now l.report ▸ hc)
    refine ⟨?_, hhouse, ?_, ?_⟩
    · simp only [reply, sent_report, replyTo, hr, hr', ha.house.scene, ha.entity]
    · simp only [Scene.receive, hr, hr', resync_eq]
      exact ha.entity
    · simp only [Scene.receive, hr, hr', resync_eq]
      exact ha.session
  | ok =>
    obtain ⟨e, he, -, hr⟩ := report_of_check_ok hc
    obtain ⟨e', he', -, hr'⟩ := report_of_check_ok (ha.check_eq l.now l.report ▸ hc)
    obtain rfl : e = e' := Option.some.inj (he.symm.trans (ha.entity.trans he'))
    refine ⟨?_, hhouse, ?_, ?_⟩
    · simp only [reply, sent_report, replyTo, hr, hr', ha.house.scene]
    · simp only [Scene.receive, hr, hr', granted, shifted, entity?, Roster.getElem?_insert, if_pos]
    · simp only [Scene.receive, hr, hr', granted, Roster.getElem?_insert, if_pos]

/-- What comes of the letters of an entity, and what is kept of it, depends on its letters alone. -/
theorem Alike.filter (ha : Alike h s s') (letters : List Letter) :
    Alike h (s.receiveAll letters) (s'.receiveAll (letters.filter (·.sender = h))) ∧
      (s.replies letters).filter (·.letter.sender = h) = s'.replies (letters.filter (·.sender = h)) := by
  induction letters generalizing s s' with
  | nil => exact ⟨ha, rfl⟩
  | cons l letters ih =>
    by_cases hl : l.sender = h
    · subst hl
      obtain ⟨hreply, ha'⟩ := ha.receive
      obtain ⟨hafter, hreplies⟩ := ih ha'
      have hkept : (l :: letters).filter (·.sender = l.sender) = l :: letters.filter (·.sender = l.sender) :=
        List.filter_cons_of_pos (decide_eq_true rfl)
      rw [hkept, replies, replies, ← hreply, ← hreplies]
      exact ⟨hafter, List.filter_cons_of_pos (decide_eq_true rfl)⟩
    · obtain ⟨hafter, hreplies⟩ := ih ((alike_receive hl).symm.trans ha)
      have hdropped : (l :: letters).filter (·.sender = h) = letters.filter (·.sender = h) :=
        List.filter_cons_of_neg (by rw [decide_eq_true_eq]; exact hl)
      rw [hdropped, replies, ← hreplies]
      exact ⟨hafter, List.filter_cons_of_neg (by rw [decide_eq_true_eq]; exact hl)⟩

/-! ## Who sees whom -/

/-- After every history, each one has been told of something to which it is owed the difference. -/
theorem told_after (setup : SceneSetup) (terrain : Terrain) (feed : PositionFeed) (past : List Deed) :
    ∃ told : Handle → HandleSet, ((empty setup terrain feed).after past).visibility.All fun h w => w.Owes (told h) := by
  have howing := owing_after setup terrain feed past
  generalize ((empty setup terrain feed).after past).visibility = v at howing ⊢
  have hone : ∀ h : Handle, ∃ told : HandleSet, ∀ w, v.watchers[h]? = some w → w.Owes told := by
    intro h
    cases hw : v.watchers[h]? with
    | none => exact ⟨∅, nofun⟩
    | some w =>
      obtain ⟨told, hold⟩ := howing h w hw
      exact ⟨told, fun x hx => Option.some.inj hx ▸ hold⟩
  exact ⟨fun h => (hone h).choose, fun h => (hone h).choose_spec⟩

/-- Letters keep entities and sight coherent, and what everybody was told of. -/
theorem coherent_receiveAll {size : UInt32} {told : Handle → HandleSet} (hs : s.stage.Coherent size)
    (howes : s.visibility.All fun h w => w.Owes (told h)) (letters : List Letter) :
    (s.receiveAll letters).stage.Coherent size ∧
      (s.receiveAll letters).visibility.All fun h w => w.Owes (told h) := by
  induction letters generalizing s with
  | nil => exact ⟨hs, howes⟩
  | cons l letters ih =>
    have he := (accounted s (.report l.now l.sender l.report)).effect
    refine ih (he.coherent hs) ?_
    rw [visibility, receive]
    rw [perform] at he
    generalize (s.report l.now l.sender l.report).2.stage = st at he ⊢
    generalize s.sent (.report l.now l.sender l.report) = sent at he
    cases he with
    | announce => exact howes.move (lasting_owes told) _ _
    | resync => exact howes
    | idle => exact howes

/-- A coherent stage is determined by its ground, its entities and what everybody was told of. -/
theorem stage_eq {size : UInt32} {told : Handle → HandleSet} {st st' : Stage} (hs : st.Coherent size)
    (hs' : st'.Coherent size) (hground : st.id = st'.id ∧ st.terrain = st'.terrain)
    (hentities : st.entities = st'.entities) (howes : st.visibility.All fun h w => w.Owes (told h))
    (howes' : st'.visibility.All fun h w => w.Owes (told h)) : st = st' := by
  have hpos : ∀ h, st.visibility.position h = st'.visibility.position h := by
    intro h
    rw [hs.position_eq, hs'.position_eq, hentities]
  have hvisibility : st.visibility = st'.visibility :=
    hs.sound.ext hs'.sound (hs.cellSize.trans hs'.cellSize.symm) hpos howes howes'
  cases st
  cases st'
  exact Stage.mk.injEq .. ▸ ⟨hground.1, hground.2, hvisibility, hentities⟩

/-! ## Letters in another order -/

/-- Two letters of different senders may change places. -/
theorem sameBySender_swap {m : Letter} (hne : l.sender ≠ m.sender) (letters : List Letter) :
    SameBySender (l :: m :: letters) (m :: l :: letters) := by
  intro h
  by_cases hl : l.sender = h
  · have hm : ¬m.sender = h := fun hm => hne (hl.trans hm.symm)
    simp [hl, hm]
  · simp [List.filter_cons, hl]

/-- Letters in two orders come to the same in a scene. -/
structure SameOutcome (s : Scene) (letters letters' : List Letter) : Prop where
  /-- Every letter has its reply. -/
  letter : (s.replies letters).map Reply.letter = letters ∧ (s.replies letters').map Reply.letter = letters'
  /-- Every letter of a sender is answered alike, and with the same messages. -/
  replies : ∀ h, (s.replies letters).filter (·.letter.sender = h) = (s.replies letters').filter (·.letter.sender = h)
  stage : (s.receiveAll letters).stage = (s.receiveAll letters').stage
  referee : (s.receiveAll letters).referee = (s.receiveAll letters').referee
  refused : (s.receiveAll letters).refused = (s.receiveAll letters').refused
  house : SameHouse (s.receiveAll letters) (s.receiveAll letters')
  /-- The messages are those of the replies, which only come in another order. -/
  outbox : (s.receiveAll letters).outbox.toList = s.outbox.toList ++ (s.replies letters).flatMap Reply.messages ∧
    (s.receiveAll letters').outbox.toList = s.outbox.toList ++ (s.replies letters').flatMap Reply.messages
  perm : (s.receiveAll letters).outbox.toList.Perm (s.receiveAll letters').outbox.toList
  /-- A flush tells the same of who came into view and who went out of it. -/
  flush : (s.receiveAll letters).flush.1 = (s.receiveAll letters').flush.1 ∧
    (s.receiveAll letters).sent .flush = (s.receiveAll letters').sent .flush

theorem sameOutcome_of_sameBySender {size : UInt32} {told : Handle → HandleSet} (hs : s.stage.Coherent size)
    (howes : s.visibility.All fun h w => w.Owes (told h)) (hsame : SameBySender letters letters') :
    s.SameOutcome letters letters' := by
  have halike : ∀ h, Alike h (s.receiveAll letters) (s.receiveAll letters') := by
    intro h
    have hone := ((Alike.refl h s).filter letters).1
    rw [hsame h] at hone
    exact hone.trans ((Alike.refl h s).filter letters').1.symm
  have hreplies : ∀ h,
      (s.replies letters).filter (·.letter.sender = h) = (s.replies letters').filter (·.letter.sender = h) := by
    intro h
    rw [((Alike.refl h s).filter letters).2, ((Alike.refl h s).filter letters').2, hsame h]
  have hperm : (s.replies letters).Perm (s.replies letters') := perm_of_filter_eq hreplies
  obtain ⟨hcoherent, howed⟩ := coherent_receiveAll hs howes letters
  obtain ⟨hcoherent', howed'⟩ := coherent_receiveAll hs howes letters'
  have hhouse := (halike ⟨0⟩).house
  have hentities : (s.receiveAll letters).stage.entities = (s.receiveAll letters').stage.entities :=
    Std.ExtTreeMap.ext_getElem? fun {h} => (halike h).entity
  have hsessions : (s.receiveAll letters).referee.sessions = (s.receiveAll letters').referee.sessions :=
    Std.ExtTreeMap.ext_getElem? fun {h} => (halike h).session
  have hstage := stage_eq hcoherent hcoherent' ⟨hhouse.id, hhouse.terrain⟩ hentities howed howed'
  have htidings : (s.receiveAll letters).tidings = (s.receiveAll letters').tidings := by
    simp only [tidings, tidingsFor, sightings, visibility, entity?, hstage, hhouse.scene]
  refine
    { letter := ⟨s.letter_replies letters, s.letter_replies letters'⟩
      replies := hreplies
      stage := hstage
      referee := ?referee
      refused := by rw [refused_receiveAll, refused_receiveAll, hperm.countP_eq]
      house := hhouse
      outbox := ⟨s.outbox_receiveAll letters, s.outbox_receiveAll letters'⟩
      perm := ?perm
      flush := ?flush }
  case referee =>
    have hext : ∀ r r' : Referee, r.rules = r'.rules → r.sessions = r'.sessions → r = r' := by
      rintro ⟨⟩ ⟨⟩ rfl rfl
      rfl
    exact hext _ _ hhouse.rules hsessions
  case perm =>
    rw [outbox_receiveAll, outbox_receiveAll]
    exact (hperm.flatMap_right Reply.messages).append_left _
  case flush =>
    rw [sent_flush, sent_flush, htidings, (flush_spec _).2.2, (flush_spec _).2.2, htidings]
    exact ⟨rfl, rfl⟩

/-- **The order in which different clients report does not matter.** In every scene that a history can lead to, letters
in another order, in which each sender's letters keep theirs, are answered alike and leave the same behind, but for the
order of the messages. -/
theorem order_after (setup : SceneSetup) (terrain : Terrain) (feed : PositionFeed) (past : List Deed)
    (line : PositionFeed) (hsame : SameBySender letters letters') :
    ({ (empty setup terrain feed).after past with feed := line } : Scene).SameOutcome letters letters' := by
  obtain ⟨told, htold⟩ := told_after setup terrain feed past
  exact sameOutcome_of_sameBySender (coherent_after setup terrain feed past) htold hsame

/-- Two players who have just met walk away from each other, and whichever reports first, both come to the same. -/
theorem order_after_two :
    let eve := Handle.pack .role 0 1
    let bob := Handle.pack .role 0 2
    let past : List Deed := [.join (.outside bob "bob" ⟨2, 2⟩ 4), .join (.outside eve "eve" ⟨1, 1⟩ 4)]
    let s := (empty {} ⟨8, 8, .bitmap #[0xFFFFFFFFFFFFFFFF]⟩ .disconnected).after past
    let ofEve : Letter := ⟨eve, 0, .start 1 ⟨1, 1⟩ ⟨0, 0⟩ 4⟩
    let ofBob : Letter := ⟨bob, 5, .start 1 ⟨2, 2⟩ ⟨3, 3⟩ 4⟩
    let last : Letter := ⟨eve, 9, .finish 1 ⟨0, 1⟩⟩
    SameBySender [ofEve, ofBob, last] [ofBob, ofEve, last] ∧
      ((s.replies [ofEve, ofBob, last]).map fun r => (r.letter.sender, r.answer.isOk)) =
        [(eve, true), (bob, true), (eve, true)] ∧
      s.SameOutcome [ofEve, ofBob, last] [ofBob, ofEve, last] := by
  intro eve bob past s ofEve ofBob last
  have hne : ofEve.sender ≠ ofBob.sender := by decide
  have hsame : SameBySender [ofEve, ofBob, last] [ofBob, ofEve, last] := sameBySender_swap hne [last]
  exact ⟨hsame, by decide +kernel, order_after {} _ .disconnected past .disconnected hsame⟩

end Scene

end TileRealm
