import TileRealm.Proofs.Scene.Coherent

/-!
# What clients show

The client of a player shows those who appeared to it and did not disappear since.

- `replay`: what the client shows after some deliveries, or `none` if one of them contradicts what it shows;
- `filter_tidings`: of the deliveries of a flush, a player gets those that tell of its own net changes;
- `owes_replay`: the invariant of all histories, by which a player is owed the difference to what its client shows;
- `faithful_after`: after a flush every client shows what its player sees.
-/

set_option autoImplicit false

namespace TileRealm

variable {size : UInt32} {s : Scene} {r g h : Handle} {c : Changes} {w : Watcher}

/-! ## Clients -/

/-- What a client shows after an event; an appearance of somebody shown and a disappearance of somebody not shown are
contradictions. -/
def Event.glimpse (view : HandleSet) : Event → Option HandleSet
  | .appear portrait => if view.contains portrait.handle then none else some (view.insert portrait.handle)
  | .disappear g => if view.contains g then some (view.erase g) else none
  | _ => some view

namespace Scene

/-- What the client of `r` shows after a delivery, which counts only if it is for `r`. -/
def glimpse (r : Handle) (view : HandleSet) (d : Delivery) : Option HandleSet :=
  if d.recipient = .entity r then d.event.glimpse view else some view

/-- What the client of `r`, which shows nobody at first, shows after some deliveries. -/
def replay (r : Handle) (deliveries : List Delivery) : Option HandleSet :=
  deliveries.foldlM (glimpse r) ∅

/-- Deliveries for others do not count. -/
theorem foldlM_glimpse (deliveries : List Delivery) (view : HandleSet) :
    deliveries.foldlM (glimpse r) view =
      (deliveries.filter (·.recipient = .entity r)).foldlM (glimpse r) view := by
  induction deliveries generalizing view with
  | nil => rfl
  | cons d deliveries ih =>
    rw [List.foldlM_cons, List.filter_cons]
    split
    · rw [List.foldlM_cons]
      exact congrArg _ (funext ih)
    · rename_i hd
      rw [glimpse, if_neg (by simpa using hd)]
      exact ih view

/-- A delivery that tells of nobody's coming into view or going out of it. -/
theorem glimpse_eq_some {d : Delivery} (happear : d.event.appears = false) (hdisappear : d.event.disappears = false)
    (view : HandleSet) : glimpse r view d = some view := by
  unfold glimpse
  split
  · cases he : d.event with
    | move => rfl
    | stop => rfl
    | appear => simp [he, Event.appears] at happear
    | disappear => simp [he, Event.disappears] at hdisappear
  · rfl

/-! ## The deliveries of a flush -/

theorem recipient_tidingsFor {d : Delivery} (hd : d ∈ s.tidingsFor h c) : d.recipient = .entity h := by
  obtain ⟨_, _, rfl⟩ := List.mem_map.mp hd
  rfl

theorem filter_flatMap_tidingsFor (changes : List (Handle × Changes)) :
    (changes.flatMap fun p => s.tidingsFor p.1 p.2).filter (·.recipient = .entity r) =
      (changes.filter (·.1 = r)).flatMap fun p => s.tidingsFor p.1 p.2 := by
  induction changes with
  | nil => rfl
  | cons p changes ih =>
    rw [List.flatMap_cons, List.filter_append, ih, List.filter_cons]
    by_cases hp : p.1 = r
    · have hall : (s.tidingsFor p.1 p.2).filter (·.recipient = .entity r) = s.tidingsFor p.1 p.2 := by
        rw [List.filter_eq_self]
        intro d hd
        rw [recipient_tidingsFor hd, hp]
        exact decide_eq_true rfl
      rw [hall, if_pos (decide_eq_true hp), List.flatMap_cons]
    · have hnone : (s.tidingsFor p.1 p.2).filter (·.recipient = .entity r) = [] := by
        rw [List.filter_eq_nil_iff]
        intro d hd
        simp [recipient_tidingsFor hd, hp]
      rw [hnone, if_neg (by simpa using hp), List.nil_append]

/-- In a list in ascending order, a key comes once. -/
theorem filter_key {changes : List (Handle × Changes)}
    (hl : (changes.map (·.1)).Pairwise fun a b => a.raw < b.raw) (hc : (r, c) ∈ changes) :
    changes.filter (·.1 = r) = [(r, c)] := by
  obtain ⟨before, after, rfl⟩ := List.append_of_mem hc
  rw [List.map_append, List.map_cons, List.pairwise_append, List.pairwise_cons] at hl
  obtain ⟨_, ⟨hafter, _⟩, hbefore⟩ := hl
  have hother : ∀ p : Handle × Changes, (p.1.raw < r.raw ∨ r.raw < p.1.raw) → p.1 ≠ r := by
    rintro p hp rfl
    rcases hp with hp | hp <;> exact UInt64.lt_irrefl _ hp
  have hnone : ∀ others : List (Handle × Changes), (∀ p ∈ others, p.1 ≠ r) → others.filter (·.1 = r) = [] := by
    intro others ho
    simpa [List.filter_eq_nil_iff] using fun a b hp => ho (a, b) hp
  rw [List.filter_append, List.filter_cons_of_pos (by simp), hnone before, hnone after, List.nil_append]
  · exact fun p hp => hother p (Or.inr (hafter p.1 (List.mem_map_of_mem hp)))
  · exact fun p hp => hother p (Or.inl (hbefore p.1 (List.mem_map_of_mem hp) r List.mem_cons_self))

/-- Of the deliveries of a flush, a player gets those that tell of its own net changes. -/
theorem filter_tidings (hr : r.isRole = true) (hw : s.visibility.watchers[r]? = some w) :
    s.tidings.filter (·.recipient = .entity r) = s.tidingsFor r w.changes := by
  rw [tidings, filter_flatMap_tidingsFor, List.filter_filter]
  have hrole : ∀ changes : List (Handle × Changes),
      changes.filter (fun p => decide (p.1 = r) && p.1.isRole) = changes.filter (·.1 = r) := by
    intro changes
    congr 1
    funext p
    by_cases hp : p.1 = r <;> simp [hp, hr]
  rw [hrole]
  by_cases hne : w.entered = ∅ ∧ w.left = ∅
  · have hnone : s.visibility.pending.filter (·.1 = r) = [] := by
      rw [List.filter_eq_nil_iff]
      rintro ⟨h, c⟩ hc
      obtain ⟨x, hx, _, hne'⟩ := Visibility.mem_pending.mp hc
      simp only [decide_eq_true_eq]
      rintro rfl
      obtain rfl := Option.some.inj (hw.symm.trans hx)
      exact hne' hne
    rw [hnone]
    simp [tidingsFor, sightings, Watcher.changes, hne]
  · have hmem : (r, w.changes) ∈ s.visibility.pending := Visibility.mem_pending.mpr ⟨w, hw, rfl, hne⟩
    rw [filter_key s.visibility.ascending_pending hmem]
    simp

/-! ## A player is told of its net changes -/

/-- Several appear, all of them entities that were not shown. -/
theorem foldlM_appear (hnamed : ∀ {h : Handle} {e : Entity}, s.entity? h = some e → e.handle = h) (peers : List Handle)
    (hnodup : peers.Nodup) (view : HandleSet) (hpeers : ∀ g ∈ peers, g ∉ view ∧ ∃ e, s.entity? g = some e) :
    ∃ shown, (peers.filterMap fun h => (s.entity? h).map fun e => Event.appear e.portrait).foldlM Event.glimpse view =
      some shown ∧ ∀ g, g ∈ shown ↔ g ∈ view ∨ g ∈ peers := by
  induction peers generalizing view with
  | nil => exact ⟨view, rfl, by simp⟩
  | cons p peers ih =>
    obtain ⟨hp, hnodup⟩ := List.nodup_cons.mp hnodup
    obtain ⟨hnew, e, he⟩ := hpeers p List.mem_cons_self
    have hglimpse : (Event.appear e.portrait).glimpse view = some (view.insert p) := by
      simp [Event.glimpse, Entity.portrait, hnamed he, hnew]
    obtain ⟨shown, hshown, hmem⟩ := ih hnodup (view.insert p) fun g hg => by
      obtain ⟨hg', he'⟩ := hpeers g (List.mem_cons_of_mem p hg)
      refine ⟨?_, he'⟩
      rw [HandleSet.mem_insert]
      rintro (rfl | hv)
      · exact hp hg
      · exact hg' hv
    refine ⟨shown, ?_, fun g => ?_⟩
    · simp only [List.filterMap_cons, he, Option.map_some, List.foldlM_cons, hglimpse]
      exact hshown
    · rw [hmem, HandleSet.mem_insert, List.mem_cons]
      grind

/-- Several disappear, all of them shown. -/
theorem foldlM_disappear (peers : List Handle) (hnodup : peers.Nodup) (view : HandleSet)
    (hpeers : ∀ g ∈ peers, g ∈ view) :
    ∃ shown, (peers.map Event.disappear).foldlM Event.glimpse view = some shown ∧
      ∀ g, g ∈ shown ↔ g ∈ view ∧ g ∉ peers := by
  induction peers generalizing view with
  | nil => exact ⟨view, rfl, by simp⟩
  | cons p peers ih =>
    obtain ⟨hp, hnodup⟩ := List.nodup_cons.mp hnodup
    have hglimpse : (Event.disappear p).glimpse view = some (view.erase p) := by
      simp [Event.glimpse, hpeers p List.mem_cons_self]
    obtain ⟨shown, hshown, hmem⟩ := ih hnodup (view.erase p) fun g hg => by
      rw [HandleSet.mem_erase]
      refine ⟨?_, hpeers g (List.mem_cons_of_mem p hg)⟩
      rintro rfl
      exact hp hg
    refine ⟨shown, ?_, fun g => ?_⟩
    · simp only [List.map_cons, List.foldlM_cons, hglimpse]
      exact hshown
    · rw [hmem, HandleSet.mem_erase, List.mem_cons]
      grind

/-- A player that is owed the difference to what its client shows, and is told of it. -/
theorem foldlM_tidingsFor {view : HandleSet} (hnamed : ∀ {h : Handle} {e : Entity}, s.entity? h = some e → e.handle = h)
    (hw : w.Owes view) (hthere : ∀ g ∈ w.visible, ∃ e, s.entity? g = some e) :
    (s.tidingsFor r w.changes).foldlM (glimpse r) view = some w.visible := by
  have hentered : ∀ g ∈ w.entered.toList, g ∉ view ∧ ∃ e, s.entity? g = some e := by
    intro g hg
    rw [Std.ExtTreeSet.mem_toList, hw.entered, Std.ExtTreeSet.mem_diff_iff] at hg
    exact ⟨hg.2, hthere g hg.1⟩
  obtain ⟨shown, hshown, hmem⟩ := foldlM_appear hnamed _ w.entered.nodup_toList view hentered
  have hleft : ∀ g ∈ w.left.toList, g ∈ shown := by
    intro g hg
    rw [Std.ExtTreeSet.mem_toList, hw.left, Std.ExtTreeSet.mem_diff_iff] at hg
    exact (hmem g).mpr (Or.inl hg.1)
  obtain ⟨final, hfinal, hmem'⟩ := foldlM_disappear _ w.left.nodup_toList shown hleft
  have hvisible : final = w.visible := by
    ext g
    rw [hmem', hmem, Std.ExtTreeSet.mem_toList, Std.ExtTreeSet.mem_toList, hw.entered, hw.left,
      Std.ExtTreeSet.mem_diff_iff, Std.ExtTreeSet.mem_diff_iff]
    grind
  have hglimpse : ∀ (view : HandleSet) (event : Event),
      glimpse r view ⟨s.outbox.scene, .entity r, event⟩ = event.glimpse view := fun _ _ => if_pos rfl
  simp only [tidingsFor, List.foldlM_map, hglimpse, List.foldlM_append]
  have hfirst : (s.sightings w.changes).1.foldlM Event.glimpse view = some shown := hshown
  have hsecond : (s.sightings w.changes).2.foldlM Event.glimpse shown = some final := hfinal
  rw [hfirst, Option.bind_eq_bind, Option.bind_some, hsecond, hvisible]

/-! ## Histories -/

/-- Only flushes tell who came into view and who went out of it. -/
theorem Effect.silent {d : Deed} {st : Stage} {told : List Delivery} (he : Effect s d st told) (hd : d ≠ .flush) :
    ∀ x ∈ told, x.event.appears = false ∧ x.event.disappears = false := by
  intro x hx
  cases he with
  | enter => cases hx
  | leave => cases hx
  | shift => cases hx
  | @announce _ _ _ _ event _ _ hshows =>
    rw [List.mem_singleton.mp hx]
    cases event with
    | move => exact ⟨rfl, rfl⟩
    | stop => exact ⟨rfl, rfl⟩
    | appear => exact hshows.elim
    | disappear => exact hshows.elim
  | resync =>
    rw [List.mem_singleton.mp hx]
    exact ⟨rfl, rfl⟩
  | idle => cases hx
  | flush => exact absurd rfl hd

/-- A client goes on showing what it shows until a flush. -/
theorem foldlM_silent {deliveries : List Delivery}
    (hsilent : ∀ x ∈ deliveries, x.event.appears = false ∧ x.event.disappears = false) (view : HandleSet) :
    deliveries.foldlM (glimpse r) view = some view := by
  induction deliveries with
  | nil => rfl
  | cons d deliveries ih =>
    obtain ⟨happear, hdisappear⟩ := hsilent d List.mem_cons_self
    rw [List.foldlM_cons, glimpse_eq_some happear hdisappear]
    exact ih fun x hx => hsilent x (List.mem_cons_of_mem d hx)

/-- A player is owed the difference to what its client shows. -/
def Owed (shown : Handle → Option HandleSet) (r : Handle) (w : Watcher) : Prop :=
  r.isRole = true → ∃ view, shown r = some view ∧ w.Owes view

theorem lasting_owed (shown : Handle → Option HandleSet) : Lasting (Owed shown) where
  gain _ _ peer hw hr := by
    obtain ⟨view, hview, hw⟩ := hw hr
    exact ⟨view, hview, hw.gain peer⟩
  lose _ _ peer hw hr := by
    obtain ⟨view, hview, hw⟩ := hw hr
    exact ⟨view, hview, hw.lose peer⟩
  shift _ _ _ hw hr := by
    obtain ⟨view, hview, hw⟩ := hw hr
    exact ⟨view, hview, ⟨hw.entered, hw.left⟩⟩

/-- All that an entity sees are entities. -/
theorem entity_of_visible (hs : s.stage.Coherent size) (hw : s.visibility.watchers[r]? = some w) (hg : g ∈ w.visible) :
    ∃ e, s.entity? g = some e := by
  obtain ⟨_, _, f, _, hf, _⟩ := hs.sees_iff.mp ((Visibility.sees_iff_mem hw).mpr hg)
  exact ⟨f, hf⟩

/-- Every effect keeps what players are owed, if the client of a player who joins shows nobody at first. -/
theorem Effect.owed {d : Deed} {st : Stage} {told : List Delivery} (hs : s.stage.Coherent size)
    (he : Effect s d st told) {shown shown' : Handle → Option HandleSet} (hall : s.visibility.All (Owed shown))
    (hjoin : ∀ r, s.admits r d = true → shown' r = some ∅)
    (hstay : ∀ r, s.admits r d = false → shown' r = (shown r).bind (told.foldlM (glimpse r))) :
    st.visibility.All (Owed shown') := by
  -- whoever stays through a deed that is no flush is owed the same as before
  have hkeep : ∀ {r w}, d ≠ .flush → s.admits r d = false → Owed shown r w → Owed shown' r w := by
    intro r w hd hadmits hw hr
    obtain ⟨view, hview, hw⟩ := hw hr
    refine ⟨view, ?_, hw⟩
    rw [hstay r hadmits, hview, Option.bind_some, foldlM_silent (he.silent hd)]
  have hall' : d ≠ .flush → (∀ r, s.admits r d = false) → s.visibility.All (Owed shown') :=
    fun hd hadmits r w hw => hkeep hd (hadmits r) (hall r w hw)
  have hlasting := lasting_owed shown'
  cases he with
  | @enter e hnew =>
    have hold : s.visibility.All (Owed shown') := by
      intro r w hw
      have hr : e.handle ≠ r := by
        rintro rfl
        rw [(entity?_eq_none_iff hs).mp hnew] at hw
        cases hw
      exact hkeep (by simp) (by simp [admits, hr]) (hall r w hw)
    refine hold.add hlasting e.handle e.pos fun _ _ => ⟨∅, hjoin e.handle ?_, Watcher.owes_newcomer e.pos⟩
    simp [admits, contains_eq_false_iff.mpr hnew]
  | @leave h =>
    have hold := (hall' (by simp) fun _ => rfl).remove h
    simp only [left, Visibility.removeAndRefresh, Std.ExtTreeSet.foldl_eq_foldl_toList]
    exact hold.foldl_refresh hlasting _
  | @shift h pos => exact (hall' (by simp) fun _ => rfl).move hlasting h pos
  | @announce _ h pos _ _ hd => exact (hall' hd.ne_flush hd.admits).move hlasting h pos
  | resync hd => exact hall' hd.ne_flush hd.admits
  | idle hd => exact hall' hd.ne_flush hd.admits
  | flush =>
    intro r w hw hr
    rw [informed, Visibility.getElem?_drain, Option.map_eq_some_iff] at hw
    obtain ⟨x, hx, rfl⟩ := hw
    obtain ⟨view, hview, hx'⟩ := hall r x hx hr
    refine ⟨x.visible, ?_, x.owes_told⟩
    rw [hstay r rfl, hview, Option.bind_some, foldlM_glimpse, filter_tidings hr hx]
    exact foldlM_tidingsFor hs.named hx' fun g hg => entity_of_visible hs hx hg

/-- After every history, players are owed the difference to what their clients show. -/
theorem owes_replay (setup : SceneSetup) (terrain : Terrain) (feed : PositionFeed) (past : List Deed) :
    ((empty setup terrain feed).after past).visibility.All
      (Owed fun r => replay r ((empty setup terrain feed).news r past)) := by
  induction past with
  | nil =>
    intro r w hw
    simp [after, empty, visibility, Visibility.empty] at hw
  | cons d past ih =>
    apply (accounted _ d).effect.owed (coherent_after setup terrain feed past) ih
    · intro r hr
      simp only [news, hr, if_true]
      rfl
    · intro r hr
      simp only [news, hr, Bool.false_eq_true, if_false, replay, List.foldlM_append]
      rfl

/-! ## Faithful clients -/

/-- The deliveries of a history keep clients and players together. -/
structure Faithful (s₀ : Scene) (size : UInt32) (past : List Deed) : Prop where
  /-- No delivery since a player joined contradicts what its client shows. -/
  consistent : ∀ {r : Handle}, r.isRole = true → (s₀.after past).contains r = true →
    ∃ view, replay r (s₀.news r past) = some view
  /-- After a flush, the clients of players show the other entities nearby. -/
  flushed : ∀ {r : Handle} {e : Entity}, r.isRole = true → (s₀.after (.flush :: past)).entity? r = some e →
    ∃ view, replay r (s₀.news r (.flush :: past)) = some view ∧ ∀ g, g ∈ view ↔
      g ≠ r ∧ ∃ f, (s₀.after (.flush :: past)).entity? g = some f ∧ e.pos.Nearby size f.pos
  /-- Visibility has the entities where they are. -/
  position_eq : ∀ h, (s₀.after past).visibility.position h = ((s₀.after past).entity? h).map (·.pos)
  /-- A flush tells players of entities as they are, and of those that disappeared. -/
  informs : ∀ x ∈ (s₀.after past).sent .flush, ∃ r, x.recipient = .entity r ∧ r.isRole = true ∧
    (s₀.after past).contains r = true ∧
    ((∃ e, (s₀.after past).entity? e.handle = some e ∧ x.event = .appear e.portrait) ∨ ∃ g, x.event = .disappear g)
  /-- Nothing else tells of anybody's coming into view or going out of it. -/
  silent : ∀ d, d ≠ .flush → ∀ x ∈ (s₀.after past).sent d, x.event.appears = false ∧ x.event.disappears = false
  /-- Whoever came into the view of a player is an entity, so that the player is told. -/
  entered : ∀ {r : Handle} {c : Changes}, r.isRole = true → (r, c) ∈ (s₀.after past).visibility.pending →
    ∀ g ∈ c.entered, (s₀.after past).contains g = true
  count : (s₀.after past).flush.1 = ⟨((s₀.after past).sent .flush).countP (·.event.appears),
    ((s₀.after past).sent .flush).countP (·.event.disappears)⟩
  /-- A second flush tells nobody anything. -/
  again : (s₀.after past).flush.2.flush = (⟨0, 0⟩, (s₀.after past).flush.2)

theorem sent_flush (s : Scene) : s.sent .flush = s.tidings := by
  rw [sent, perform, s.flush_spec.2.1, List.drop_left]

theorem contains_of_watcher (hs : s.stage.Coherent size) (hw : s.visibility.watchers[r]? = some w) :
    s.contains r = true := by
  cases hc : s.contains r with
  | true => rfl
  | false =>
    rw [(entity?_eq_none_iff hs).mp (contains_eq_false_iff.mp hc)] at hw
    cases hw

theorem watcher_of_contains (hs : s.stage.Coherent size) (hr : s.contains r = true) :
    ∃ w, s.visibility.watchers[r]? = some w := by
  cases hw : s.visibility.watchers[r]? with
  | some w => exact ⟨w, rfl⟩
  | none =>
    rw [contains_eq_false_iff.mpr ((entity?_eq_none_iff hs).mpr hw)] at hr
    cases hr

/-- After a flush nobody is owed anything. -/
theorem told_of_flush (hw : s.flush.2.visibility.watchers[r]? = some w) : w.entered = ∅ ∧ w.left = ∅ := by
  have hv : s.flush.2.visibility = s.visibility.drain.2 := congrArg Stage.visibility s.flush_spec.1
  rw [hv, Visibility.getElem?_drain, Option.map_eq_some_iff] at hw
  obtain ⟨x, _, rfl⟩ := hw
  exact ⟨rfl, rfl⟩

/-- What a flush sends to whom. -/
theorem mem_tidings (hs : s.stage.Coherent size) {x : Delivery} (hx : x ∈ s.tidings) :
    ∃ r, x.recipient = .entity r ∧ r.isRole = true ∧ s.contains r = true ∧
      ((∃ e, s.entity? e.handle = some e ∧ x.event = .appear e.portrait) ∨ ∃ g, x.event = .disappear g) := by
  obtain ⟨⟨r, c⟩, hp, hx⟩ := List.mem_flatMap.mp hx
  obtain ⟨hp, hr⟩ := List.mem_filter.mp hp
  obtain ⟨w, hw, _⟩ := Visibility.mem_pending.mp hp
  obtain ⟨event, hevent, rfl⟩ := List.mem_map.mp hx
  refine ⟨r, rfl, hr, contains_of_watcher hs hw, ?_⟩
  rcases List.mem_append.mp hevent with hevent | hevent
  · obtain ⟨g, _, hg⟩ := List.mem_filterMap.mp hevent
    obtain ⟨e, he, rfl⟩ := Option.map_eq_some_iff.mp hg
    exact Or.inl ⟨e, hs.named he ▸ he, rfl⟩
  · obtain ⟨g, _, rfl⟩ := List.mem_map.mp hevent
    exact Or.inr ⟨g, rfl⟩

/-- **Clients show what their players see.** After every history of a scene, in which entities may leave and join again
between two flushes, the deliveries keep the clients of players and what the players see together. -/
theorem faithful_after (setup : SceneSetup) (terrain : Terrain) (feed : PositionFeed) (past : List Deed) :
    Faithful (empty setup terrain feed) setup.cellSize past := by
  have hcoherent := coherent_after setup terrain feed
  have howed := owes_replay setup terrain feed
  generalize empty setup terrain feed = s₀ at hcoherent howed ⊢
  have hs := hcoherent past
  constructor
  · intro r hr hc
    obtain ⟨w, hw⟩ := watcher_of_contains hs hc
    obtain ⟨view, hview, _⟩ := howed past r w hw hr
    exact ⟨view, hview⟩
  · intro r e hr he
    have hflushed := hcoherent (.flush :: past)
    obtain ⟨w, hw⟩ := watcher_of_contains hflushed (contains_iff.mpr ⟨e, he⟩)
    obtain ⟨view, hview, howes⟩ := howed (.flush :: past) r w hw hr
    obtain ⟨hentered, hleft⟩ := told_of_flush hw
    refine ⟨view, hview, fun g => ?_⟩
    rw [howes.eq_visible hentered hleft, ← Visibility.sees_iff_mem hw, visibility, hflushed.sees_iff]
    constructor
    · rintro ⟨hne, e', f, he', hf, hn⟩
      obtain rfl := Option.some.inj (he.symm.trans he')
      exact ⟨hne, f, hf, hn⟩
    · rintro ⟨hne, f, hf, hn⟩
      exact ⟨hne, e, f, he, hf, hn⟩
  · exact hs.position_eq
  · intro x hx
    exact mem_tidings hs (sent_flush _ ▸ hx)
  · exact fun d hd => (accounted _ d).effect.silent hd
  · intro r c hr hc g hg
    obtain ⟨w, hw, rfl, _⟩ := Visibility.mem_pending.mp hc
    obtain ⟨view, _, hw'⟩ := howed past r w hw hr
    have hg : g ∈ w.entered := hg
    rw [hw'.entered, Std.ExtTreeSet.mem_diff_iff] at hg
    exact contains_iff.mpr (entity_of_visible hs hw hg.1)
  · rw [sent_flush]
    exact (flush_spec _).2.2
  · exact flush_flush _

/-- A monster that leaves and joins again between two flushes is still shown. -/
example :
    let player := Handle.pack .role 0 1
    let monster := Handle.pack .monster 0 2
    let s := empty {} ⟨8, 8, .bitmap #[0xFFFFFFFFFFFFFFFF]⟩ .disconnected
    replay player (s.news player [.flush, .join (.outside monster "bat" ⟨5, 5⟩ 4), .leave monster, .flush,
      .join (.outside monster "bat" ⟨2, 2⟩ 4), .join (.outside player "eve" ⟨1, 1⟩ 4)]) =
        some ((∅ : HandleSet).insert monster) := by
  decide +kernel

end Scene

end TileRealm
