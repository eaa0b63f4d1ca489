import TileRealm.Proofs.Scene.ClientView

/-!
# Where clients show entities

The client of a player keeps the places of those it shows.  It takes them from appearances, and follows the movements
that everybody in the scene is told of.

- `replica`: the places that a client has after a history;
- `formerPlace`: where an entity was when it left, as long as a player was not told of it since;
- `replica_known`: the invariant of all histories without silent moves; a client has an entity at its place, or at its
  former place if there is one;
- `sameKeys_replica`: a client has those that its player sees, when nothing is left to be told;
- `formerPlace_of_stay`: as long as an entity does not leave, it gets no former place.
-/

set_option autoImplicit false

namespace TileRealm

namespace Scene

variable {size : UInt32} {s : Scene} {r g h : Handle} {d : Deed} {p : Tile}

/-! ## Replicas -/

/-- The places that the client of `r` has after a delivery.  Movements count if everybody in the scene is told of them,
and if the client has the entity at all. -/
def read (r : Handle) (places : Roster Tile) (x : Delivery) : Roster Tile :=
  match x.recipient, x.event with
  | .scene, .move h pos _ _ => places.modify h fun _ => pos
  | .scene, .stop h pos _ => places.modify h fun _ => pos
  | .entity h, .appear portrait => if h = r then places.insert portrait.handle portrait.pos else places
  | .entity h, .disappear g => if h = r then places.erase g else places
  | _, _ => places

/-- The places that the client of `r` has, none when `r` joins. -/
def replica (s : Scene) (r : Handle) (past : List Deed) : Roster Tile :=
  (s.news r past).foldl (read r) ∅

/-- Whether a delivery tells the client of `r` where `g` is. -/
def tells (r g : Handle) (x : Delivery) : Bool :=
  match x.recipient, x.event with
  | .scene, .move h _ _ _ => decide (h = g)
  | .scene, .stop h _ _ => decide (h = g)
  | .entity h, .appear portrait => decide (h = r) && decide (portrait.handle = g)
  | _, _ => false

/-- Where `g` was when it left for the first time since the client of `r` was last told where `g` is. -/
def formerPlace (s : Scene) (r g : Handle) : List Deed → Option Tile
  | [] => none
  | d :: past =>
    if ((s.after past).sent d).any (tells r g) then none
    else if (s.after past).dismisses g d then
      (s.formerPlace r g past).or (((s.after past).entity? g).map (·.pos))
    else s.formerPlace r g past

/-! ## Those that a client shows -/

/-- A client has the places of those it shows. -/
def SameKeys (view : HandleSet) (places : Roster Tile) : Prop :=
  ∀ g, g ∈ view ↔ ∃ p, places[g]? = some p

theorem SameKeys.modify {view : HandleSet} {places : Roster Tile} (hk : SameKeys view places) (h : Handle) (p : Tile) :
    SameKeys view (places.modify h fun _ => p) := by
  intro g
  rw [hk g, Roster.getElem?_modify]
  split
  · cases places[g]? <;> simp
  · rfl

theorem SameKeys.read {view shown : HandleSet} {places : Roster Tile} (hk : SameKeys view places) {x : Delivery}
    (hx : glimpse r view x = some shown) : SameKeys shown (read r places x) := by
  obtain ⟨scene, recipient, event⟩ := x
  cases recipient with
  | scene =>
    obtain rfl : view = shown := by simpa [glimpse] using hx
    cases event with
    | move h pos => exact hk.modify h pos
    | stop h pos => exact hk.modify h pos
    | appear => exact hk
    | disappear => exact hk
  | entity h =>
    by_cases hr : h = r
    · simp only [glimpse, hr, if_true] at hx
      cases event with
      | move =>
        obtain rfl : view = shown := by simpa [Event.glimpse] using hx
        exact hk
      | stop =>
        obtain rfl : view = shown := by simpa [Event.glimpse] using hx
        exact hk
      | appear portrait =>
        simp only [Event.glimpse, Option.ite_none_left_eq_some, Option.some.injEq] at hx
        obtain ⟨_, rfl⟩ := hx
        intro g
        simp only [Scene.read, hr, if_true, HandleSet.mem_insert, Roster.getElem?_insert, hk g]
        split <;> simp_all
      | disappear k =>
        simp only [Event.glimpse, Option.ite_none_right_eq_some, Option.some.injEq] at hx
        obtain ⟨_, rfl⟩ := hx
        intro g
        simp only [Scene.read, hr, if_true, HandleSet.mem_erase, Roster.getElem?_erase, hk g]
        split <;> simp_all
    · obtain rfl : view = shown := by simpa [glimpse, hr] using hx
      cases event with
      | appear => simpa [Scene.read, hr] using hk
      | disappear => simpa [Scene.read, hr] using hk
      | move => exact hk
      | stop => exact hk

/-- A client whose deliveries do not contradict what it shows has the places of all that it shows, and no others. -/
theorem SameKeys.foldl {deliveries : List Delivery} {view shown : HandleSet} {places : Roster Tile}
    (hk : SameKeys view places) (hd : deliveries.foldlM (glimpse r) view = some shown) :
    SameKeys shown (deliveries.foldl (Scene.read r) places) := by
  induction deliveries generalizing view places with
  | nil =>
    obtain rfl : view = shown := by simpa using hd
    exact hk
  | cons x deliveries ih =>
    rw [List.foldlM_cons] at hd
    obtain ⟨next, hx, hd⟩ := Option.bind_eq_some_iff.mp hd
    exact ih (hk.read hx) hd

/-! ## Places -/

/-- A flush tells the places of entities.  If a player is not told of somebody, its client has what it had before. -/
theorem getElem?_foldl_read {deliveries : List Delivery}
    (hd : ∀ x ∈ deliveries, ∃ h, x.recipient = .entity h ∧
      ((∃ e, s.entity? e.handle = some e ∧ x.event = .appear e.portrait) ∨ ∃ g, x.event = .disappear g))
    {places : Roster Tile} (hp : (deliveries.foldl (read r) places)[g]? = some p) :
    if deliveries.any (tells r g) then (s.entity? g).map (·.pos) = some p else places[g]? = some p := by
  induction deliveries generalizing places with
  | nil => simpa using hp
  | cons x deliveries ih =>
    have hlater := ih (fun y hy => hd y (List.mem_cons_of_mem x hy)) hp
    rw [List.any_cons]
    cases hany : deliveries.any (tells r g) with
    | true => simpa [hany] using hlater
    | false =>
      obtain ⟨scene, recipient, event⟩ := x
      obtain ⟨h, rfl, ⟨e, he, rfl⟩ | ⟨k, rfl⟩⟩ := hd _ List.mem_cons_self
      · simp only [hany, Bool.false_eq_true, if_false, read] at hlater
        by_cases hr : h = r
        · by_cases hg : e.handle = g
          · have htells : tells r g ⟨scene, .entity h, .appear e.portrait⟩ = true := by
              simp [tells, hr, Entity.portrait, hg]
            rw [if_pos hr] at hlater
            simp only [Entity.portrait, Roster.getElem?_insert, if_pos hg.symm] at hlater
            rw [htells, ← hg, he]
            exact hlater
          · have htells : tells r g ⟨scene, .entity h, .appear e.portrait⟩ = false := by
              simp [tells, Entity.portrait, hg]
            rw [if_pos hr] at hlater
            simp only [Entity.portrait, Roster.getElem?_insert, if_neg (Ne.symm hg)] at hlater
            rw [htells]
            exact hlater
        · rw [if_neg hr] at hlater
          simpa [tells, hr] using hlater
      · simp only [hany, Bool.false_eq_true, if_false, read] at hlater
        by_cases hr : h = r <;> simp_all [tells, Roster.getElem?_erase]

/-- Everybody who is told of a movement puts the entity at its new place. -/
theorem told_of_shows {event : Event} {pos : Tile} (scene : UInt32) (hshows : event.Shows g pos)
    {places : Roster Tile} :
    tells r g ⟨scene, .scene, event⟩ = true ∧
      ((read r places ⟨scene, .scene, event⟩)[g]? = some p → p = pos) := by
  cases event with
  | move =>
    obtain ⟨rfl, rfl⟩ := hshows
    simp only [tells, read, decide_true, Roster.getElem?_modify, if_true, true_and, Option.map_eq_some_iff]
    rintro ⟨_, _, rfl⟩
    rfl
  | stop =>
    obtain ⟨rfl, rfl⟩ := hshows
    simp only [tells, read, decide_true, Roster.getElem?_modify, if_true, true_and, Option.map_eq_some_iff]
    rintro ⟨_, _, rfl⟩
    rfl
  | appear => exact hshows.elim
  | disappear => exact hshows.elim

/-- A movement of another entity says nothing of this one. -/
theorem untold_of_shows {event : Event} {pos : Tile} (scene : UInt32) (hshows : event.Shows h pos) (hg : h ≠ g)
    {places : Roster Tile} :
    tells r g ⟨scene, .scene, event⟩ = false ∧ (read r places ⟨scene, .scene, event⟩)[g]? = places[g]? := by
  cases event with
  | move =>
    obtain ⟨rfl, rfl⟩ := hshows
    simp [tells, read, Roster.getElem?_modify, hg, Ne.symm hg]
  | stop =>
    obtain ⟨rfl, rfl⟩ := hshows
    simp [tells, read, Roster.getElem?_modify, hg, Ne.symm hg]
  | appear => exact hshows.elim
  | disappear => exact hshows.elim

/-- A flush tells a player where entities are, or nothing of them. -/
theorem known_tidings (hs : s.stage.Coherent size) {places : Roster Tile} {former : Option Tile}
    (hold : places[g]? = some p → former.or ((s.entity? g).map (·.pos)) = some p)
    (hold' : (s.tidings.foldl (read r) places)[g]? = some p) :
    (if s.tidings.any (tells r g) then none else former).or ((s.entity? g).map (·.pos)) = some p := by
  have htidings : ∀ x ∈ s.tidings, ∃ h, x.recipient = .entity h ∧
      ((∃ e, s.entity? e.handle = some e ∧ x.event = .appear e.portrait) ∨ ∃ g, x.event = .disappear g) := by
    intro x hx
    obtain ⟨h, hh, _, _, hx⟩ := mem_tidings hs hx
    exact ⟨h, hh, hx⟩
  have hflush := getElem?_foldl_read htidings hold'
  split
  · rename_i htold
    rwa [if_pos htold] at hflush
  · rename_i htold
    rw [if_neg htold] at hflush
    exact hold hflush

/-- One step of the invariant: what a client has of an entity is its former place, or else its place. -/
theorem Effect.known {st : Stage} {told : List Delivery} (hs : s.stage.Coherent size) (he : Effect s d st told)
    (hloud : ∀ h pos, d ≠ .move h pos) {places : Roster Tile} {former : Option Tile}
    (hold : places[g]? = some p → former.or ((s.entity? g).map (·.pos)) = some p)
    (hold' : (told.foldl (read r) places)[g]? = some p) :
    (if told.any (tells r g) then none
      else if s.dismisses g d then former.or ((s.entity? g).map (·.pos)) else former).or
        (st.entities[g]?.map (·.pos)) = some p := by
  cases he with
  | @enter e hnew =>
    have hbefore := hold hold'
    simp only [List.any_nil, dismisses, entered, Roster.getElem?_insert, Bool.false_eq_true, if_false]
    by_cases hg : g = e.handle
    · subst hg
      rw [hnew, Option.map_none, Option.or_none] at hbefore
      rw [hbefore, Option.some_or]
    · rw [if_neg hg]
      exact hbefore
  | @leave h e he =>
    have hbefore := hold hold'
    simp only [List.any_nil, left, Roster.getElem?_erase, Bool.false_eq_true, if_false]
    by_cases hg : g = h
    · subst hg
      have hdismisses : s.dismisses g (.leave g) = true := by simp [dismisses, contains_iff.mpr ⟨e, he⟩]
      rw [if_pos hdismisses, hbefore, Option.some_or]
    · have hdismisses : s.dismisses g (.leave h) = false := by simp [dismisses, Ne.symm hg]
      rw [hdismisses, if_neg hg]
      exact hbefore
  | @shift h pos => exact absurd rfl (hloud h pos)
  | @announce _ h pos e event hd he hshows =>
    simp only [shifted, Roster.getElem?_insert, hd.dismisses, Bool.false_eq_true, if_false]
    by_cases hg : g = h
    · subst hg
      obtain ⟨htells, hread⟩ := told_of_shows (r := r) s.outbox.scene hshows
      rw [List.any_cons, htells, Bool.true_or, if_pos rfl, Option.none_or, if_pos rfl, Option.map_some]
      exact congrArg some (hread hold').symm
    · obtain ⟨htells, hread⟩ := untold_of_shows (r := r) s.outbox.scene hshows (Ne.symm hg)
      rw [List.any_cons, htells, List.any_nil, Bool.or_false, if_neg Bool.false_ne_true, if_neg hg]
      exact hold (hread ▸ hold')
  | @resync _ h pos seq hd =>
    have hbefore := hold hold'
    rw [hd.dismisses]
    exact hbefore
  | idle hd =>
    have hbefore := hold hold'
    rw [hd.dismisses]
    exact hbefore
  | flush => exact known_tidings hs hold hold'

/-- **What clients have.** After every history without silent moves, the place that a client has of an entity is its
former place, if there is one, and otherwise the place where the entity is. -/
theorem replica_known {s₀ : Scene} (hs : ∀ past, (s₀.after past).stage.Coherent size) {past : List Deed}
    (hloud : ∀ h pos, .move h pos ∉ past) (hp : (s₀.replica r past)[g]? = some p) :
    (s₀.formerPlace r g past).or (((s₀.after past).entity? g).map (·.pos)) = some p := by
  induction past generalizing p with
  | nil => simp [replica, news] at hp
  | cons d past ih =>
    have hloud' : ∀ h pos, .move h pos ∉ past := fun h pos hm => hloud h pos (List.mem_cons_of_mem d hm)
    by_cases hadmits : (s₀.after past).admits r d = true
    · simp [replica, news, hadmits] at hp
    · rw [replica, news, if_neg hadmits, List.foldl_append] at hp
      exact (accounted _ d).effect.known (hs past) (fun h pos e => hloud h pos (e ▸ List.mem_cons_self)) (ih hloud') hp

/-- A client has nobody new without being told. -/
theorem getElem?_read_untold {places : Roster Tile} {x : Delivery} (hx : tells r g x = false)
    (hp : ∃ p, (read r places x)[g]? = some p) : ∃ p, places[g]? = some p := by
  obtain ⟨scene, recipient, event⟩ := x
  cases recipient with
  | scene =>
    cases event with
    | move | stop =>
      simp only [read, Roster.getElem?_modify] at hp
      split at hp <;> simpa using hp
    | appear | disappear => exact hp
  | entity h =>
    cases event with
    | move | stop => exact hp
    | appear portrait =>
      by_cases hr : h = r
      · have hg : g ≠ portrait.handle := by
          rintro rfl
          simp [tells, hr] at hx
        simpa [read, hr, Roster.getElem?_insert, hg] using hp
      · simpa [read, hr] using hp
    | disappear k =>
      by_cases hr : h = r
      · simp only [read, hr, if_true, Roster.getElem?_erase] at hp
        split at hp
        · simp at hp
        · exact hp
      · simpa [read, hr] using hp

theorem getElem?_foldl_untold {deliveries : List Delivery} {places : Roster Tile}
    (hd : deliveries.any (tells r g) = false) (hp : ∃ p, (deliveries.foldl (read r) places)[g]? = some p) :
    ∃ p, places[g]? = some p := by
  induction deliveries generalizing places with
  | nil => exact hp
  | cons x deliveries ih =>
    obtain ⟨hx, hd⟩ := Bool.or_eq_false_iff.mp hd
    exact getElem?_read_untold hx (ih hd hp)

/-- Nobody is in the scene who was not there and did not join. -/
theorem Effect.contains {st : Stage} {told : List Delivery} (he : Effect s d st told) (hr : s.admits r d = false)
    (hst : ∃ e, st.entities[r]? = some e) : s.contains r = true := by
  rw [contains_iff]
  cases he with
  | @enter e hnew =>
    have hne : r ≠ e.handle := by
      rintro rfl
      simp [admits, contains_eq_false_iff.mpr hnew] at hr
    simpa [entered, entity?, Roster.getElem?_insert, hne] using hst
  | @leave h =>
    simp only [left, Roster.getElem?_erase] at hst
    split at hst
    · simp at hst
    · exact hst
  | @shift h _ e he | @announce _ h _ e _ _ he =>
    by_cases hne : r = h
    · exact ⟨e, hne ▸ he⟩
    · simpa [shifted, entity?, Roster.getElem?_insert, hne] using hst
  | resync => exact hst
  | idle => exact hst
  | flush => exact hst

/-- As long as an entity does not leave, it gets no former place. -/
theorem formerPlace_of_stay {s₀ : Scene} {past later : List Deed} (hstay : .leave g ∉ later)
    (hr : (s₀.after (later ++ past)).contains r = true) (hg : ∃ p, (s₀.replica r (later ++ past))[g]? = some p) :
    s₀.formerPlace r g (later ++ past) = none ∨
      ((s₀.after past).contains r = true ∧ (∃ p, (s₀.replica r past)[g]? = some p) ∧
        s₀.formerPlace r g (later ++ past) = s₀.formerPlace r g past) := by
  induction later with
  | nil => exact Or.inr ⟨hr, hg, rfl⟩
  | cons d later ih =>
    rw [List.cons_append] at hr hg ⊢
    by_cases hadmits : (s₀.after (later ++ past)).admits r d = true
    · simp [replica, news, hadmits] at hg
    rw [Bool.not_eq_true] at hadmits
    rw [formerPlace]
    cases htold : ((s₀.after (later ++ past)).sent d).any (tells r g) with
    | true => exact Or.inl rfl
    | false =>
      have hdismisses : (s₀.after (later ++ past)).dismisses g d = false := by
        cases d with
        | leave h =>
          have hne : h ≠ g := by
            rintro rfl
            exact hstay List.mem_cons_self
          simp [dismisses, hne]
        | _ => rfl
      simp only [hdismisses, Bool.false_eq_true, if_false]
      have hr' := ((s₀.after (later ++ past)).accounted d).effect.contains hadmits (contains_iff.mp hr)
      rw [replica, news, hadmits, if_neg Bool.false_ne_true, List.foldl_append] at hg
      exact ih (fun hm => hstay (List.mem_cons_of_mem d hm)) hr' (getElem?_foldl_untold htold hg)

/-- Who is not there and does not join is not there afterwards. -/
theorem entity?_foldl_perform {deeds : List Deed} (hjoin : ∀ e, .join e ∈ deeds → e.handle ≠ g)
    (hg : s.entity? g = none) : (deeds.foldl perform s).entity? g = none := by
  induction deeds generalizing s with
  | nil => exact hg
  | cons d deeds ih =>
    apply ih fun e he => hjoin e (List.mem_cons_of_mem d he)
    rw [← contains_eq_false_iff, Bool.eq_false_iff]
    intro hc
    have hadmits : s.admits g d = false := by
      cases d with
      | join e => simp [admits, hjoin e List.mem_cons_self]
      | _ => rfl
    have := (s.accounted d).effect.contains hadmits (contains_iff.mp hc)
    rw [contains_eq_false_iff.mpr hg] at this
    cases this

/-- Who leaves is not there afterwards. -/
theorem Effect.gone {st : Stage} {told : List Delivery} (he : Effect s (.leave g) st told) :
    st.entities[g]? = none := by
  have habsent : s.Plain (.leave g) → s.entity? g = none := by
    intro hd
    have := hd.dismisses g
    rw [dismisses, decide_eq_true rfl, Bool.true_and] at this
    exact contains_eq_false_iff.mp this
  cases he with
  | leave => simp [left]
  | @announce _ h _ _ _ hd he =>
    have hne : g ≠ h := by
      rintro rfl
      rw [habsent hd] at he
      cases he
    simpa [shifted, entity?, Roster.getElem?_insert, hne] using habsent hd
  | resync hd => exact habsent hd
  | idle hd => exact habsent hd

/-- When a player is owed nothing, its client has those that the player sees. -/
theorem sameKeys_replica {s₀ : Scene} {past : List Deed} {w : Watcher} {view : HandleSet}
    (hview : replay r (s₀.news r past) = some view) (howes : w.Owes view) (hentered : w.entered = ∅)
    (hleft : w.left = ∅) : SameKeys w.visible (s₀.replica r past) := by
  have hnobody : SameKeys ∅ ∅ := fun g => by simp
  rw [← howes.eq_visible hentered hleft]
  exact hnobody.foldl hview

/-- A client that has an entity has it at its former place, if there is one, and otherwise at its place. -/
theorem replica_eq_getD {s₀ : Scene} (hs : ∀ past, (s₀.after past).stage.Coherent size) {past : List Deed}
    (hloud : ∀ h pos, .move h pos ∉ past) {e : Entity} (he : (s₀.after past).entity? g = some e)
    (hp : ∃ p, (s₀.replica r past)[g]? = some p) :
    (s₀.replica r past)[g]? = some ((s₀.formerPlace r g past).getD e.pos) := by
  obtain ⟨p, hp⟩ := hp
  have hknown := replica_known hs hloud hp
  rw [hp, ← hknown, he]
  cases s₀.formerPlace r g past <;> rfl

end Scene

end TileRealm
