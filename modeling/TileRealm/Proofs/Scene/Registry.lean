import TileRealm.Proofs.Scene.Bout
import TileRealm.Proofs.Scene.Coherent

/-!
# Who is in a scene

A scene keeps its entities, the watchers of its visibility and the sessions of its referee by handle.  All three hold
the same handles after every history.

- `contains_perform`, `contains_sessions_perform`: who is there after a deed, and who has a session;
- `Stirred`, `stirred_perform`: whatever else is done, at most one entity gets to another tile, which can be walked on;
- `arrival`: the tile that an entity joined at;
- `Registered`, `registered_perform`, `registered_after`: the records of all who are there.
-/

set_option autoImplicit false

namespace TileRealm

namespace Scene

variable {s s' : Scene} {d : Deed} {h : Handle} {e : Entity} {pos : Tile}

/-! ## Who is there -/

theorem Effect.contains_eq {st : Stage} {told : List Delivery} (he : Effect s d st told) (h : Handle) :
    st.entities.contains h = ((s.contains h || s.admits h d) && !s.dismisses h d) := by
  have hplain : s.Plain d → s.contains h = ((s.contains h || s.admits h d) && !s.dismisses h d) := by
    intro hd
    rw [hd.admits, hd.dismisses, Bool.or_false, Bool.not_false, Bool.and_true]
  have hshifted : ∀ {g : Handle} {e : Entity} {pos : Tile}, s.entity? g = some e →
      (s.shifted e g pos).entities.contains h = s.contains h := by
    intro g e pos hg
    rw [shifted, Roster.contains_insert]
    show (decide (h = g) || s.contains h) = s.contains h
    rw [Bool.or_eq_right_iff_imp, decide_eq_true_eq]
    rintro rfl
    exact contains_iff.mpr ⟨e, hg⟩
  cases he with
  | @enter e hnew =>
    rw [entered, Roster.contains_insert]
    by_cases hh : h = e.handle
    · simp [admits, dismisses, hh, contains_eq_false_iff.mpr hnew]
    · simp [admits, dismisses, hh, Ne.symm hh, contains]
  | @leave g e hg =>
    rw [left, Roster.contains_erase]
    by_cases hh : h = g
    · simp [admits, dismisses, hh, contains_iff.mpr ⟨e, hg⟩]
    · simp [admits, dismisses, hh, Ne.symm hh, contains]
  | shift hg =>
    rw [hshifted hg]
    simp [admits, dismisses]
  | announce hd hg => rw [hshifted hg, ← hplain hd]
  | resync hd => exact hplain hd
  | idle hd => exact hplain hd
  | flush => simp [informed, contains, admits, dismisses]

/-- After a deed those are there who were there or have joined, without those who have left. -/
theorem contains_perform (s : Scene) (d : Deed) (h : Handle) :
    (s.perform d).contains h = ((s.contains h || s.admits h d) && !s.dismisses h d) :=
  (accounted s d).effect.contains_eq h

/-- If those who are there have sessions, and nobody else, the same holds after a deed. -/
theorem contains_sessions_perform (hs : ∀ h, s.referee.sessions.contains h = s.contains h) (d : Deed) (h : Handle) :
    (s.perform d).referee.sessions.contains h = (s.perform d).contains h := by
  have hother : (s.perform d).referee = s.referee → (∀ h, s.admits h d = false) → (∀ h, s.dismisses h d = false) →
      (s.perform d).referee.sessions.contains h = (s.perform d).contains h := by
    intro hreferee hadmits hdismisses
    rw [contains_perform, hreferee, hs, hadmits, hdismisses, Bool.or_false, Bool.not_false, Bool.and_true]
  cases d with
  | join e =>
    rw [contains_perform, perform_join]
    by_cases hc : s.contains e.handle = true
    · rw [if_pos hc, hs]
      by_cases hh : h = e.handle
      · simp [admits, dismisses, hh, hc]
      · simp [admits, dismisses, Ne.symm hh]
    · rw [if_neg hc, Referee.bind, Roster.contains_insert, hs]
      by_cases hh : h = e.handle
      · simp [admits, dismisses, hh, hc]
      · simp [admits, dismisses, hh, Ne.symm hh]
  | leave g =>
    rw [contains_perform, perform_leave]
    by_cases hc : s.contains g = true
    · rw [if_pos hc, Referee.unbind, Roster.contains_erase, hs]
      by_cases hh : h = g
      · simp [admits, dismisses, hh, hc]
      · simp [admits, dismisses, hh, Ne.symm hh]
    · rw [if_neg hc, hs]
      by_cases hh : h = g
      · simp [admits, dismisses, hh, hc]
      · simp [admits, dismisses, Ne.symm hh]
  | report now g report =>
    rw [contains_perform]
    simp only [perform, admits, dismisses, Bool.or_false, Bool.not_false, Bool.and_true]
    cases hc : s.referee.check s.stage now g report with
    | error => rw [report_of_check_error hc, resync_eq, hs]
    | ok =>
      -- a report is accepted only of an entity that is there
      obtain ⟨e, he, -, hr⟩ := report_of_check_ok hc
      rw [hr, granted, Roster.contains_insert, hs, Bool.or_eq_right_iff_imp, decide_eq_true_eq]
      rintro rfl
      exact contains_iff.mpr ⟨e, he⟩
  | move | step | drive | sample | flush | drain | takeRefused =>
    exact hother (referee_perform s _ (by simp) (by simp) (by simp)) (fun _ => rfl) (fun _ => rfl)

/-! ## Where those are who are there -/

/-- Nobody has come or left, and at most one entity is at another tile, which can be walked on. -/
inductive Stirred (s : Scene) : Stage → Prop
  | still {st : Stage} : st.id = s.id → st.terrain = s.terrain → st.entities = s.stage.entities → Stirred s st
  | moved {h : Handle} {e : Entity} {pos : Tile} : s.entity? h = some e → s.terrain.walkable pos = true →
      Stirred s (s.shifted e h pos)

theorem stirred_perform (hjoin : ∀ e, d ≠ .join e) (hleave : ∀ h, d ≠ .leave h) : Stirred s (s.perform d).stage := by
  cases d with
  | join e => exact absurd rfl (hjoin e)
  | leave h => exact absurd rfl (hleave h)
  | move h pos =>
    rcases s.move_cases h pos with ⟨e, he, hwalk, hm⟩ | ⟨_, -, hm⟩ <;> rw [perform, hm]
    · exact .moved he hwalk
    · exact .still rfl rfl rfl
  | step h pos speed =>
    rcases s.step_cases h pos speed with ⟨e, he, hwalk, hs⟩ | ⟨_, -, hs⟩ <;> rw [perform, hs]
    · exact .moved he hwalk
    · exact .still rfl rfl rfl
  | report now h report =>
    cases hc : s.referee.check s.stage now h report with
    | error =>
      simp only [perform, report_of_check_error hc, resync_eq]
      exact .still rfl rfl rfl
    | ok =>
      obtain ⟨e, he, -, hr⟩ := report_of_check_ok hc
      obtain ⟨_, _, -, -, hcheck⟩ := Referee.check_eq_ok.mp hc
      simp only [perform, hr]
      exact .moved he (Session.walk_of_check hcheck)
  | drive m now =>
    obtain ⟨random, ht⟩ := strides_tick m s now
    rw [perform]
    generalize (m.tick s now).2.2 = s' at ht ⊢
    cases ht with
    | rest => exact .still rfl rfl rfl
    | step he hwalk => exact .moved (s := s) he hwalk
  | flush =>
    rw [perform, s.flush_spec.1]
    exact .still rfl rfl rfl
  | sample | drain | takeRefused => exact .still rfl rfl rfl

/-! ## Records -/

/-- The tile that `h` joined at, after a deed: another one only if the deed lets `h` in. -/
def entry (s : Scene) (h : Handle) (former : Option Tile) : Deed → Option Tile
  | .join e => if s.admits h (.join e) then some e.pos else former
  | _ => former

/-- The tile that `h` was at when it last joined. -/
def arrival (s : Scene) (h : Handle) : List Deed → Option Tile
  | [] => none
  | d :: past => (s.after past).entry h (s.arrival h past) d

/-- A record names the scene that its entity is in, which is where it joined or where it can walk. -/
structure Settled (s : Scene) (arrived : Option Tile) (e : Entity) : Prop where
  scene : e.scene = some s.id
  place : arrived = some e.pos ∨ s.terrain.walkable e.pos = true

theorem settled_of_stirred {arrived : Option Tile} (hs : ∀ e, s.entity? h = some e → s.Settled arrived e)
    (hstirred : Stirred s s'.stage) (he : s'.entity? h = some e) : s'.Settled arrived e := by
  rw [entity?] at he
  suffices e.scene = some s'.stage.id ∧ (arrived = some e.pos ∨ s'.stage.terrain.walkable e.pos = true) from
    ⟨this.1, this.2⟩
  generalize s'.stage = st at hstirred he ⊢
  cases hstirred with
  | still hid hterrain hentities =>
    rw [hentities] at he
    obtain ⟨hscene, hplace⟩ := hs e he
    rw [hid, hterrain]
    exact ⟨hscene, hplace⟩
  | @moved g f pos hg hwalk =>
    rw [shifted, Roster.getElem?_insert] at he
    split at he
    · rename_i hh
      cases he
      exact ⟨(hs f (hh ▸ hg)).scene, Or.inr hwalk⟩
    · obtain ⟨hscene, hplace⟩ := hs e he
      exact ⟨hscene, hplace⟩

/-- Records stay settled. -/
theorem settled_perform {arrived : Option Tile} (hs : ∀ e, s.entity? h = some e → s.Settled arrived e)
    (he : (s.perform d).entity? h = some e) : (s.perform d).Settled (s.entry h arrived d) e := by
  cases d with
  | join f =>
    rw [perform_join] at he ⊢
    by_cases hc : s.contains f.handle = true
    · have hadmits : s.admits h (.join f) = false := by
        simp only [admits, Bool.and_eq_false_imp, decide_eq_true_eq]
        rintro rfl
        rw [hc]
        rfl
      rw [if_pos hc] at he ⊢
      rw [entry, hadmits, if_neg Bool.false_ne_true]
      exact hs e he
    · rw [if_neg hc] at he ⊢
      simp only [entity?, entered, Roster.getElem?_insert] at he
      by_cases hh : h = f.handle
      · rw [if_pos hh] at he
        cases he
        have hadmits : s.admits h (.join f) = true := by simp [admits, hh, hc]
        rw [entry, if_pos hadmits]
        exact ⟨rfl, Or.inl rfl⟩
      · rw [if_neg hh] at he
        have hadmits : s.admits h (.join f) = false := by simp [admits, Ne.symm hh]
        rw [entry, hadmits, if_neg Bool.false_ne_true]
        obtain ⟨hscene, hplace⟩ := hs e he
        exact ⟨hscene, hplace⟩
  | leave g =>
    rw [perform_leave] at he ⊢
    split at he
    · rename_i hc
      rw [if_pos hc]
      simp only [entity?, left, Roster.getElem?_erase] at he
      split at he
      · cases he
      · obtain ⟨hscene, hplace⟩ := hs e he
        exact ⟨hscene, hplace⟩
    · rename_i hc
      rw [if_neg hc]
      exact hs e he
  | move | step | report | drive | sample | flush | drain | takeRefused =>
    exact settled_of_stirred hs (stirred_perform (by simp) (by simp)) he

/-- The number of a scene and its terrain never change. -/
theorem ground_perform (s : Scene) (d : Deed) : (s.perform d).id = s.id ∧ (s.perform d).terrain = s.terrain := by
  have hstirred : Stirred s (s.perform d).stage → (s.perform d).id = s.id ∧ (s.perform d).terrain = s.terrain := by
    intro hs
    rw [id, terrain]
    generalize (s.perform d).stage = st at hs ⊢
    cases hs with
    | still hid hterrain => exact ⟨hid, hterrain⟩
    | moved => exact ⟨rfl, rfl⟩
  cases d with
  | join e =>
    rw [perform_join]
    split <;> exact ⟨rfl, rfl⟩
  | leave h =>
    rw [perform_leave]
    split <;> exact ⟨rfl, rfl⟩
  | move | step | report | drive | sample | flush | drain | takeRefused =>
    exact hstirred (stirred_perform (by simp) (by simp))

/-- A scene with the number and the terrain that it was made with, and what it keeps of those who are there. -/
structure Registered (setup : SceneSetup) (terrain : Terrain) (arrived : Handle → Option Tile) (s : Scene) :
    Prop where
  id : s.id = setup.id
  terrain : s.terrain = terrain
  /-- Those who are there are watched, and nobody else. -/
  watched : ∀ h, s.visibility.contains h = s.contains h
  /-- Those who are there have sessions, and nobody else. -/
  seated : ∀ h, s.referee.sessions.contains h = s.contains h
  /-- Cells list only those who are there. -/
  listed : ∀ cell h, h ∈ s.visibility.members cell → s.contains h = true
  named : ∀ h e, s.entity? h = some e → e.handle = h
  position : ∀ h e, s.entity? h = some e → s.visibility.position h = some e.pos
  settled : ∀ h e, s.entity? h = some e → s.Settled (arrived h) e

variable {setup : SceneSetup} {ground : Terrain} {arrived : Handle → Option Tile} {size : UInt32}

/-- Where entities and sight are coherent, only those are watched, and listed in a cell, who are there. -/
theorem contains_visibility (hs : s.stage.Coherent size) (h : Handle) : s.visibility.contains h = s.contains h := by
  rw [Bool.eq_iff_iff, Visibility.contains_iff_watcher, contains_iff, ← Option.ne_none_iff_exists',
    ← Option.ne_none_iff_exists', ne_eq, ne_eq, entity?_eq_none_iff hs]

theorem contains_of_mem_members (hs : s.stage.Coherent size) {cell : Cell} (hc : h ∈ s.visibility.members cell) :
    s.contains h = true := by
  obtain ⟨pos, hpos, -⟩ := hs.sound.mem_members.mp hc
  rw [← contains_visibility hs, Visibility.contains_iff]
  exact ⟨pos, hpos⟩

theorem registered_empty (setup : SceneSetup) (terrain : Terrain) (feed : PositionFeed) :
    Registered setup terrain (fun _ => none) (empty setup terrain feed) := by
  have hcoherent : (empty setup terrain feed).stage.Coherent setup.cellSize := coherent_after setup terrain feed []
  have hnobody : ∀ h e, (empty setup terrain feed).entity? h ≠ some e := by simp [empty, entity?]
  exact
    { id := rfl
      terrain := rfl
      watched := contains_visibility hcoherent
      seated := fun h => by simp [empty, Referee.idle, contains]
      listed := fun _ _ => contains_of_mem_members hcoherent
      named := fun h e he => absurd he (hnobody h e)
      position := fun h e he => absurd he (hnobody h e)
      settled := fun h e he => absurd he (hnobody h e) }

/-- Every deed keeps the register. -/
theorem registered_perform (hs : Registered setup ground arrived s) (hcoherent : (s.perform d).stage.Coherent size) :
    Registered setup ground (fun h => s.entry h (arrived h) d) (s.perform d) where
  id := (ground_perform s d).1.trans hs.id
  terrain := (ground_perform s d).2.trans hs.terrain
  watched := contains_visibility hcoherent
  seated := contains_sessions_perform hs.seated d
  listed _ _ := contains_of_mem_members hcoherent
  named _ _ he := hcoherent.named he
  position h _ he := (hcoherent.position_eq h).trans (congrArg (Option.map Entity.pos) he)
  settled h _ he := settled_perform (hs.settled h) he

/-- After every history, all that a scene keeps by handle is about the same entities. -/
theorem registered_after (setup : SceneSetup) (terrain : Terrain) (feed : PositionFeed) (past : List Deed) :
    Registered setup terrain (fun h => (empty setup terrain feed).arrival h past)
      ((empty setup terrain feed).after past) := by
  induction past with
  | nil => exact registered_empty setup terrain feed
  | cons d past ih => exact registered_perform ih (coherent_after setup terrain feed (d :: past))

end Scene

end TileRealm
