import TileRealm.Proofs.Scene.Run
import TileRealm.Proofs.Visibility.Settled

/-!
# Entities and their sight

The entities of a stage are those that its visibility knows of, at the same places.

- `Stage.Coherent`: this, together with sound visibility;
- `Effect.coherent`, `coherent_after`: every effect keeps it, so every history does;
- `Effect.owing`, `owing_after`: the same for what everybody is owed.
-/

set_option autoImplicit false

namespace TileRealm

variable {size : UInt32} {s : Scene} {h g : Handle} {e : Entity}

/-- Visibility is sound and knows the entities at their places, and every entity is kept under its own handle. -/
structure Stage.Coherent (size : UInt32) (st : Stage) : Prop where
  sound : st.visibility.Sound
  cellSize : st.visibility.cellSize = max size 1
  position_eq : ∀ h, st.visibility.position h = st.entities[h]?.map (·.pos)
  named : ∀ {h : Handle} {e : Entity}, st.entities[h]? = some e → e.handle = h

/-- Two entities see each other if and only if their tiles are nearby. -/
theorem Stage.Coherent.sees_iff {st : Stage} (hs : st.Coherent size) :
    st.visibility.Sees h g ↔
      g ≠ h ∧ ∃ e f, st.entities[h]? = some e ∧ st.entities[g]? = some f ∧ e.pos.Nearby size f.pos := by
  rw [hs.sound.sees_iff, Visibility.close_iff hs.cellSize, hs.position_eq, hs.position_eq]
  simp only [Option.map_eq_some_iff]
  constructor
  · rintro ⟨hne, _, _, ⟨e, he, rfl⟩, ⟨f, hf, rfl⟩, hn⟩
    exact ⟨hne.symm, e, f, he, hf, hn⟩
  · rintro ⟨hne, e, f, he, hf, hn⟩
    exact ⟨hne.symm, _, _, ⟨e, he, rfl⟩, ⟨f, hf, rfl⟩, hn⟩

namespace Scene

/-- The entities are those that the visibility knows of. -/
theorem entity?_eq_none_iff (hs : s.stage.Coherent size) : s.entity? h = none ↔ s.visibility.watchers[h]? = none := by
  have := hs.position_eq h
  rw [Visibility.position] at this
  rw [← Option.map_eq_none_iff (f := Watcher.pos), visibility, this, Option.map_eq_none_iff, entity?]

theorem coherent_entered (hs : s.stage.Coherent size) (e : Entity) : (s.entered e).Coherent size where
  sound := hs.sound.add e.handle e.pos
  cellSize := (Visibility.cellSize_add _ e.handle e.pos).trans hs.cellSize
  position_eq h := by
    simp only [entered, Visibility.position_add, hs.position_eq, Roster.getElem?_insert]
    split <;> rfl
  named {h f} hf := by
    simp only [entered, Roster.getElem?_insert] at hf
    split at hf
    · rename_i hh
      cases hf
      exact hh.symm
    · exact hs.named hf

theorem coherent_shifted (hs : s.stage.Coherent size) (he : s.entity? h = some e) (pos : Tile) :
    (s.shifted e h pos).Coherent size where
  sound := hs.sound.move h pos
  cellSize := (Visibility.cellSize_move _ h pos).trans hs.cellSize
  position_eq k := by
    have he' : s.stage.entities[h]? = some e := he
    simp only [shifted, Visibility.position_move, hs.position_eq, Roster.getElem?_insert, he']
    split <;> rfl
  named {k f} hf := by
    simp only [shifted, Roster.getElem?_insert] at hf
    split at hf
    · rename_i hk
      cases hf
      exact (hs.named he).trans hk.symm
    · exact hs.named hf

theorem coherent_left (hs : s.stage.Coherent size) (h : Handle) : (s.left h).Coherent size := by
  have hfold : (s.stage.visibility.removeAndRefresh h).2 =
      (s.stage.visibility.remove h).1.toList.foldl Visibility.refresh (s.stage.visibility.remove h).2 :=
    Std.ExtTreeSet.foldl_eq_foldl_toList
  constructor
  · rw [left, hfold]
    exact hs.sound.leave h fun _ => Std.ExtTreeSet.mem_toList
  · rw [left, hfold, (Visibility.foldl_refresh_ground _ _).1, Visibility.cellSize_remove, hs.cellSize]
  · intro k
    rw [left, hfold, (Visibility.foldl_refresh_ground _ _).2.2, Visibility.position_remove, hs.position_eq]
    simp only [Roster.getElem?_erase]
    split <;> rfl
  · intro k f hf
    simp only [left, Roster.getElem?_erase] at hf
    split at hf
    · cases hf
    · exact hs.named hf

theorem coherent_informed (hs : s.stage.Coherent size) : s.informed.Coherent size where
  sound := hs.sound.congr (Visibility.drain_sameSight _)
  cellSize := (Visibility.drain_sameSight _).1.1.trans hs.cellSize
  position_eq k := ((Visibility.drain_sameSight _).1.2.2 k).trans (hs.position_eq k)
  named := hs.named

/-- Every effect keeps entities and sight coherent. -/
theorem Effect.coherent {d : Deed} {st : Stage} {told : List Delivery} (hs : s.stage.Coherent size)
    (he : Effect s d st told) : st.Coherent size := by
  cases he with
  | enter => exact coherent_entered hs _
  | leave => exact coherent_left hs _
  | shift he => exact coherent_shifted hs he _
  | announce _ he => exact coherent_shifted hs he _
  | resync => exact hs
  | idle => exact hs
  | flush => exact coherent_informed hs

/-- Entities and sight are coherent after every history of a scene. -/
theorem coherent_after (setup : SceneSetup) (terrain : Terrain) (feed : PositionFeed) (past : List Deed) :
    ((empty setup terrain feed).after past).stage.Coherent setup.cellSize := by
  induction past with
  | nil =>
    constructor
    · exact Visibility.sound_empty setup.cellSize
    · rfl
    · intro h
      simp [after, empty, Visibility.position, Visibility.empty]
    · intro h e he
      simp [after, empty] at he
  | cons d past ih => exact (accounted _ d).effect.coherent ih

/-- Everybody is owed the difference to something that it was told of, whatever the effect. -/
theorem Effect.owing {d : Deed} {st : Stage} {sent : List Delivery} (he : Effect s d st sent)
    (hall : s.visibility.All fun _ w => ∃ told, w.Owes told) : st.visibility.All fun _ w => ∃ told, w.Owes told := by
  have hlasting : Lasting fun _ w => ∃ told, w.Owes told :=
    { gain := fun _ _ peer ⟨told, hw⟩ => ⟨told, hw.gain peer⟩
      lose := fun _ _ peer ⟨told, hw⟩ => ⟨told, hw.lose peer⟩
      shift := fun _ _ _ ⟨told, hw⟩ => ⟨told, hw.entered, hw.left⟩ }
  cases he with
  | enter => exact hall.add hlasting _ _ fun _ => ⟨∅, Watcher.owes_newcomer _⟩
  | @leave h =>
    simp only [left, Visibility.removeAndRefresh, Std.ExtTreeSet.foldl_eq_foldl_toList]
    exact (hall.remove h).foldl_refresh hlasting _
  | shift => exact hall.move hlasting _ _
  | announce => exact hall.move hlasting _ _
  | resync => exact hall
  | idle => exact hall
  | flush =>
    intro r w hw
    rw [informed, Visibility.getElem?_drain, Option.map_eq_some_iff] at hw
    obtain ⟨x, -, rfl⟩ := hw
    exact ⟨x.visible, x.owes_told⟩

/-- After every history, everybody is owed the difference to something that it was told of. -/
theorem owing_after (setup : SceneSetup) (terrain : Terrain) (feed : PositionFeed) (past : List Deed) :
    ((empty setup terrain feed).after past).visibility.All fun _ w => ∃ told, w.Owes told := by
  induction past with
  | nil =>
    intro r w hw
    simp [after, empty, visibility, Visibility.empty] at hw
  | cons d past ih => exact (accounted _ d).effect.owing ih

end Scene

end TileRealm
