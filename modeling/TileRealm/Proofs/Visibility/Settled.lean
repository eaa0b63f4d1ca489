import TileRealm.Proofs.Visibility.Upkeep

/-!
# Visibility is a function of the places

Whatever way a state was reached by adding, moving and removing entities, with a refresh of all that a removed entity
saw, everybody sees just those whose cells are at most two away on both axes.

- `Reached`: the states that can be reached, those seen by a removed entity being refreshed in any order;
- `Settled`: what lists, visible sets, removals and refreshes amount to in terms of the places alone;
- `settled_of_reached`: every state that can be reached is settled, and two of them with the same places agree.
-/

set_option autoImplicit false

namespace TileRealm

/-- The cells of two tiles are at most two apart on both axes. -/
def Tile.Nearby (size : UInt32) (p q : Tile) : Prop :=
  (p.cell size).steps (q.cell size) ≤ 2

namespace Visibility

variable {size : UInt32} {v u : Visibility} {h g : Handle}

/-! ## Runs -/

/-- The states reached from the empty one, with the places that the entities were last put at. -/
inductive Reached (size : UInt32) : (Handle → Option Tile) → Visibility → Prop
  | start : Reached size (fun _ => none) (.empty size)
  | add {places : Handle → Option Tile} {v : Visibility} (h : Handle) (pos : Tile) : Reached size places v →
      Reached size (fun k => if k = h then some pos else places k) (v.add h pos)
  /-- Only an entity that is there moves. -/
  | move {places : Handle → Option Tile} {v : Visibility} (h : Handle) (pos : Tile) : Reached size places v →
      Reached size (fun k => if k = h then (places h).map fun _ => pos else places k) (v.move h pos)
  /-- An entity is removed, and those that it saw are refreshed in any order. -/
  | leave {places : Handle → Option Tile} {v : Visibility} (h : Handle) {order : List Handle} :
      order.Perm (v.remove h).1.toList → Reached size places v →
      Reached size (fun k => if k = h then none else places k) (order.foldl refresh (v.remove h).2)

variable {places : Handle → Option Tile}

/-- Every state that is reached is sound, has the cells of its size, and knows the places. -/
theorem Reached.sound (hv : Reached size places v) :
    v.Sound ∧ v.cellSize = max size 1 ∧ ∀ k, v.position k = places k := by
  induction hv with
  | start => exact ⟨sound_empty size, rfl, fun k => by simp [position, empty]⟩
  | add h pos _ ih =>
    obtain ⟨hs, hc, hp⟩ := ih
    exact ⟨hs.add h pos, (cellSize_add _ h pos).trans hc, fun k => by rw [position_add, hp]⟩
  | move h pos _ ih =>
    obtain ⟨hs, hc, hp⟩ := ih
    exact ⟨hs.move h pos, (cellSize_move _ h pos).trans hc, fun k => by rw [position_move, hp, hp]⟩
  | leave h ho _ ih =>
    obtain ⟨hs, hc, hp⟩ := ih
    refine ⟨hs.leave h fun g => ho.mem_iff.trans Std.ExtTreeSet.mem_toList, ?_, fun k => ?_⟩
    · rw [(foldl_refresh_ground _ _).1, cellSize_remove, hc]
    · rw [(foldl_refresh_ground _ _).2.2, position_remove, hp]

/-! ## Settled states -/

/-- Everything is as the places of the entities say. -/
structure Settled (size : UInt32) (places : Handle → Option Tile) (v : Visibility) : Prop where
  /-- The entities that are there see the others at nearby tiles. -/
  visible_iff : ∀ {h : Handle} {seen : HandleSet}, v.visible h = some seen ↔
    ∃ p, places h = some p ∧ ∀ g, g ∈ seen ↔ g ≠ h ∧ ∃ q, places g = some q ∧ p.Nearby size q
  visible_symm : ∀ {h g : Handle} {seen : HandleSet}, v.visible h = some seen → g ∈ seen →
    ∃ seen, v.visible g = some seen ∧ h ∈ seen
  /-- From a tile, all entities at nearby tiles are seen. -/
  mem_near : ∀ {p : Tile} {g : Handle}, g ∈ v.near p ↔ ∃ q, places g = some q ∧ p.Nearby size q
  /-- A cell lists those at most one cell away. -/
  mem_members : ∀ {cell : Cell} {g : Handle},
    g ∈ v.members cell ↔ ∃ q, places g = some q ∧ (q.cell size).steps cell ≤ 1
  listed_ne_empty : ∀ cell : Cell, v.listed[cell]? ≠ some ∅
  /-- A removal answers with those that still list the removed entity. -/
  mem_remove : ∀ {h g : Handle},
    g ∈ (v.remove h).1 ↔ ∃ seen, (v.remove h).2.visible g = some seen ∧ h ∈ seen
  refresh_eq : ∀ h : Handle, v.refresh h = v

section

variable (hsize : v.cellSize = max size 1)
include hsize

theorem block_eq (pos : Tile) : v.block pos = (pos.cell size).block := by
  rw [block, hsize, Tile.cell_max_one]

theorem nearby_iff {p q : Tile} : (∃ cell, cell ∈ v.block p ∧ cell ∈ v.block q) ↔ p.Nearby size q := by
  rw [block_eq hsize, block_eq hsize]
  exact Cell.blocks_meet_iff

theorem close_iff : v.Close h g ↔ h ≠ g ∧ ∃ p q, v.position h = some p ∧ v.position g = some q ∧ p.Nearby size q := by
  simp only [Close, nearby_iff hsize]

theorem Sound.settled (hv : v.Sound) (hp : ∀ k, v.position k = places k) : Settled size places v where
  visible_iff {h seen} := by
    have hmem : ∀ w, v.watchers[h]? = some w → ∀ g, g ∈ w.visible ↔
        g ≠ h ∧ ∃ q, places g = some q ∧ w.pos.Nearby size q := by
      intro w hw g
      rw [← sees_iff_mem hw, hv.sees_iff, close_iff hsize, ← hp g]
      constructor
      · rintro ⟨hne, p, q, hp', hq, hn⟩
        obtain rfl : w.pos = p := by simpa [position, hw] using hp'
        exact ⟨hne.symm, q, hq, hn⟩
      · rintro ⟨hne, q, hq, hn⟩
        exact ⟨hne.symm, w.pos, q, by simp [position, hw], hq, hn⟩
    rw [visible, Option.map_eq_some_iff, ← hp h]
    constructor
    · rintro ⟨w, hw, rfl⟩
      exact ⟨w.pos, by simp [position, hw], hmem w hw⟩
    · rintro ⟨p, hpos, hseen⟩
      obtain ⟨w, hw, rfl⟩ := Option.map_eq_some_iff.mp hpos
      refine ⟨w, hw, ?_⟩
      ext g
      rw [hmem w hw, hseen]
  visible_symm {h g seen} hs hg := by
    have hsees : v.Sees h g := ⟨seen, hs, hg⟩
    exact hv.sees_iff.mpr (hv.sees_iff.mp hsees).symm
  mem_near {p g} := by
    rw [Visibility.mem_near]
    simp only [hv.mem_members, hp, ← nearby_iff hsize]
    constructor
    · rintro ⟨cell, hc, q, hq, hcq⟩
      exact ⟨q, hq, cell, hc, hcq⟩
    · rintro ⟨q, hq, cell, hc, hcq⟩
      exact ⟨cell, hc, q, hq, hcq⟩
  mem_members {cell g} := by
    simp only [hv.mem_members, hp, block_eq hsize, Cell.mem_block]
  listed_ne_empty := hv.none_empty
  mem_remove {h g} := by
    rw [Visibility.mem_remove, hv.sees_iff, close_comm, ← hv.sees_iff]
    constructor
    · intro hs
      have hne : g ≠ h := (hv.sees_iff.mp hs).1
      exact sees_remove.mpr ⟨hne, hs⟩
    · intro hs
      exact (sees_remove.mp hs).2
  refresh_eq := hv.refresh_eq

end

/-- **Visibility is a function of the places.** Every state that is reached is settled, whatever the run, and all
those reached with the same places agree on who sees whom. -/
theorem settled_of_reached (hv : Reached size places v) :
    Settled size places v ∧ ∀ u, Reached size places u → ∀ h, u.visible h = v.visible h := by
  obtain ⟨hsound, hsize, hp⟩ := hv.sound
  have hsettled := hsound.settled hsize hp
  refine ⟨hsettled, fun u hu h => ?_⟩
  obtain ⟨husound, husize, hup⟩ := hu.sound
  have husettled := husound.settled husize hup
  ext seen
  rw [hsettled.visible_iff, husettled.visible_iff]

/-- Three come, one of them moves away, and another leaves, the highest of those that it saw being refreshed first. -/
theorem settled_of_reached_leave :
    let v := ((((empty 10).add ⟨1⟩ ⟨0, 0⟩).add ⟨2⟩ ⟨25, 0⟩).add ⟨3⟩ ⟨4, 9⟩).move ⟨2⟩ ⟨29, 0⟩
    let u := ((v.remove ⟨1⟩).1.toList.reverse).foldl refresh (v.remove ⟨1⟩).2
    ∃ places : Handle → Option Tile, places ⟨1⟩ = none ∧ places ⟨2⟩ = some ⟨29, 0⟩ ∧ places ⟨3⟩ = some ⟨4, 9⟩ ∧
      Reached 10 places u ∧ Settled 10 places u ∧ ∀ t, Reached 10 places t → ∀ h, t.visible h = u.visible h := by
  intro v u
  have hv : Reached 10 _ v :=
    .move ⟨2⟩ ⟨29, 0⟩ (.add ⟨3⟩ ⟨4, 9⟩ (.add ⟨2⟩ ⟨25, 0⟩ (.add ⟨1⟩ ⟨0, 0⟩ .start)))
  have hu : Reached 10 _ u := .leave ⟨1⟩ (List.reverse_perm _) hv
  exact ⟨_, by decide, by decide, by decide, hu, settled_of_reached hu⟩

end Visibility

end TileRealm
