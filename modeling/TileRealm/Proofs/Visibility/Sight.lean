import TileRealm.Proofs.Cell
import TileRealm.Proofs.Roster
import TileRealm.Visibility

/-!
# Who sees whom

- the relations `Visibility.Sees` (an entity lists another as visible) and `Visibility.Close` (two entities whose blocks
  share a cell), and the lists of the cells being right (`Visibility.Listed`);
- what is seen from a tile, read off right lists (`mem_near`, `Listed.mem_inSight`);
- a refresh leaves lists and places alone (`refresh_ground`) and makes one entity see, and be seen by, all that are
  close to it and nobody else (`sees_refresh`).
-/

set_option autoImplicit false

namespace TileRealm

/-! ## Watchers -/

namespace Watcher

@[simp] theorem pos_gain (w : Watcher) (peer : Handle) : (w.gain peer).pos = w.pos := by
  unfold gain
  split
  · rfl
  · split <;> rfl

@[simp] theorem pos_lose (w : Watcher) (peer : Handle) : (w.lose peer).pos = w.pos := by
  unfold lose
  split
  · rfl
  · split <;> rfl

/-- Gaining a peer brings it into view, and nothing else. -/
theorem mem_visible_gain {w : Watcher} {peer g : Handle} :
    g ∈ (w.gain peer).visible ↔ g = peer ∨ g ∈ w.visible := by
  unfold gain
  split
  · rename_i h
    rw [Std.ExtTreeSet.contains_iff_mem] at h
    constructor
    · exact Or.inr
    · rintro (rfl | hg)
      · exact h
      · exact hg
  · split <;> exact HandleSet.mem_insert

/-- Losing a peer takes it out of view, and nothing else. -/
theorem mem_visible_lose {w : Watcher} {peer g : Handle} :
    g ∈ (w.lose peer).visible ↔ g ≠ peer ∧ g ∈ w.visible := by
  unfold lose
  split
  · rename_i h
    constructor
    · intro hg
      refine ⟨?_, hg⟩
      rintro rfl
      rw [Std.ExtTreeSet.contains_iff_mem.mpr hg] at h
      cases h
    · exact And.right
  · split <;> exact HandleSet.mem_erase

end Watcher

namespace Visibility

variable {v : Visibility} {h g k : Handle}

/-! ## Relations -/

/-- `h` lists `g` as visible. -/
def Sees (v : Visibility) (h g : Handle) : Prop :=
  ∃ seen, v.visible h = some seen ∧ g ∈ seen

/-- Two different entities stand at places whose blocks share a cell. -/
def Close (v : Visibility) (h g : Handle) : Prop :=
  h ≠ g ∧ ∃ p q, v.position h = some p ∧ v.position g = some q ∧ ∃ cell, cell ∈ v.block p ∧ cell ∈ v.block q

/-- No empty list is kept. -/
def NoneEmpty (listed : Std.ExtTreeMap Cell HandleSet) : Prop :=
  ∀ cell : Cell, listed[cell]? ≠ some ∅

/-- Every entity is listed in the cells of its block and nowhere else, and no empty list is kept. -/
structure Listed (v : Visibility) : Prop where
  mem_members : ∀ {cell : Cell} {h : Handle}, h ∈ v.members cell ↔ ∃ p, v.position h = some p ∧ cell ∈ v.block p
  none_empty : NoneEmpty v.listed

theorem Close.symm (hc : v.Close h g) : v.Close g h := by
  obtain ⟨hne, p, q, hp, hq, cell, hcp, hcq⟩ := hc
  exact ⟨hne.symm, q, p, hq, hp, cell, hcq, hcp⟩

theorem close_comm : v.Close h g ↔ v.Close g h :=
  ⟨Close.symm, Close.symm⟩

/-- Whether two entities are close depends on their blocks alone. -/
theorem close_congr {u : Visibility} (hk : (u.position k).map u.block = (v.position k).map v.block)
    (hg : (u.position g).map u.block = (v.position g).map v.block) : u.Close k g ↔ v.Close k g := by
  have hblocks : ∀ v : Visibility, v.Close k g ↔ k ≠ g ∧ ∃ b c, (v.position k).map v.block = some b ∧
      (v.position g).map v.block = some c ∧ ∃ cell, cell ∈ b ∧ cell ∈ c := by
    intro v
    simp only [Close, Option.map_eq_some_iff]
    grind
  rw [hblocks, hblocks, hk, hg]

theorem contains_iff : v.contains h = true ↔ ∃ p, v.position h = some p := by
  simp only [contains, position, Std.ExtTreeMap.contains_eq_isSome_getElem?, Option.isSome_iff_exists,
    Option.map_eq_some_iff]
  constructor
  · rintro ⟨w, hw⟩
    exact ⟨w.pos, w, hw, rfl⟩
  · rintro ⟨_, w, hw, _⟩
    exact ⟨w, hw⟩

theorem contains_iff_watcher : v.contains h = true ↔ ∃ w, v.watchers[h]? = some w := by
  simp only [contains, Std.ExtTreeMap.contains_eq_isSome_getElem?, Option.isSome_iff_exists]

theorem sees_iff_watcher : v.Sees h g ↔ ∃ w, v.watchers[h]? = some w ∧ g ∈ w.visible := by
  simp only [Sees, visible, Option.map_eq_some_iff]
  constructor
  · rintro ⟨_, ⟨w, hw, rfl⟩, hg⟩
    exact ⟨w, hw, hg⟩
  · rintro ⟨w, hw, hg⟩
    exact ⟨w.visible, ⟨w, hw, rfl⟩, hg⟩

theorem Sees.contains (hs : v.Sees h g) : v.contains h = true := by
  obtain ⟨w, hw, _⟩ := sees_iff_watcher.mp hs
  exact contains_iff_watcher.mpr ⟨w, hw⟩

theorem Close.contains (hc : v.Close h g) : v.contains h = true := by
  obtain ⟨_, p, _, hp, _⟩ := hc
  exact contains_iff.mpr ⟨p, hp⟩

theorem sees_iff_mem {w : Watcher} (hw : v.watchers[h]? = some w) : v.Sees h g ↔ g ∈ w.visible := by
  simp [Sees, visible, hw]

/-! ## What is seen from a tile -/

/-- All that is listed in some of the cells. -/
theorem mem_foldl_union (cells : List Cell) (seen : HandleSet) :
    g ∈ cells.foldl (fun seen cell => seen ∪ v.members cell) seen ↔
      g ∈ seen ∨ ∃ cell ∈ cells, g ∈ v.members cell := by
  induction cells generalizing seen with
  | nil => simp
  | cons c cells ih => simp [ih, or_assoc]

theorem mem_near {pos : Tile} : g ∈ v.near pos ↔ ∃ cell ∈ v.block pos, g ∈ v.members cell := by
  simp [near, mem_foldl_union]

/-- With right lists, those in sight of an entity are those close to it. -/
theorem Listed.mem_inSight (hl : v.Listed) {pos : Tile} (hp : v.position h = some pos) :
    g ∈ (v.near pos).erase h ↔ v.Close h g := by
  simp only [HandleSet.mem_erase, mem_near, hl.mem_members]
  constructor
  · rintro ⟨hne, cell, hcell, q, hq, hcq⟩
    exact ⟨Ne.symm hne, pos, q, hp, hq, cell, hcell, hcq⟩
  · rintro ⟨hne, p, q, hp', hq, cell, hcp, hcq⟩
    obtain rfl : pos = p := Option.some.inj (hp.symm.trans hp')
    exact ⟨Ne.symm hne, cell, hcp, q, hq, hcq⟩

/-! ## Meeting and parting -/

/-- What a roster holds after something was done to a pair of its watchers, with the partner in hand. -/
theorem getElem?_pair (m : Roster Watcher) (f : Handle → Watcher → Watcher) (h p k : Handle) :
    ((m.modify h (f p)).modify p (f h))[k]? =
      m[k]?.map fun w => if k = p then f h (if k = h then f p w else w) else if k = h then f p w else w := by
  simp only [Roster.getElem?_modify]
  cases m[k]? with
  | none => simp
  | some w => split <;> split <;> simp

/-- A meeting and a parting change neither lists nor places. -/
def SameGround (v u : Visibility) : Prop :=
  u.cellSize = v.cellSize ∧ u.listed = v.listed ∧ ∀ k, u.position k = v.position k

theorem meet_ground (v : Visibility) (h p : Handle) : SameGround v (v.meet h p) := by
  refine ⟨rfl, rfl, fun k => ?_⟩
  simp only [position, meet, getElem?_pair _ (fun p w => w.gain p), Option.map_map]
  congr 1
  funext w
  simp only [Function.comp]
  split <;> split <;> simp

theorem part_ground (v : Visibility) (h p : Handle) : SameGround v (v.part h p) := by
  refine ⟨rfl, rfl, fun k => ?_⟩
  simp only [position, part, getElem?_pair _ (fun p w => w.lose p), Option.map_map]
  congr 1
  funext w
  simp only [Function.comp]
  split <;> split <;> simp

theorem SameGround.trans {v u t : Visibility} (hvu : SameGround v u) (hut : SameGround u t) : SameGround v t :=
  ⟨hut.1.trans hvu.1, hut.2.1.trans hvu.2.1, fun k => (hut.2.2 k).trans (hvu.2.2 k)⟩

theorem SameGround.contains {u : Visibility} (hu : SameGround v u) : u.contains k = v.contains k := by
  rw [Bool.eq_iff_iff, contains_iff, contains_iff, hu.2.2]

/-- A meeting brings the two into each other's view, as far as they are there. -/
theorem sees_meet {p : Handle} :
    (v.meet h p).Sees k g ↔ v.Sees k g ∨ v.contains k = true ∧ (k = h ∧ g = p ∨ k = p ∧ g = h) := by
  simp only [sees_iff_watcher, contains_iff_watcher, meet, getElem?_pair _ (fun p w => w.gain p)]
  cases v.watchers[k]? with
  | none => simp
  | some w =>
    simp only [Option.map_some, Option.some.injEq, exists_eq_left', exists_eq', true_and]
    split <;> split <;> grind [Watcher.mem_visible_gain]

/-- A parting takes the two out of each other's view. -/
theorem sees_part {p : Handle} :
    (v.part h p).Sees k g ↔ v.Sees k g ∧ ¬(k = h ∧ g = p) ∧ ¬(k = p ∧ g = h) := by
  simp only [sees_iff_watcher, part, getElem?_pair _ (fun p w => w.lose p)]
  cases v.watchers[k]? with
  | none => simp
  | some w =>
    simp only [Option.map_some, Option.some.injEq, exists_eq_left']
    split <;> split <;> grind [Watcher.mem_visible_lose]

/-- Meeting several one after the other. -/
theorem sees_foldl_meet (peers : List Handle) (v : Visibility) :
    (peers.foldl (meet h) v).Sees k g ↔
      v.Sees k g ∨ v.contains k = true ∧ (k = h ∧ g ∈ peers ∨ k ∈ peers ∧ g = h) := by
  induction peers generalizing v with
  | nil => simp
  | cons p peers ih =>
    simp only [List.foldl_cons, ih, sees_meet, (meet_ground v h p).contains, List.mem_cons]
    grind

/-- Parting from several one after the other. -/
theorem sees_foldl_part (peers : List Handle) (v : Visibility) :
    (peers.foldl (part h) v).Sees k g ↔ v.Sees k g ∧ ¬(k = h ∧ g ∈ peers) ∧ ¬(k ∈ peers ∧ g = h) := by
  induction peers generalizing v with
  | nil => simp
  | cons p peers ih =>
    simp only [List.foldl_cons, ih, sees_part, List.mem_cons]
    grind

/-! ## Refreshing -/

/-- What meetings and partings of `h` keep, a refresh of `h` keeps. -/
theorem refresh_keeps {Q : Visibility → Prop} (hm : ∀ v p, Q v → Q (v.meet h p)) (hp : ∀ v p, Q v → Q (v.part h p))
    (hv : Q v) : Q (v.refresh h) := by
  unfold refresh
  split
  · exact hv
  · simp only [Std.ExtTreeSet.foldl_eq_foldl_toList]
    refine List.foldlRecOn _ _ (List.foldlRecOn _ _ hv ?_) ?_
    · exact fun v hv p _ => hm v p hv
    · exact fun v hv p _ => hp v p hv

/-- A refresh changes neither lists nor places. -/
theorem refresh_ground (v : Visibility) (h : Handle) : SameGround v (v.refresh h) :=
  refresh_keeps (Q := SameGround v) (fun u p hu => hu.trans (meet_ground u h p))
    (fun u p hu => hu.trans (part_ground u h p)) ⟨rfl, rfl, fun _ => rfl⟩

/-- Lists are right or wrong by themselves and the places alone. -/
theorem Listed.congr {u : Visibility} (hu : SameGround v u) (hl : v.Listed) : u.Listed := by
  obtain ⟨hsize, hlisted, hpos⟩ := hu
  constructor
  · intro cell h
    have : u.members cell = v.members cell := by simp only [members, hlisted]
    simp only [this, hl.mem_members, hpos, block, hsize]
  · simpa only [hlisted] using hl.none_empty

theorem SameGround.close {u : Visibility} (hu : SameGround v u) : u.Close k g ↔ v.Close k g := by
  obtain ⟨hsize, _, hpos⟩ := hu
  have hblock : u.block = v.block := by
    funext pos
    simp only [block, hsize]
  exact close_congr (by rw [hpos, hblock]) (by rw [hpos, hblock])

/-- With right lists, and if `h` sees just those who see it, a refresh of `h` makes it see, and be seen by, all that are
close to it and nobody else.  What others see of others stays. -/
theorem sees_refresh (hl : v.Listed) (hh : v.contains h = true)
    (hm : ∀ k, v.contains k = true → (v.Sees k h ↔ v.Sees h k)) :
    (v.refresh h).Sees k g ↔ if k = h ∨ g = h then v.Close k g else v.Sees k g := by
  obtain ⟨w, hw⟩ := contains_iff_watcher.mp hh
  have hp : v.position h = some w.pos := by simp [position, hw]
  have hsees : ∀ k, v.Sees h k ↔ k ∈ w.visible := fun k => sees_iff_mem hw
  simp only [refresh, hw, Std.ExtTreeSet.foldl_eq_foldl_toList, sees_foldl_part, sees_foldl_meet,
    Std.ExtTreeSet.mem_toList, Std.ExtTreeSet.mem_diff_iff, hl.mem_inSight hp]
  have hself : ¬v.Close h h := fun hc => hc.1 rfl
  have hthere : v.Sees k g → v.contains k = true := Sees.contains
  have hclose : v.Close k h → v.contains k = true := Close.contains
  by_cases hk : k = h
  · subst hk
    grind
  · by_cases hg : g = h
    · subst hg
      have := hm k
      have := close_comm (v := v) (h := k) (g := g)
      grind
    · grind

end Visibility

end TileRealm
