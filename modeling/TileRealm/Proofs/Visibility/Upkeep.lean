import TileRealm.Proofs.Visibility.Sight

/-!
# Sight kept up to date

In a sound state everybody sees just those who are close.  Adding, moving, and removing an entity with a refresh of
those it saw keep this up (`Sound.add`, `Sound.move`, `Sound.leave`), and in a sound state a refresh changes nothing
(`Sound.refresh_eq`).

- `Relocated`: the lists and places after one entity came, moved or went, before anybody looked around;
- `Listed.sound_refresh`: one refresh mends the sight of the entity that came or moved;
- `sound_foldl_refresh`: refreshing all that still list a removed entity, in any order, mends theirs.
-/

set_option autoImplicit false

namespace TileRealm.Visibility

variable {v u : Visibility} {h g k : Handle}

/-! ## Lists of the cells -/

section Lists

variable {m : Std.ExtTreeMap Cell HandleSet} {cell c : Cell}

theorem mem_enlist : g ∈ (enlist h m c).getD cell ∅ ↔ g ∈ m.getD cell ∅ ∨ g = h ∧ cell = c := by
  unfold enlist
  simp only [Std.ExtTreeMap.getD_alter, Std.LawfulEqCmp.compare_eq_iff_eq]
  by_cases e : c = cell
  · subst e
    simp only [if_true, Option.getD_some, HandleSet.mem_insert, Std.ExtTreeMap.getD_eq_getD_getElem?, and_true]
    exact or_comm
  · simp only [if_neg e, Ne.symm e, and_false, or_false]

theorem mem_strike : g ∈ (strike h m c).getD cell ∅ ↔ g ∈ m.getD cell ∅ ∧ ¬(g = h ∧ cell = c) := by
  unfold strike
  simp only [Std.ExtTreeMap.getD_alter, Std.LawfulEqCmp.compare_eq_iff_eq]
  by_cases e : c = cell
  · subst e
    rw [Std.ExtTreeMap.getD_eq_getD_getElem?]
    cases m[c]? with
    | none => simp
    | some members =>
      simp only [if_true, Option.bind_some, Option.getD_some, and_true]
      have hg : g ∈ members.erase h ↔ g ∈ members ∧ ¬g = h := by
        rw [HandleSet.mem_erase, and_comm]
      rw [← hg]
      split
      · rename_i hempty
        rw [Std.ExtTreeSet.isEmpty_iff.mp hempty, Option.getD_none]
      · rw [Option.getD_some]
  · simp only [if_neg e, Ne.symm e, and_false, not_false_iff, and_true]

theorem enlist_noneEmpty (hm : NoneEmpty m) : NoneEmpty (enlist h m c) := by
  intro cell
  unfold enlist
  rw [Std.ExtTreeMap.getElem?_alter]
  split
  · simp only [ne_eq, Option.some.injEq]
    exact Std.ExtTreeSet.insert_ne_empty
  · exact hm cell

theorem strike_noneEmpty (hm : NoneEmpty m) : NoneEmpty (strike h m c) := by
  intro cell
  unfold strike
  rw [Std.ExtTreeMap.getElem?_alter]
  split
  · cases m[c]? with
    | none => simp
    | some members =>
      simp only [Option.bind_some]
      split
      · simp
      · rename_i hne
        rintro e
        exact hne (Std.ExtTreeSet.isEmpty_iff.mpr (Option.some.inj e))
  · exact hm cell

/-- Listing an entity in several cells. -/
theorem foldl_enlist (cells : List Cell) (m : Std.ExtTreeMap Cell HandleSet) (hm : NoneEmpty m) :
    (∀ cell g, g ∈ (cells.foldl (enlist h) m).getD cell ∅ ↔ g ∈ m.getD cell ∅ ∨ g = h ∧ cell ∈ cells) ∧
      NoneEmpty (cells.foldl (enlist h) m) := by
  induction cells generalizing m with
  | nil => exact ⟨by simp, hm⟩
  | cons c cells ih =>
    obtain ⟨hmem, hne⟩ := ih (enlist h m c) (enlist_noneEmpty hm)
    refine ⟨fun cell g => ?_, hne⟩
    simp only [List.foldl_cons, hmem, mem_enlist, List.mem_cons]
    grind

/-- Striking an entity off several lists. -/
theorem foldl_strike (cells : List Cell) (m : Std.ExtTreeMap Cell HandleSet) (hm : NoneEmpty m) :
    (∀ cell g, g ∈ (cells.foldl (strike h) m).getD cell ∅ ↔ g ∈ m.getD cell ∅ ∧ ¬(g = h ∧ cell ∈ cells)) ∧
      NoneEmpty (cells.foldl (strike h) m) := by
  induction cells generalizing m with
  | nil => exact ⟨by simp, hm⟩
  | cons c cells ih =>
    obtain ⟨hmem, hne⟩ := ih (strike h m c) (strike_noneEmpty hm)
    refine ⟨fun cell g => ?_, hne⟩
    simp only [List.foldl_cons, hmem, mem_strike, List.mem_cons]
    grind

/-- Taking an entity from some lists over to others: in the cells that are among both it stays as it was. -/
theorem mem_relist (before after : List Cell) (hm : NoneEmpty m) :
    (∀ cell g, g ∈ (relist h before after m).getD cell ∅ ↔
      g ∈ m.getD cell ∅ ∧ ¬(g = h ∧ cell ∈ before ∧ cell ∉ after) ∨ g = h ∧ cell ∈ after ∧ cell ∉ before) ∧
      NoneEmpty (relist h before after m) := by
  obtain ⟨hstruck, hne⟩ := foldl_strike (h := h) (before.filter (· ∉ after)) m hm
  obtain ⟨hmem, hne⟩ := foldl_enlist (h := h) (after.filter (· ∉ before)) _ hne
  refine ⟨fun cell g => ?_, hne⟩
  rw [relist, hmem, hstruck]
  simp only [List.mem_filter, decide_eq_true_eq]

end Lists

/-! ## One entity at another place -/

/-- `u` is `v` with `h` at another place, or gone, as far as lists and places are concerned. -/
structure Relocated (v : Visibility) (h : Handle) (place : Option Tile) (u : Visibility) : Prop where
  size : u.cellSize = v.cellSize
  position : ∀ k, u.position k = if k = h then place else v.position k
  members : ∀ cell g, g ∈ u.members cell ↔ if g = h then ∃ p, place = some p ∧ cell ∈ v.block p else g ∈ v.members cell
  none_empty : NoneEmpty u.listed

namespace Relocated

variable {place : Option Tile}

theorem block (hu : Relocated v h place u) : u.block = v.block := by
  funext pos
  simp only [Visibility.block, hu.size]

theorem listed (hu : Relocated v h place u) (hl : v.Listed) : u.Listed := by
  refine ⟨fun {cell g} => ?_, hu.none_empty⟩
  simp only [hu.members, hu.position, hu.block]
  split
  · rfl
  · exact hl.mem_members

theorem close (hu : Relocated v h place u) (hk : k ≠ h) (hg : g ≠ h) : u.Close k g ↔ v.Close k g :=
  close_congr (by rw [hu.position, if_neg hk, hu.block]) (by rw [hu.position, if_neg hg, hu.block])

end Relocated

/-- A watcher put in the place of another, or of none. -/
theorem position_insert (v : Visibility) (m : Std.ExtTreeMap Cell HandleSet) (h k : Handle) (w : Watcher) :
    position { v with listed := m, watchers := v.watchers.insert h w } k =
      if k = h then some w.pos else v.position k := by
  simp only [position, Roster.getElem?_insert]
  split <;> rfl

theorem visible_insert (v : Visibility) (m : Std.ExtTreeMap Cell HandleSet) (h k : Handle) (w : Watcher) :
    visible { v with listed := m, watchers := v.watchers.insert h w } k =
      if k = h then some w.visible else v.visible k := by
  simp only [visible, Roster.getElem?_insert]
  split <;> rfl

/-- A newcomer is listed in its block. -/
theorem Listed.relocated_newcomer (hl : v.Listed) (hh : v.position h = none) (pos : Tile) :
    Relocated v h (some pos) { v with
      listed := (v.block pos).foldl (enlist h) v.listed
      watchers := v.watchers.insert h (.newcomer pos) } := by
  obtain ⟨hmem, hne⟩ := foldl_enlist (h := h) (v.block pos) v.listed hl.none_empty
  refine ⟨rfl, fun k => position_insert _ _ _ _ _, fun cell g => ?_, hne⟩
  rw [members, hmem]
  have hold : g ∈ v.listed.getD cell ∅ ↔ g ∈ v.members cell := Iff.rfl
  by_cases hg : g = h
  · subst hg
    simp [hold, hl.mem_members, hh]
  · simp [hold, hg]

/-- An entity is listed in the cells of its block and nowhere else. -/
theorem Listed.mem_members_of (hl : v.Listed) {w : Watcher} (hw : v.watchers[h]? = some w) (cell : Cell) :
    h ∈ v.members cell ↔ cell ∈ v.block w.pos := by
  simp [hl.mem_members, position, hw]

/-- An entity that moves is struck off the lists of the cells that are no more in its block and listed in the new ones.
The cells that stay in the block list it already, since the lists were right before. -/
theorem Listed.relocated_move (hl : v.Listed) {w : Watcher} (hw : v.watchers[h]? = some w) (pos : Tile) :
    Relocated v h (some pos) { v with
      listed := relist h (v.block w.pos) (v.block pos) v.listed
      watchers := v.watchers.insert h { w with pos := pos } } := by
  obtain ⟨hmem, hne⟩ := mem_relist (h := h) (v.block w.pos) (v.block pos) hl.none_empty
  refine ⟨rfl, fun k => position_insert _ _ _ _ _, fun cell g => ?_, hne⟩
  rw [members, hmem]
  have hold : g ∈ v.listed.getD cell ∅ ↔ g ∈ v.members cell := Iff.rfl
  by_cases hg : g = h
  · subst hg
    have hkept : g ∈ v.members cell ∧ ¬(cell ∈ v.block w.pos ∧ cell ∉ v.block pos) ↔
        cell ∈ v.block w.pos ∧ cell ∈ v.block pos := by
      rw [hl.mem_members_of hw]
      grind
    simp only [hold, true_and, hkept, if_true, Option.some.injEq, exists_eq_left']
    grind
  · simp [hold, hg]

/-- If the block stays the same, so do the lists. -/
theorem Listed.relocated_within (hl : v.Listed) {w : Watcher} (hw : v.watchers[h]? = some w) {pos : Tile}
    (hb : v.block w.pos = v.block pos) :
    Relocated v h (some pos) { v with watchers := v.watchers.insert h { w with pos := pos } } := by
  refine ⟨rfl, fun k => position_insert v v.listed _ _ _, fun cell g => ?_, hl.none_empty⟩
  have hold : members { v with watchers := v.watchers.insert h { w with pos := pos } } cell = v.members cell := rfl
  rw [hold]
  split
  · rename_i hg
    subst hg
    simp [hl.mem_members_of hw, hb]
  · rfl

theorem cellSize_remove (v : Visibility) (h : Handle) : (v.remove h).2.cellSize = v.cellSize := by
  unfold remove
  split <;> rfl

theorem position_remove (v : Visibility) (h k : Handle) :
    (v.remove h).2.position k = if k = h then none else v.position k := by
  unfold remove
  split
  · rename_i hw
    split
    · rename_i e
      simp [e, position, hw]
    · rfl
  · simp only [position, Roster.getElem?_erase]
    split <;> rfl

/-- A removed entity is struck off all lists. -/
theorem Listed.relocated_remove (hl : v.Listed) (h : Handle) : Relocated v h none (v.remove h).2 := by
  cases hw : v.watchers[h]? with
  | none =>
    have hp : v.position h = none := by simp [position, hw]
    have hr : (v.remove h).2 = v := by simp only [remove, hw]
    refine ⟨cellSize_remove v h, position_remove v h, fun cell g => ?_, ?_⟩ <;> rw [hr]
    · split
      · rename_i e
        simp [e, hl.mem_members, hp]
      · rfl
    · exact hl.none_empty
  | some w =>
    obtain ⟨hmem, hne⟩ := foldl_strike (h := h) (v.block w.pos) v.listed hl.none_empty
    have hr : (v.remove h).2.listed = (v.block w.pos).foldl (strike h) v.listed := by simp only [remove, hw]
    refine ⟨cellSize_remove v h, position_remove v h, fun cell g => ?_, hr ▸ hne⟩
    rw [members, hr, hmem]
    have hold : g ∈ v.listed.getD cell ∅ ↔ g ∈ v.members cell := Iff.rfl
    by_cases hg : g = h
    · subst hg
      simp [hold, hl.mem_members_of hw]
    · simp [hold, hg]

/-! ## Sound states -/

/-- The lists are right, and everybody sees just those who are close. -/
structure Sound (v : Visibility) : Prop extends Listed v where
  sees_iff : ∀ {h g : Handle}, v.Sees h g ↔ v.Close h g

theorem sound_empty (cellSize : UInt32) : (empty cellSize).Sound := by
  refine ⟨⟨?_, ?_⟩, ?_⟩ <;>
    simp [empty, members, position, Sees, Close, visible, NoneEmpty, Std.ExtTreeMap.getD_eq_getD_getElem?]

namespace Sound

/-- In a sound state a refresh changes nothing. -/
theorem refresh_eq (hv : v.Sound) (h : Handle) : v.refresh h = v := by
  unfold refresh
  split
  · rfl
  · rename_i w hw
    have hp : v.position h = some w.pos := by simp [position, hw]
    have hsight : (v.near w.pos).erase h = w.visible := by
      ext g
      rw [hv.mem_inSight hp, ← hv.sees_iff, sees_iff_mem hw]
    have hnone : w.visible \ w.visible = ∅ := by
      simp [Std.ExtTreeSet.eq_empty_iff_forall_not_mem, Std.ExtTreeSet.mem_diff_iff]
    simp only [hsight, hnone, Std.ExtTreeSet.foldl_eq_foldl_toList, Std.ExtTreeSet.toList_eq_nil_iff.mpr rfl,
      List.foldl_nil]

end Sound

/-- One refresh mends the sight of `h` if nothing else is wrong. -/
theorem Listed.sound_refresh (hl : u.Listed) (hh : u.contains h = true)
    (hm : ∀ k, u.contains k = true → (u.Sees k h ↔ u.Sees h k))
    (ho : ∀ k g, k ≠ h → g ≠ h → (u.Sees k g ↔ u.Close k g)) : (u.refresh h).Sound := by
  refine ⟨hl.congr (refresh_ground u h), fun {k g} => ?_⟩
  rw [sees_refresh hl hh hm, (refresh_ground u h).close]
  split
  · rfl
  · rename_i hne
    exact ho k g (fun e => hne (Or.inl e)) (fun e => hne (Or.inr e))

namespace Sound

/-- An entity that is there moves. -/
theorem move? (hv : v.Sound) {pos : Tile} (hu : v.move? h pos = some u) : u.Sound := by
  obtain ⟨w, hw, rfl⟩ := Option.map_eq_some_iff.mp hu
  have hsees : ∀ m k g, Sees { v with listed := m, watchers := v.watchers.insert h { w with pos := pos } } k g ↔
      v.Sees k g := by
    intro m k g
    simp only [Sees, visible_insert]
    split
    · rename_i e
      simp [e, visible, hw]
    · rfl
  dsimp only
  split
  · rename_i hb
    -- The block stays the same, so those who are close stay the same too, and nobody has to look around.
    have hr := hv.relocated_within hw hb
    refine ⟨hr.listed hv.toListed, fun {k g} => ?_⟩
    rw [hsees v.listed k g, hv.sees_iff]
    have hblock : ∀ k, (position { v with watchers := v.watchers.insert h { w with pos := pos } } k).map v.block =
        (v.position k).map v.block := by
      intro k
      rw [hr.position]
      split
      · rename_i e
        simp [e, position, hw, hb]
      · rfl
    exact (close_congr (hblock k) (hblock g)).symm
  · have hr := hv.relocated_move hw pos
    apply (hr.listed hv.toListed).sound_refresh
    · exact contains_iff.mpr ⟨pos, by simp [hr.position]⟩
    · intro k _
      rw [hsees, hsees, hv.sees_iff, hv.sees_iff, close_comm]
    · intro k g hk hg
      rw [hsees, hv.sees_iff, hr.close hk hg]

/-- Moving an entity, or one that is not there. -/
theorem move (hv : v.Sound) (h : Handle) (pos : Tile) : (v.move h pos).Sound := by
  unfold Visibility.move
  cases hu : v.move? h pos with
  | none => exact hv
  | some u => exact hv.move? hu

/-- Adding an entity, or moving one that is there already. -/
theorem add (hv : v.Sound) (h : Handle) (pos : Tile) : (v.add h pos).Sound := by
  unfold Visibility.add
  cases hu : v.move? h pos with
  | some u => exact hv.move? hu
  | none =>
    have hp : v.position h = none := by simpa [Visibility.move?, position] using hu
    have hr := hv.relocated_newcomer hp pos
    have hno : v.contains h ≠ true := by simp [contains_iff, hp]
    have hsees : ∀ k g, Sees { v with
        listed := (v.block pos).foldl (enlist h) v.listed
        watchers := v.watchers.insert h (.newcomer pos) } k g ↔ k ≠ h ∧ v.Sees k g := by
      intro k g
      simp only [Sees, visible_insert]
      split
      · rename_i e
        simp [e, Watcher.newcomer]
      · rename_i e
        simp [e]
    apply (hr.listed hv.toListed).sound_refresh
    · exact contains_iff.mpr ⟨pos, by simp [hr.position]⟩
    · intro k _
      -- Nobody saw the newcomer, which has not looked around yet.
      rw [hsees, hsees]
      have hk : ¬v.Sees k h := fun hs => hno (hv.sees_iff.mp hs).symm.contains
      simp [hk]
    · intro k g hk hg
      rw [hsees, hv.sees_iff, hr.close hk hg]
      simp [hk]

end Sound

/-- Refreshing all that still list a removed entity, in any order. -/
theorem sound_foldl_refresh (peers : List Handle) (hl : u.Listed) (hgone : u.contains h ≠ true)
    (hclose : ∀ k g, u.Close k g → u.Sees k g) (hsees : ∀ k g, u.Sees k g → u.Close k g ∨ g = h ∧ k ∈ peers) :
    (peers.foldl refresh u).Sound := by
  induction peers generalizing u with
  | nil =>
    refine ⟨hl, fun {k g} => ⟨fun hs => ?_, hclose k g⟩⟩
    simpa using hsees k g hs
  | cons p peers ih =>
    rw [List.foldl_cons]
    have hground := refresh_ground u p
    by_cases hp : u.contains p = true
    · have hph : p ≠ h := fun e => hgone (e ▸ hp)
      have hmutual : ∀ k, u.contains k = true → (u.Sees k p ↔ u.Sees p k) := by
        intro k hk
        have hkh : k ≠ h := fun e => hgone (e ▸ hk)
        constructor
        · intro hs
          have := hsees k p hs
          exact hclose p k (by simpa [hph, close_comm] using this)
        · intro hs
          have := hsees p k hs
          exact hclose k p (by simpa [hkh, close_comm] using this)
      apply ih (hl.congr hground) (by rwa [hground.contains])
      · intro k g hc
        rw [hground.close] at hc
        rw [sees_refresh hl hp hmutual]
        split
        · exact hc
        · exact hclose k g hc
      · intro k g hs
        rw [sees_refresh hl hp hmutual] at hs
        rw [hground.close]
        split at hs
        · exact Or.inl hs
        · rename_i hne
          have := hsees k g hs
          grind
    · have hsame : u.refresh p = u := by
        simp only [contains_iff_watcher, not_exists] at hp
        unfold refresh
        split
        · rfl
        · rename_i w hw
          exact absurd hw (hp w)
      rw [hsame]
      apply ih hl hgone hclose
      intro k g hs
      have := hsees k g hs
      have hk : k ≠ p := fun e => hp (e ▸ hs.contains)
      grind

/-- What a removal answers is what the entity saw. -/
theorem mem_remove : g ∈ (v.remove h).1 ↔ v.Sees h g := by
  unfold remove
  split
  · rename_i hw
    simp [sees_iff_watcher, hw]
  · rename_i w hw
    rw [sees_iff_mem hw]

/-- What is seen after an entity was removed and before anybody was refreshed. -/
theorem sees_remove : (v.remove h).2.Sees k g ↔ k ≠ h ∧ v.Sees k g := by
  unfold remove
  split
  · rename_i hw
    constructor
    · intro hs
      refine ⟨?_, hs⟩
      rintro rfl
      obtain ⟨w, hw', _⟩ := sees_iff_watcher.mp hs
      simp [hw] at hw'
    · exact And.right
  · simp only [sees_iff_watcher, Roster.getElem?_erase]
    split
    · rename_i e
      simp [e]
    · rename_i e
      simp [e]

namespace Sound

/-- Removing an entity, and refreshing those it saw in any order. -/
theorem leave (hv : v.Sound) (h : Handle) {order : List Handle} (ho : ∀ g, g ∈ order ↔ g ∈ (v.remove h).1) :
    (order.foldl refresh (v.remove h).2).Sound := by
  have hr := hv.relocated_remove h
  have hgone : (v.remove h).2.contains h ≠ true := by simp [contains_iff, hr.position]
  apply sound_foldl_refresh (h := h) order (hr.listed hv.toListed) hgone
  · intro k g hc
    have hk : k ≠ h := fun e => hgone (e ▸ hc.contains)
    have hg : g ≠ h := fun e => hgone (e ▸ hc.symm.contains)
    rw [sees_remove, hv.sees_iff]
    exact ⟨hk, (hr.close hk hg).mp hc⟩
  · intro k g hs
    obtain ⟨hk, hold⟩ := sees_remove.mp hs
    have hc := hv.sees_iff.mp hold
    by_cases hg : g = h
    · subst hg
      exact Or.inr ⟨rfl, (ho k).mpr (mem_remove.mpr (hv.sees_iff.mpr hc.symm))⟩
    · exact Or.inl ((hr.close hk hg).mpr hc)

end Sound

/-! ## Sizes and places -/

section Places

variable {pos : Tile}

theorem cellSize_move? (hu : v.move? h pos = some u) : u.cellSize = v.cellSize := by
  obtain ⟨w, hw, rfl⟩ := Option.map_eq_some_iff.mp hu
  dsimp only
  split
  · rfl
  · exact (refresh_ground _ h).1

theorem cellSize_move (v : Visibility) (h : Handle) (pos : Tile) : (v.move h pos).cellSize = v.cellSize := by
  unfold move
  cases hu : v.move? h pos with
  | none => rfl
  | some u => exact cellSize_move? hu

theorem cellSize_add (v : Visibility) (h : Handle) (pos : Tile) : (v.add h pos).cellSize = v.cellSize := by
  unfold add
  cases hu : v.move? h pos with
  | none => exact (refresh_ground _ h).1
  | some u => exact cellSize_move? hu

theorem foldl_refresh_ground (peers : List Handle) (v : Visibility) : SameGround v (peers.foldl refresh v) :=
  List.foldlRecOn peers refresh ⟨rfl, rfl, fun _ => rfl⟩ fun u hu p _ => hu.trans (refresh_ground u p)

theorem position_move? (hu : v.move? h pos = some u) (k : Handle) :
    u.position k = if k = h then some pos else v.position k := by
  obtain ⟨w, hw, rfl⟩ := Option.map_eq_some_iff.mp hu
  dsimp only
  split
  · exact position_insert v v.listed h k _
  · rw [(refresh_ground _ h).2.2]
    exact position_insert v _ h k _

theorem position_move (v : Visibility) (h : Handle) (pos : Tile) (k : Handle) :
    (v.move h pos).position k = if k = h then (v.position h).map fun _ => pos else v.position k := by
  unfold move
  cases hu : v.move? h pos with
  | none =>
    have hp : v.position h = none := by simpa [move?, position] using hu
    split
    · rename_i e
      simp [e, hp]
    · rfl
  | some u =>
    obtain ⟨w, hw, _⟩ := Option.map_eq_some_iff.mp hu
    have hp : v.position h = some w.pos := by simp [position, hw]
    rw [Option.getD_some, position_move? hu, hp]
    rfl

theorem position_add (v : Visibility) (h : Handle) (pos : Tile) (k : Handle) :
    (v.add h pos).position k = if k = h then some pos else v.position k := by
  unfold add
  cases hu : v.move? h pos with
  | none =>
    dsimp only
    rw [(refresh_ground _ h).2.2]
    exact position_insert v _ h k _
  | some u => exact position_move? hu k

end Places

end TileRealm.Visibility
