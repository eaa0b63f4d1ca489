import TileRealm.Proofs.Visibility.Upkeep

/-!
# What watchers are owed

A watcher that was last told of some set owes itself to be told of the difference to what it sees now.

- `Watcher.Owes`: what came into view and what went out of it are the two differences; gains and losses keep this
  (`Owes.gain`, `Owes.lose`), whether they cancel each other or not;
- `Lasting`: properties of single watchers that gains, losses and movements keep, so that all operations keep them
  (`All.refresh`, `All.add`, `All.move`, `All.remove`);
- draining and consuming tell the differences and change nothing that is seen (`mem_pending`, `consume_eq`);
- `Sound.ext`: places and what everybody was told of determine a sound visibility.
-/

set_option autoImplicit false

namespace TileRealm

namespace Watcher

/-- What is to be told is the difference between what the watcher was told of last and what it sees. -/
structure Owes (told : HandleSet) (w : Watcher) : Prop where
  entered : w.entered = w.visible \ told
  left : w.left = told \ w.visible

variable {told : HandleSet} {w : Watcher}

theorem owes_newcomer (pos : Tile) : (newcomer pos).Owes ∅ := by
  constructor <;> ext g <;> simp [newcomer]

/-- Whoever was told of everything is owed nothing. -/
theorem owes_told (w : Watcher) : w.told.Owes w.visible := by
  constructor <;> ext g <;> simp [Watcher.told]

namespace Owes

/-- If nothing is left to be told, all that is seen was told. -/
theorem eq_visible (hw : w.Owes told) (hentered : w.entered = ∅) (hleft : w.left = ∅) : told = w.visible := by
  obtain ⟨he, hl⟩ := hw
  rw [hentered] at he
  rw [hleft] at hl
  ext g
  have hnew : g ∉ w.visible \ told := he ▸ Std.ExtTreeSet.not_mem_empty
  have hold : g ∉ told \ w.visible := hl ▸ Std.ExtTreeSet.not_mem_empty
  simp only [Std.ExtTreeSet.mem_diff_iff] at hnew hold
  grind

/-- What a watcher at a place sees and what it was told of is all there is to it. -/
theorem ext {x : Watcher} (hw : w.Owes told) (hx : x.Owes told) (hpos : w.pos = x.pos)
    (hvisible : w.visible = x.visible) : w = x := by
  obtain ⟨hentered, hleft⟩ := hw
  obtain ⟨hentered', hleft'⟩ := hx
  rw [hvisible] at hentered hleft
  cases w
  cases x
  exact Watcher.mk.injEq .. ▸ ⟨hpos, hvisible, hentered.trans hentered'.symm, hleft.trans hleft'.symm⟩

/-- A gain that cancels an untold loss brings back what the watcher was told of. -/
theorem gain (hw : w.Owes told) (peer : Handle) : (w.gain peer).Owes told := by
  obtain ⟨he, hl⟩ := hw
  unfold Watcher.gain
  split
  · exact ⟨he, hl⟩
  · rename_i hv
    rw [Std.ExtTreeSet.contains_iff_mem] at hv
    have hpeer : w.left.contains peer = true ↔ peer ∈ told := by
      rw [Std.ExtTreeSet.contains_iff_mem, hl, Std.ExtTreeSet.mem_diff_iff]
      exact and_iff_left hv
    split
    · constructor <;> ext g <;>
        simp only [he, hl, Std.ExtTreeSet.mem_diff_iff, HandleSet.mem_insert, HandleSet.mem_erase] <;> grind
    · constructor <;> ext g <;>
        simp only [he, hl, Std.ExtTreeSet.mem_diff_iff, HandleSet.mem_insert] <;> grind

/-- A loss that cancels an untold gain takes away what the watcher was never told of. -/
theorem lose (hw : w.Owes told) (peer : Handle) : (w.lose peer).Owes told := by
  obtain ⟨he, hl⟩ := hw
  unfold Watcher.lose
  split
  · exact ⟨he, hl⟩
  · rename_i hv
    have hv : peer ∈ w.visible := by
      rw [← Std.ExtTreeSet.contains_iff_mem]
      simpa using hv
    have hpeer : w.entered.contains peer = true ↔ peer ∉ told := by
      rw [Std.ExtTreeSet.contains_iff_mem, he, Std.ExtTreeSet.mem_diff_iff]
      exact and_iff_right hv
    split
    · constructor <;> ext g <;>
        simp only [he, hl, Std.ExtTreeSet.mem_diff_iff, HandleSet.mem_erase] <;> grind
    · constructor <;> ext g <;>
        simp only [he, hl, Std.ExtTreeSet.mem_diff_iff, HandleSet.mem_insert, HandleSet.mem_erase] <;> grind

end Owes

end Watcher

/-! ## Properties of all watchers -/

/-- Gains, losses and movements of a watcher keep the property. -/
structure Lasting (P : Handle → Watcher → Prop) : Prop where
  gain : ∀ h w peer, P h w → P h (w.gain peer)
  lose : ∀ h w peer, P h w → P h (w.lose peer)
  shift : ∀ h w pos, P h w → P h { w with pos := pos }

/-- To owe what was told is a lasting property. -/
theorem lasting_owes (told : Handle → HandleSet) : Lasting fun h w => w.Owes (told h) where
  gain _ _ peer hw := hw.gain peer
  lose _ _ peer hw := hw.lose peer
  shift _ _ _ hw := ⟨hw.entered, hw.left⟩

namespace Visibility

variable {v u : Visibility} {h g : Handle} {P : Handle → Watcher → Prop}

/-- All watchers have the property. -/
def All (P : Handle → Watcher → Prop) (v : Visibility) : Prop :=
  ∀ h w, v.watchers[h]? = some w → P h w

namespace All

theorem meet (hP : Lasting P) (hv : v.All P) (h p : Handle) : (v.meet h p).All P := by
  intro k w hw
  simp only [Visibility.meet, getElem?_pair _ (fun p w => w.gain p), Option.map_eq_some_iff] at hw
  obtain ⟨w, hw, rfl⟩ := hw
  have := hv k w hw
  split <;> split <;> simp only [hP.gain, this]

theorem part (hP : Lasting P) (hv : v.All P) (h p : Handle) : (v.part h p).All P := by
  intro k w hw
  simp only [Visibility.part, getElem?_pair _ (fun p w => w.lose p), Option.map_eq_some_iff] at hw
  obtain ⟨w, hw, rfl⟩ := hw
  have := hv k w hw
  split <;> split <;> simp only [hP.lose, this]

theorem refresh (hP : Lasting P) (hv : v.All P) (h : Handle) : (v.refresh h).All P :=
  refresh_keeps (Q := fun v => v.All P) (fun _ p hv => hv.meet hP h p) (fun _ p hv => hv.part hP h p) hv

theorem foldl_refresh (hP : Lasting P) (hv : v.All P) (peers : List Handle) :
    (peers.foldl Visibility.refresh v).All P :=
  List.foldlRecOn peers Visibility.refresh hv fun _ hv p _ => hv.refresh hP p

/-- One watcher is put in the place of another, or of none. -/
theorem insert (hv : v.All P) {w : Watcher} (hw : P h w) (m : Std.ExtTreeMap Cell HandleSet) :
    All P { v with listed := m, watchers := v.watchers.insert h w } := by
  intro k w' hw'
  simp only [Roster.getElem?_insert] at hw'
  split at hw'
  · rename_i e
    cases hw'
    exact e ▸ hw
  · exact hv k w' hw'

theorem move? (hP : Lasting P) (hv : v.All P) {pos : Tile} (hu : v.move? h pos = some u) : u.All P := by
  obtain ⟨w, hw, rfl⟩ := Option.map_eq_some_iff.mp hu
  have hshift := hP.shift h w pos (hv h w hw)
  dsimp only
  split
  · exact hv.insert hshift v.listed
  · exact (hv.insert hshift _).refresh hP h

theorem move (hP : Lasting P) (hv : v.All P) (h : Handle) (pos : Tile) : (v.move h pos).All P := by
  unfold Visibility.move
  cases hu : v.move? h pos with
  | none => exact hv
  | some u => exact hv.move? hP hu

/-- An entity that was not there is a newcomer. -/
theorem add (hP : Lasting P) (hv : v.All P) (h : Handle) (pos : Tile)
    (hnew : v.position h = none → P h (.newcomer pos)) : (v.add h pos).All P := by
  unfold Visibility.add
  cases hu : v.move? h pos with
  | none =>
    have hp : v.position h = none := by simpa [Visibility.move?, position] using hu
    exact (hv.insert (hnew hp) _).refresh hP h
  | some u => exact hv.move? hP hu

theorem remove (hv : v.All P) (h : Handle) : (v.remove h).2.All P := by
  unfold Visibility.remove
  split
  · exact hv
  · intro k w hw
    simp only [Roster.getElem?_erase] at hw
    split at hw
    · cases hw
    · exact hv k w hw

end All

/-! ## Telling -/

/-- Lists, places and what everybody sees are the same. -/
def SameSight (v u : Visibility) : Prop :=
  SameGround v u ∧ ∀ k, u.visible k = v.visible k

/-- Soundness is a matter of lists, places and sight. -/
theorem Sound.congr (hu : SameSight v u) (hv : v.Sound) : u.Sound where
  toListed := hv.toListed.congr hu.1
  sees_iff {h g} := by
    rw [hu.1.close, ← hv.sees_iff]
    simp only [Sees, hu.2]

/-- One who is there is told of its changes, and nobody else of anything. -/
theorem consume_eq {w : Watcher} (hw : v.watchers[h]? = some w) :
    v.consume h = (w.changes, { v with watchers := v.watchers.insert h w.told }) := by
  simp only [consume, hw]

/-- Whoever is told of its changes is owed nothing more; the others are left alone. -/
theorem getElem?_consume (v : Visibility) (g h : Handle) :
    (v.consume g).2.watchers[h]? = if h = g then v.watchers[h]?.map (·.told) else v.watchers[h]? := by
  cases hg : v.watchers[g]? with
  | none =>
    simp only [consume, hg]
    split
    · rename_i e
      rw [e, hg, Option.map_none]
    · rfl
  | some w =>
    rw [consume_eq hg, Roster.getElem?_insert]
    split
    · rename_i e
      rw [e, hg, Option.map_some]
    · rfl

theorem consume_sameSight (v : Visibility) (h : Handle) : SameSight v (v.consume h).2 := by
  refine ⟨⟨?_, ?_, fun k => ?_⟩, fun k => ?_⟩
  · unfold consume
    split <;> rfl
  · unfold consume
    split <;> rfl
  · simp only [position, getElem?_consume]
    split
    · rw [Option.map_map]
      rfl
    · rfl
  · simp only [visible, getElem?_consume]
    split
    · rw [Option.map_map]
      rfl
    · rfl

theorem getElem?_drain (v : Visibility) (h : Handle) : v.drain.2.watchers[h]? = v.watchers[h]?.map (·.told) :=
  Std.ExtTreeMap.getElem?_map

theorem drain_sameSight (v : Visibility) : SameSight v v.drain.2 := by
  refine ⟨⟨rfl, rfl, fun k => ?_⟩, fun k => ?_⟩
  · rw [position, getElem?_drain, Option.map_map]
    rfl
  · rw [visible, getElem?_drain, Option.map_map]
    rfl

/-- A drain reports the changes of those who have any. -/
theorem mem_pending {c : Changes} :
    (h, c) ∈ v.pending ↔ ∃ w, v.watchers[h]? = some w ∧ c = w.changes ∧ ¬(w.entered = ∅ ∧ w.left = ∅) := by
  have hempty : ∀ w : Watcher, ¬w.changes.isEmpty = true ↔ ¬(w.entered = ∅ ∧ w.left = ∅) := by
    intro w
    simp [Changes.isEmpty, Watcher.changes]
  simp only [pending, List.mem_filterMap, Prod.exists, Std.ExtTreeMap.mem_toList_iff_getElem?_eq_some,
    Option.ite_none_left_eq_some, Option.some.injEq, Prod.mk.injEq, hempty]
  constructor
  · rintro ⟨k, w, hw, hne, rfl, rfl⟩
    exact ⟨w, hw, rfl, hne⟩
  · rintro ⟨w, hw, rfl, hne⟩
    exact ⟨h, w, hw, hne, rfl, rfl⟩

/-- After a drain there is nothing left to tell. -/
theorem drain_drain (v : Visibility) : v.drain.2.drain = ([], v.drain.2) := by
  have hpending : v.drain.2.pending = [] := by
    rw [List.eq_nil_iff_forall_not_mem]
    rintro ⟨h, c⟩ hc
    obtain ⟨w, hw, _, hne⟩ := mem_pending.mp hc
    rw [getElem?_drain, Option.map_eq_some_iff] at hw
    obtain ⟨x, _, rfl⟩ := hw
    exact hne ⟨rfl, rfl⟩
  have hwatchers : (v.watchers.map fun _ w => w.told).map (fun _ w => w.told) = v.watchers.map fun _ w => w.told := by
    ext k w
    simp only [Std.ExtTreeMap.getElem?_map, Option.map_map]
    rfl
  rw [drain, hpending, drain, hwatchers]

/-- A drain reports in strictly ascending order of the receivers. -/
theorem ascending_pending (v : Visibility) : (v.pending.map (·.1)).Pairwise (fun a b => a.raw < b.raw) := by
  rw [List.pairwise_map]
  apply Std.ExtTreeMap.ordered_keys_toList.filterMap
  rintro ⟨h, w⟩ ⟨g, x⟩ hlt ⟨h', c⟩ hc ⟨g', d⟩ hd
  simp only [Option.ite_none_left_eq_some, Option.some.injEq, Prod.mk.injEq] at hc hd
  obtain ⟨_, rfl, _⟩ := hc
  obtain ⟨_, rfl, _⟩ := hd
  exact Handle.compare_lt_iff.mp hlt

/-! ## What determines visibility -/

/-- Lists of which none is empty are the same if they have the same members. -/
theorem NoneEmpty.ext {m n : Std.ExtTreeMap Cell HandleSet} (hm : NoneEmpty m) (hn : NoneEmpty n)
    (hmem : ∀ cell g, g ∈ m.getD cell ∅ ↔ g ∈ n.getD cell ∅) : m = n := by
  apply Std.ExtTreeMap.ext_getElem?
  intro cell
  have hget : (m[cell]?).getD ∅ = (n[cell]?).getD ∅ := by
    rw [← Std.ExtTreeMap.getD_eq_getD_getElem?, ← Std.ExtTreeMap.getD_eq_getD_getElem?]
    ext g
    exact hmem cell g
  have hmc := hm cell
  have hnc := hn cell
  cases hmo : m[cell]? <;> cases hno : n[cell]? <;> simp_all

/-- Two sound states with cells of one size are the same if they have everybody at the same place and everybody was told
of the same. -/
theorem Sound.ext {told : Handle → HandleSet} (hv : v.Sound) (hu : u.Sound) (hsize : v.cellSize = u.cellSize)
    (hpos : ∀ h, v.position h = u.position h) (hvtold : v.All fun h w => w.Owes (told h))
    (hutold : u.All fun h w => w.Owes (told h)) : v = u := by
  have hblock : v.block = u.block := by
    funext pos
    rw [block, block, hsize]
  have hsees : ∀ h g, v.Sees h g ↔ u.Sees h g := by
    intro h g
    rw [hv.sees_iff, hu.sees_iff]
    exact close_congr (by rw [hpos, hblock]) (by rw [hpos, hblock])
  have hlisted : v.listed = u.listed := by
    refine hv.none_empty.ext hu.none_empty fun cell g => ?_
    have hmem : g ∈ v.members cell ↔ g ∈ u.members cell := by simp only [hv.mem_members, hu.mem_members, hpos, hblock]
    exact hmem
  have hwatchers : v.watchers = u.watchers := by
    apply Std.ExtTreeMap.ext_getElem?
    intro h
    have hplace := hpos h
    unfold position at hplace
    cases hw : v.watchers[h]? with
    | none =>
      rw [hw, Option.map_none, eq_comm, Option.map_eq_none_iff] at hplace
      exact hplace.symm
    | some w =>
      rw [hw, Option.map_some, eq_comm, Option.map_eq_some_iff] at hplace
      obtain ⟨x, hx, hwx⟩ := hplace
      have hvisible : w.visible = x.visible := by
        ext g
        rw [← sees_iff_mem hw, ← sees_iff_mem hx, hsees]
      rw [hx, (hvtold h w hw).ext (hutold h x hx) hwx.symm hvisible]
  cases v
  cases u
  exact Visibility.mk.injEq .. ▸ ⟨hsize, hlisted, hwatchers⟩

end Visibility

end TileRealm
