import TileRealm.Terrain.Sampling

/-!
# Where terrain is stored

- `Store.Holds`, `Store.Covers`, `Store.covers_of_fits`: the indices that a store has a place for, which are all that it
  has to have a place for if its size is right;
- `Store.testBit_writeBit`, `Store.read_write`, `Store.fits_write`, `Store.covers_write`: to write changes the value at
  one index, and neither another value nor the size;
- `Terrain.Inside`, `Terrain.index?_tile`, `Terrain.index?_lt`, `Terrain.index?_place`: every position has an index of
  its own below the area;
- `Terrain.tileAt`, `Terrain.index?_tileAt`, `Terrain.tileAt_of_index?`: and every index below the area belongs to a
  tile;
- `Terrain.walkable_set`, `Terrain.WellFormed.set`: so to change a tile changes this tile alone;
- `Terrain.isValid_samplingArea`: tiles are drawn from an area that has one;
- `Terrain.Guarded`, `Terrain.guarded_iff`: what keeps a terrain from a lookup outside of its store and from a draw
  without tiles.
-/

set_option autoImplicit false

namespace TileRealm

/-! ## Stores -/

namespace Store

variable {s : Store} {i j n : Nat} {value : Bool}

/-- Whether there is a place for the value at an index. -/
def Holds (s : Store) (i : Nat) : Prop :=
  match s with
  | dense cells => i < cells.size
  | bitmap words => i / 64 < words.size

instance (s : Store) (i : Nat) : Decidable (s.Holds i) :=
  match s with
  | dense cells => Nat.decLt i cells.size
  | bitmap words => Nat.decLt (i / 64) words.size

/-- Whether there are places for so many values. -/
def Covers (s : Store) (n : Nat) : Prop :=
  match s with
  | dense cells => n ≤ cells.size
  | bitmap words => wordCount n ≤ words.size

theorem covers_of_fits (h : s.Fits n) : s.Covers n := by
  cases s with
  | dense cells => exact Nat.le_of_eq (Eq.symm h)
  | bitmap words => exact Nat.le_of_eq (Eq.symm h)

theorem covers_iff : s.Covers n ↔ ∀ i < n, s.Holds i := by
  cases s with
  | dense cells =>
    refine ⟨fun h i hi => Nat.lt_of_lt_of_le hi h, fun h => Nat.not_lt.mp fun hsize => ?_⟩
    exact Nat.lt_irrefl _ (h cells.size hsize)
  | bitmap words =>
    simp only [Covers, Holds, wordCount]
    constructor
    · intro h i hi
      omega
    · intro h
      apply Nat.not_lt.mp
      intro hsize
      have hlast := h (64 * words.size) (by omega)
      omega

theorem read_of_not_holds (h : ¬ s.Holds i) : s.read i = false := by
  cases s with
  | dense cells =>
    have hsize : cells.size ≤ i := Nat.not_lt.mp h
    simp [read, hsize]
  | bitmap words =>
    have hsize : words.size ≤ i / 64 := Nat.not_lt.mp h
    simp [read, hsize]

/-- One bit of a word is changed, and the others stay. -/
theorem testBit_writeBit (word : UInt64) {bit : Nat} (i : Nat) (value : Bool) (hbit : bit < 64) :
    (writeBit word bit value).toNat.testBit i = if i = bit then value else word.toNat.testBit i := by
  have hbits : ∀ w : UInt64, w.toNat.testBit i = w.toBitVec.getLsbD i := fun _ => rfl
  have hshift : ((UInt64.ofNat bit).toBitVec % 64).toNat = bit := by
    rw [BitVec.toNat_umod, UInt64.toNat_toBitVec, UInt64.toNat_ofNat']
    exact (Nat.mod_mod_of_dvd bit (by decide)).trans (Nat.mod_eq_of_lt hbit)
  have hmask : (UInt64.toBitVec 1 <<< ((UInt64.ofNat bit).toBitVec % 64)).getLsbD i = decide (i = bit) := by
    rw [BitVec.shiftLeft_eq', hshift, BitVec.getLsbD_shiftLeft]
    have hone : (UInt64.toBitVec 1).getLsbD (i - bit) = decide (i - bit = 0) := by
      simp
    rw [hone, Bool.eq_iff_iff]
    simp only [Bool.and_eq_true, Bool.not_eq_true', decide_eq_true_eq, decide_eq_false_iff_not]
    omega
  cases value with
  | true =>
    simp only [writeBit, hbits, if_true, UInt64.toBitVec_or, UInt64.toBitVec_shiftLeft, BitVec.getLsbD_or, hmask]
    by_cases hi : i = bit <;> simp [hi]
  | false =>
    simp only [writeBit, hbits, Bool.false_eq_true, if_false, UInt64.toBitVec_and, UInt64.toBitVec_not,
      UInt64.toBitVec_shiftLeft, BitVec.getLsbD_and, BitVec.getLsbD_not, hmask]
    by_cases hi : i < 64
    · by_cases heq : i = bit <;> simp [hi, heq]
    · simp [BitVec.getLsbD_of_ge _ _ (Nat.le_of_not_lt hi)]

/-- Nothing but the value at the index is changed. -/
theorem read_write (s : Store) (i j : Nat) (value : Bool) :
    (s.write i value).read j = if j = i ∧ s.Holds i then value else s.read j := by
  cases s with
  | dense cells =>
    simp only [write, read, Holds, Array.getD_eq_getD_getElem?, Array.getElem?_setIfInBounds]
    by_cases hj : j = i
    · subst hj
      by_cases hsize : j < cells.size <;> simp [hsize]
    · simp [hj, Ne.symm hj]
  | bitmap words =>
    have hplace : j = i ↔ j / 64 = i / 64 ∧ j % 64 = i % 64 := by omega
    simp only [write, read, Holds, Array.getD_eq_getD_getElem?, Array.getElem?_modify]
    by_cases hword : i / 64 = j / 64
    · cases hw : words[j / 64]? with
      | none =>
        have hsize : ¬ j / 64 < words.size := Nat.not_lt.mpr (Array.getElem?_eq_none_iff.mp hw)
        simp [hword, hsize]
      | some word =>
        have hbit : i % 64 < 64 := Nat.mod_lt _ (by decide)
        have hsize : j / 64 < words.size := (Array.getElem?_eq_some_iff.mp hw).1
        simp [hword, hsize, testBit_writeBit, hbit, hplace]
    · have hne : j ≠ i := by
        rintro rfl
        exact hword rfl
      simp [hword, hne]

@[simp]
theorem fits_write : (s.write i value).Fits n ↔ s.Fits n := by
  cases s with
  | dense cells => simp [write, Fits]
  | bitmap words => simp [write, Fits]

@[simp]
theorem covers_write : (s.write i value).Covers n ↔ s.Covers n := by
  cases s with
  | dense cells => simp [write, Covers]
  | bitmap words => simp [write, Covers]

end Store

/-! ## Indices -/

namespace Terrain

variable {t : Terrain} {p q : Tile} {x y : Int} {i : Nat} {value : Bool}

/-- Whether a tile lies in the rectangle. -/
def Inside (t : Terrain) (p : Tile) : Prop :=
  p.x < t.width ∧ p.y < t.height

instance (t : Terrain) (p : Tile) : Decidable (t.Inside p) :=
  inferInstanceAs (Decidable (_ ∧ _))

theorem index?_eq_some_iff : t.index? x y = some i ↔
    (0 ≤ x ∧ 0 ≤ y ∧ x < t.width.toNat ∧ y < t.height.toNat) ∧ y.toNat * t.width.toNat + x.toNat = i := by
  simp [index?, inBounds]

theorem index?_tile (t : Terrain) (p : Tile) : t.index? p.x.toNat p.y.toNat =
    if t.Inside p then some (p.y.toNat * t.width.toNat + p.x.toNat) else none := by
  simp [index?, inBounds, Inside, UInt32.lt_iff_toNat_lt]

/-- The index of a position tells its row and its column. -/
theorem index?_place (h : t.index? x y = some i) :
    y = (i / t.width.toNat : Nat) ∧ x = (i % t.width.toNat : Nat) := by
  obtain ⟨⟨hx, hy, hwidth, -⟩, rfl⟩ := index?_eq_some_iff.mp h
  have hlt : x.toNat < t.width.toNat := by omega
  rw [Nat.mul_comm, Nat.mul_add_div (by omega), Nat.div_eq_of_lt hlt, Nat.mul_add_mod, Nat.mod_eq_of_lt hlt]
  omega

theorem index?_lt (h : t.index? x y = some i) : i < t.area := by
  obtain ⟨⟨hx, hy, hwidth, hheight⟩, rfl⟩ := index?_eq_some_iff.mp h
  calc y.toNat * t.width.toNat + x.toNat < y.toNat * t.width.toNat + t.width.toNat := by omega
    _ = (y.toNat + 1) * t.width.toNat := (Nat.succ_mul _ _).symm
    _ ≤ t.height.toNat * t.width.toNat := Nat.mul_le_mul_right _ (by omega)
    _ = t.area := Nat.mul_comm _ _

/-- Every position of a terrain of the right size has a place in the store. -/
theorem WellFormed.holds (ht : t.WellFormed) (h : t.index? x y = some i) : t.store.Holds i :=
  Store.covers_iff.mp (Store.covers_of_fits ht.fits) i (index?_lt h)

/-! ## Tiles by index -/

/-- The tile with an index. -/
def tileAt (t : Terrain) (i : Nat) : Tile :=
  ⟨UInt32.ofNat (i % t.width.toNat), UInt32.ofNat (i / t.width.toNat)⟩

theorem index?_tileAt (hi : i < t.area) : t.index? (t.tileAt i).x.toNat (t.tileAt i).y.toNat = some i := by
  have hwidth : 0 < t.width.toNat := Nat.pos_of_mul_pos_right (Nat.zero_lt_of_lt hi)
  have hcolumn : i % t.width.toNat < t.width.toNat := Nat.mod_lt _ hwidth
  have hrow : i / t.width.toNat < t.height.toNat := Nat.div_lt_of_lt_mul hi
  have hx : (t.tileAt i).x.toNat = i % t.width.toNat :=
    UInt32.toNat_ofNat_of_lt' (Nat.lt_trans hcolumn t.width.toNat_lt)
  have hy : (t.tileAt i).y.toNat = i / t.width.toNat :=
    UInt32.toNat_ofNat_of_lt' (Nat.lt_trans hrow t.height.toNat_lt)
  rw [index?_eq_some_iff, hx, hy, Int.toNat_natCast, Int.toNat_natCast, Nat.mul_comm]
  exact ⟨by omega, Nat.div_add_mod _ _⟩

theorem tileAt_of_index? (h : t.index? p.x.toNat p.y.toNat = some i) : t.tileAt i = p := by
  obtain ⟨hy, hx⟩ := index?_place h
  rw [tileAt, ← Int.natCast_inj.mp hx, ← Int.natCast_inj.mp hy, UInt32.ofNat_toNat, UInt32.ofNat_toNat]

theorem walkable_tileAt (hi : i < t.area) : t.walkable (t.tileAt i) = t.store.read i := by
  rw [walkable, walkableAt, index?_tileAt hi]

/-! ## One tile changed -/

theorem set?_eq (t : Terrain) (p : Tile) (value : Bool) :
    t.set? p value = if t.Inside p then some (t.set p value) else none := by
  rw [set?, set, index?_tile]
  by_cases hp : t.Inside p <;> simp [hp]

theorem set_of_not_inside (h : ¬ t.Inside p) : t.set p value = t := by
  rw [set, index?_tile, if_neg h]

@[simp]
theorem width_set (t : Terrain) (p : Tile) (value : Bool) : (t.set p value).width = t.width := by
  unfold set
  split <;> rfl

@[simp]
theorem height_set (t : Terrain) (p : Tile) (value : Bool) : (t.set p value).height = t.height := by
  unfold set
  split <;> rfl

theorem WellFormed.set (ht : t.WellFormed) (p : Tile) (value : Bool) : (t.set p value).WellFormed := by
  unfold Terrain.set
  split
  · exact ⟨ht.width_pos, ht.height_pos, Store.fits_write.mpr ht.fits⟩
  · exact ht

/-- To change a tile changes what is said of this tile alone. -/
theorem walkable_set (ht : t.WellFormed) (p q : Tile) (value : Bool) :
    (t.set p value).walkable q = if q = p ∧ t.Inside p then value else t.walkable q := by
  by_cases hp : t.Inside p
  · have hindex := index?_tile t p
    rw [if_pos hp] at hindex
    have hholds := ht.holds hindex
    have hsame : ∀ i, (t.write i value).index? q.x.toNat q.y.toNat = t.index? q.x.toNat q.y.toNat := fun _ => rfl
    rw [set, hindex, walkable, walkableAt, hsame, walkable, walkableAt]
    cases hq : t.index? q.x.toNat q.y.toNat with
    | none =>
      have hne : q ≠ p := by
        rintro rfl
        rw [hindex] at hq
        cases hq
      simp [hne]
    | some j =>
      have heq : j = p.y.toNat * t.width.toNat + p.x.toNat ↔ q = p := by
        constructor
        · rintro rfl
          obtain ⟨hy, hx⟩ := index?_place hq
          obtain ⟨hy', hx'⟩ := index?_place hindex
          rw [← hy', Int.natCast_inj, UInt32.toNat_inj] at hy
          rw [← hx', Int.natCast_inj, UInt32.toNat_inj] at hx
          cases p
          cases q
          exact (Tile.mk.injEq _ _ _ _).mpr ⟨hx, hy⟩
        · rintro rfl
          exact Option.some_inj.mp (hq.symm.trans hindex)
      simp only [write, Store.read_write, heq, hholds, hp, and_true]
  · rw [set_of_not_inside hp, if_neg (fun h => hp h.2)]

/-! ## Where tiles are drawn -/

/-- The part of a span that lies below a size has a line. -/
theorem clip_lt {size : UInt32} (lo hi : UInt32) (hsize : 0 < size) : (clip size lo hi).1 < (clip size lo hi).2 := by
  have hlo : min lo (size - 1) ≤ size - 1 := Std.min_le_right
  have hnext : min lo (size - 1) < min lo (size - 1) + 1 := by grind
  refine UInt32.lt_of_lt_of_le hnext ?_
  change _ ≤ if min hi size ≤ min lo (size - 1) + 1 then min lo (size - 1) + 1 else min hi size
  split
  · exact UInt32.le_refl _
  · rename_i h
    exact UInt32.le_of_lt (UInt32.not_le.mp h)

theorem isValid_samplingArea (hwidth : 0 < t.width) (hheight : 0 < t.height) (area : Option Area) :
    (t.samplingArea area).isValid = true := by
  have hbounds : t.bounds.isValid = true := decide_eq_true ⟨hwidth, hheight⟩
  cases area with
  | none => exact hbounds
  | some a =>
    rw [samplingArea]
    split
    · exact decide_eq_true ⟨clip_lt a.x1 a.x2 hwidth, clip_lt a.y1 a.y2 hheight⟩
    · exact hbounds

/-- Nothing that a terrain can be asked for leads out of its store, and whatever area tiles are to be drawn from has
a tile. -/
structure Guarded (t : Terrain) : Prop where
  holds : ∀ x y i, t.index? x y = some i → t.store.Holds i
  draws : ∀ area, (t.samplingArea area).isValid = true

/-- A rectangle that is not empty, with a place for each of its tiles. -/
theorem guarded_iff : t.Guarded ↔ 0 < t.width ∧ 0 < t.height ∧ t.store.Covers t.area := by
  constructor
  · intro ⟨hholds, hdraws⟩
    obtain ⟨hwidth, hheight⟩ := of_decide_eq_true (hdraws none)
    refine ⟨hwidth, hheight, Store.covers_iff.mpr fun i hi => ?_⟩
    exact hholds _ _ i (index?_tileAt hi)
  · rintro ⟨hwidth, hheight, hcovers⟩
    refine ⟨fun x y i hi => ?_, isValid_samplingArea hwidth hheight⟩
    exact Store.covers_iff.mp hcovers i (index?_lt hi)

theorem WellFormed.guarded (ht : t.WellFormed) : t.Guarded :=
  guarded_iff.mpr ⟨ht.width_pos, ht.height_pos, Store.covers_of_fits ht.fits⟩

theorem Guarded.set (ht : t.Guarded) (p : Tile) (value : Bool) : (t.set p value).Guarded := by
  obtain ⟨hwidth, hheight, hcovers⟩ := guarded_iff.mp ht
  unfold Terrain.set
  split
  · exact guarded_iff.mpr ⟨hwidth, hheight, Store.covers_write.mpr hcovers⟩
  · exact ht

end Terrain

end TileRealm
