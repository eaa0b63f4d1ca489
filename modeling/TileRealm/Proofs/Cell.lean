import TileRealm.Tile.Cell

/-!
# The block around a cell

- the block of a cell holds the cells at most one step away (`Cell.mem_block`), also where it is cut off at the edge
  of the plane;
- the blocks of two cells share a cell iff the two are at most two steps apart (`Cell.blocks_meet_iff`).
-/

set_option autoImplicit false

namespace TileRealm

/-- A number is a coordinate iff it is the value of one. -/
theorem coordinate?_eq_some_iff {n : Int} {x : UInt32} : coordinate? n = some x ↔ n = x.toNat := by
  have hx : x.toNat < UInt32.size := x.toNat_lt_size
  simp only [coordinate?, UInt32.size] at hx ⊢
  split
  · rename_i h
    simp only [Option.some.injEq]
    constructor
    · rintro rfl
      rw [UInt32.toNat_ofNat_of_lt' (by simp only [UInt32.size]; omega)]
      omega
    · rintro rfl
      simp
  · simp only [reduceCtorEq, false_iff]
    omega

namespace Cell

theorem offset_eq_some_iff {c d : Cell} {dx dy : Int} :
    c.offset dx dy = some d ↔ (c.x.toNat + dx : Int) = d.x.toNat ∧ (c.y.toNat + dy : Int) = d.y.toNat := by
  simp only [offset, bind, Option.bind_eq_some_iff, coordinate?_eq_some_iff, pure, Option.some.injEq]
  constructor
  · rintro ⟨x, hx, y, hy, rfl⟩
    exact ⟨hx, hy⟩
  · rintro ⟨hx, hy⟩
    exact ⟨d.x, hx, d.y, hy, rfl⟩

/-- The block of a cell holds the cells at most one step away. -/
theorem mem_block {c d : Cell} : d ∈ c.block ↔ c.steps d ≤ 1 := by
  simp only [block, List.mem_flatMap, List.mem_filterMap, offset_eq_some_iff, steps]
  constructor
  · rintro ⟨dx, hdx, dy, hdy, hx, hy⟩
    simp only [List.mem_cons, List.not_mem_nil, or_false] at hdx hdy
    omega
  · intro h
    refine ⟨(d.x.toNat : Int) - c.x.toNat, ?_, (d.y.toNat : Int) - c.y.toNat, ?_, by omega, by omega⟩
    · simp only [List.mem_cons, List.not_mem_nil, or_false]
      omega
    · simp only [List.mem_cons, List.not_mem_nil, or_false]
      omega

/-- The coordinate in the middle of two. -/
theorem toNat_middle (a b : UInt32) : (UInt32.ofNat ((a.toNat + b.toNat) / 2)).toNat = (a.toNat + b.toNat) / 2 := by
  have ha : a.toNat < 2 ^ 32 := a.toNat_lt
  have hb : b.toNat < 2 ^ 32 := b.toNat_lt
  exact UInt32.toNat_ofNat_of_lt' (by simp [UInt32.size]; omega)

/-- The blocks of two cells share a cell iff the two are at most two steps apart. -/
theorem blocks_meet_iff {a b : Cell} : (∃ c, c ∈ a.block ∧ c ∈ b.block) ↔ a.steps b ≤ 2 := by
  simp only [mem_block, steps]
  constructor
  · rintro ⟨c, hac, hbc⟩
    omega
  · intro h
    refine ⟨⟨UInt32.ofNat ((a.x.toNat + b.x.toNat) / 2), UInt32.ofNat ((a.y.toNat + b.y.toNat) / 2)⟩, ?_⟩
    simp only [toNat_middle]
    omega

end Cell

/-- A size of 0 counts as 1. -/
theorem Tile.cell_max_one (size : UInt32) (t : Tile) : t.cell (max size 1) = t.cell size := by
  have hmax : ∀ a : UInt32, max a 1 = if a ≤ 1 then 1 else a := fun _ => rfl
  have hsize : max (max size 1) 1 = max size 1 := by
    rw [hmax size]
    split
    · rfl
    · rename_i h
      rw [hmax, if_neg h]
  simp only [cell, hsize]

end TileRealm
