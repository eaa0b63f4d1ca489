import TileRealm.Tile.Pixel

/-!
# Tiles and pixels

- `Scale.toNat_centre`, `Scale.centre_mono`: the pixel in the middle of a tile, cut at the last pixel;
- `Scale.centre_div_edge`: which coordinate comes back from the pixel in the middle of a tile;
- `Scale.toTile_toPixel`: a tile comes back if its first pixel exists;
- `Scale.Carried`, `Scale.carried`: what becomes of a coordinate on its way to pixels and back, step by step;
- `Scale.there_and_back`: so just these tiles come back.
-/

set_option autoImplicit false

namespace TileRealm

theorem toNat_saturate (n : Nat) : (saturate n).toNat = min n maxCoordinate := by
  have hlt : min n maxCoordinate < 2 ^ 32 := Nat.lt_of_le_of_lt (Nat.min_le_right _ _) (by decide)
  rw [saturate, UInt32.toNat_ofNat', Nat.mod_eq_of_lt hlt]

namespace Scale

theorem edge_pos (scale : Scale) : 0 < scale.edge := by
  unfold edge
  omega

theorem edge_le (scale : Scale) : scale.edge ≤ maxCoordinate := by
  have := scale.tileSize.toNat_lt
  simp only [edge, maxCoordinate, UInt32.size]
  omega

/-- The middle of a tile, or the last pixel if the middle lies behind it. -/
theorem toNat_centre (scale : Scale) (n : UInt32) :
    (scale.centre n).toNat = min (n.toNat * scale.edge + scale.edge / 2) maxCoordinate := by
  rw [centre, toNat_saturate]
  omega

theorem centre_mono (scale : Scale) {m n : UInt32} (h : m ≤ n) : scale.centre m ≤ scale.centre n := by
  have hfirst : m.toNat * scale.edge ≤ n.toNat * scale.edge := Nat.mul_le_mul_right _ (UInt32.le_iff_toNat_le.mp h)
  rw [UInt32.le_iff_toNat_le, toNat_centre, toNat_centre]
  omega

/-- Where the first pixel of a tile does not exist, its middle is cut at the last pixel. -/
theorem toNat_centre_of_lt {scale : Scale} {n : UInt32} (h : scale.lastExact < n.toNat) :
    (scale.centre n).toNat = maxCoordinate := by
  have hfirst : maxCoordinate < n.toNat * scale.edge := (Nat.div_lt_iff_lt_mul scale.edge_pos).mp h
  rw [toNat_centre]
  omega

/-- A coordinate comes back if its first pixel exists.  All others come back as the last one of which that is true. -/
theorem centre_div_edge (scale : Scale) (n : UInt32) :
    (scale.centre n).toNat / scale.edge = min n.toNat scale.lastExact := by
  have hedge := scale.edge_pos
  rw [centre, toNat_saturate, lastExact]
  generalize scale.edge = e at hedge
  generalize n.toNat = n
  generalize maxCoordinate = top
  have htop := Nat.div_add_mod top e
  have hrest := Nat.mod_lt top hedge
  by_cases hn : n ≤ top / e
  · -- the first pixel of the tile exists, and neither the middle nor the top is as far as that of the next tile
    have hfirst : n * e ≤ top := (Nat.le_div_iff_mul_le hedge).mp hn
    have hnext : n * e + e / 2 < (n + 1) * e := by
      rw [Nat.add_mul, Nat.one_mul]
      omega
    rw [Nat.min_eq_left hfirst, Nat.min_eq_left hn]
    apply Nat.div_eq_of_lt_le
    · omega
    · omega
  · have hfar : top < n * e := (Nat.div_lt_iff_lt_mul hedge).mp (Nat.lt_of_not_le hn)
    have hmiddle : min (min (n * e) top + e / 2) top = top := by omega
    rw [hmiddle, Nat.min_eq_right (Nat.le_of_not_le hn)]

/-- A tile comes back from its pixel if its first pixel exists. -/
theorem toTile_toPixel {scale : Scale} {t : Tile} (hx : t.x.toNat ≤ scale.lastExact)
    (hy : t.y.toNat ≤ scale.lastExact) :
    scale.toTile (scale.toPixel t) = t := by
  simp only [toTile, toPixel, centre_div_edge, Nat.min_eq_left hx, Nat.min_eq_left hy, UInt32.ofNat_toNat]

/-! ## There and back -/

/-- A coordinate `n` becomes the pixel `p`, and the pixel becomes the coordinate `back`. -/
structure Carried (scale : Scale) (n p back : UInt32) : Prop where
  /-- Each step has a word for its result: the edge, which is not empty, the product and the sum, which are cut at the
  last pixel, and the quotient. -/
  words : ∃ edge product : UInt32, edge.toNat = max scale.tileSize.toNat 1 ∧
    product.toNat = min (n.toNat * edge.toNat) maxCoordinate ∧
    p.toNat = min (product.toNat + (edge / 2).toNat) maxCoordinate ∧ back = p / edge
  kept : n.toNat ≤ scale.lastExact → back = n
  cut : scale.lastExact < n.toNat → p.toNat = maxCoordinate ∧ back.toNat = scale.lastExact

theorem carried (scale : Scale) (n : UInt32) :
    scale.Carried n (scale.centre n) (UInt32.ofNat ((scale.centre n).toNat / scale.edge)) where
  words := by
    have hedge : (UInt32.ofNat scale.edge).toNat = scale.edge :=
      UInt32.toNat_ofNat_of_lt' (Nat.lt_of_le_of_lt scale.edge_le (by decide))
    refine ⟨UInt32.ofNat scale.edge, saturate (n.toNat * scale.edge), hedge, ?_, ?_, ?_⟩
    · rw [toNat_saturate, hedge]
    · rw [centre, toNat_saturate, toNat_saturate, UInt32.toNat_div, hedge]
      rfl
    · rw [← UInt32.toNat_inj, UInt32.toNat_div, hedge, UInt32.toNat_ofNat']
      exact Nat.mod_eq_of_lt (Nat.lt_of_le_of_lt (Nat.div_le_self _ _) (scale.centre n).toNat_lt)
  kept hn := by rw [centre_div_edge, Nat.min_eq_left hn, UInt32.ofNat_toNat]
  cut hn := by
    have hlast : scale.lastExact < 2 ^ 32 := Nat.lt_trans hn n.toNat_lt
    refine ⟨toNat_centre_of_lt hn, ?_⟩
    rw [centre_div_edge, Nat.min_eq_right (Nat.le_of_lt hn), UInt32.toNat_ofNat', Nat.mod_eq_of_lt hlast]

theorem Carried.eq_iff {scale : Scale} {n p back : UInt32} (h : scale.Carried n p back) :
    back = n ↔ n.toNat ≤ scale.lastExact := by
  refine ⟨fun hback => Nat.le_of_not_lt fun hn => ?_, h.kept⟩
  have := (h.cut hn).2
  rw [hback] at this
  omega

/-- **There and back.** A tile comes back from the pixel at its centre just if the first pixels of its column and its
row exist.  Each of its coordinates is carried by itself, in steps that never wrap around, and a larger coordinate is
never carried to a smaller pixel. -/
theorem there_and_back (scale : Scale) (t : Tile) :
    (scale.toTile (scale.toPixel t) = t ↔
      t.x.toNat ≤ maxCoordinate / max scale.tileSize.toNat 1 ∧
        t.y.toNat ≤ maxCoordinate / max scale.tileSize.toNat 1) ∧
    scale.Carried t.x (scale.toPixel t).x (scale.toTile (scale.toPixel t)).x ∧
    scale.Carried t.y (scale.toPixel t).y (scale.toTile (scale.toPixel t)).y ∧
    ∀ u : Tile, (t.x ≤ u.x → (scale.toPixel t).x ≤ (scale.toPixel u).x) ∧
      (t.y ≤ u.y → (scale.toPixel t).y ≤ (scale.toPixel u).y) := by
  have hx := scale.carried t.x
  have hy := scale.carried t.y
  refine ⟨?_, hx, hy, fun u => ⟨scale.centre_mono, scale.centre_mono⟩⟩
  calc scale.toTile (scale.toPixel t) = t
      ↔ (scale.toTile (scale.toPixel t)).x = t.x ∧ (scale.toTile (scale.toPixel t)).y = t.y := by
        obtain ⟨x, y⟩ := t
        exact Iff.of_eq (Tile.mk.injEq ..)
    _ ↔ t.x.toNat ≤ scale.lastExact ∧ t.y.toNat ≤ scale.lastExact := and_congr hx.eq_iff hy.eq_iff

-- of a column whose middle is the only pixel that is cut, and of the first row that is lost
example : (⟨3⟩ : Scale).toPixel ⟨1431655765, 1431655766⟩ = ⟨4294967295, 4294967295⟩ ∧
    (⟨3⟩ : Scale).toTile ⟨4294967295, 4294967295⟩ = ⟨1431655765, 1431655765⟩ := by decide

end Scale

end TileRealm
