import TileRealm.Proofs.Float.Arithmetic
import TileRealm.Proofs.Route.Neighbours

/-!
# Distances and steps

The distance of two tiles is a rounded root, and still it never falls short of the number of steps.  Whoever looks for
others within a range needs no more of a distance than that.

- `Float.squared_gap`: the square of a difference of coordinates;
- `Tile.toFloat_steps_le`: what is not smaller than either difference is not smaller than the steps;
- `Tile.Measures`: a distance within which all tiles are as few steps away;
- `Tile.measures_distance`, `Tile.measures_of_le`: the rounded root is one, and so is any distance that is not smaller
  than either difference.
-/

set_option autoImplicit false

namespace TileRealm

open Float.Model

namespace Float

theorem Squared.unpack_pack {n : Nat} {u : UnpackedFloat} (hu : Squared n u) :
    (Float.Model.pack u).unpack = u := by
  cases hu with
  | zero => rfl
  | normal hu _ _ => exact hu.unpack_pack

/-- The square of a difference of coordinates is right but for the rounding. -/
theorem squared_gap (a b : UInt32) :
    Squared ((a.toNat : Int) - b.toNat).natAbs ((a.toFloat - b.toFloat) * (a.toFloat - b.toFloat)).toModel.unpack := by
  by_cases hne : a = b
  · subst hne
    rw [sub_self (isFinite_toFloat a), Int.sub_self]
    exact .zero
  have hne' : a.toNat ≠ b.toNat := fun h => hne (UInt32.toNat_inj.mp h)
  have ha : a.toNat < 2 ^ 32 := a.toNat_lt
  have hb : b.toNat < 2 ^ 32 := b.toNat_lt
  obtain ⟨s, hgap⟩ := (whole_toFloat a).sub (whole_toFloat b) hne' ha hb
  have hmemory : (a.toFloat - b.toFloat).toModel.unpack =
      .sub .binary64 a.toFloat.toModel.unpack b.toFloat.toModel.unpack := hgap.normal.unpack_pack
  have hsquare := hgap.square (by omega) (by omega)
  rw [← hmemory] at hsquare
  have hmemory' : ((a.toFloat - b.toFloat) * (a.toFloat - b.toFloat)).toModel.unpack = _ := hsquare.unpack_pack
  rwa [hmemory']

end Float

namespace Tile

open TileRealm.Float

theorem steps_lt (a b : Tile) : a.steps b < 2 ^ 32 := by
  have := a.x.toNat_lt
  have := a.y.toNat_lt
  have := b.x.toNat_lt
  have := b.y.toNat_lt
  simp only [steps, dx, dy]
  omega

/-- What is not smaller than either difference is not smaller than the number of steps. -/
theorem toFloat_steps_le {a b : Tile} {d : Float} (hx : (UInt32.ofNat (a.dx b).natAbs).toFloat ≤ d)
    (hy : (UInt32.ofNat (a.dy b).natAbs).toFloat ≤ d) : (UInt32.ofNat (a.steps b)).toFloat ≤ d := by
  rcases Nat.le_total (a.dx b).natAbs (a.dy b).natAbs with h | h
  · rwa [steps, Nat.max_eq_right h]
  · rwa [steps, Nat.max_eq_left h]

/-! ## The rounded root -/

/-- The distance of two tiles is at least as long as their steps, up to four roundings. -/
theorem distance_bounds {a b : Tile} (h : 0 < a.steps b) :
    Normal .positive (a.distance b).toModel.unpack ∧
      (a.steps b : ℚ) ≤ size (a.distance b).toModel.unpack * slack ^ 4 := by
  have hx := squared_gap b.x a.x
  have hy := squared_gap b.y a.y
  have hxlt := a.x.toNat_lt
  have hylt := a.y.toNat_lt
  have hxlt' := b.x.toNat_lt
  have hylt' := b.y.toNat_lt
  obtain ⟨hroot, hlong⟩ := hx.root hy h (by omega) (by omega)
  have hsum := (hx.add hy h (by omega) (by omega)).normal.unpack_pack
  have hmemory : (a.distance b).toModel.unpack = _ := (congrArg (fun u =>
    (Float.Model.pack (.sqrt .binary64 u)).unpack) hsum).trans hroot.unpack_pack
  rw [hmemory]
  exact ⟨hroot, hlong⟩

theorem isNaN_distance (a b : Tile) : (a.distance b).isNaN = false := by
  rcases Nat.eq_zero_or_pos (a.steps b) with h | h
  · rw [steps_eq_zero_iff.mp h, distance_self]
    rfl
  · have hnormal := (distance_bounds h).1
    show (a.distance b).toModel.unpack.isNaN = false
    generalize (a.distance b).toModel.unpack = u at hnormal
    cases hnormal
    rfl

/-- A tile within a distance is as few steps away. -/
theorem steps_le_of_distance_le {a b : Tile} {r : UInt32} (h : a.distance b ≤ r.toFloat) : a.steps b ≤ r.toNat := by
  rcases Nat.eq_zero_or_pos (a.steps b) with hzero | hpos
  · omega
  obtain ⟨hnormal, hlong⟩ := distance_bounds hpos
  have hplace := (Float.le_iff.mp h).2.2
  have hwhole := whole_toFloat r
  generalize hr : r.toNat = n at hwhole ⊢
  have hn : n < 2 ^ 32 := hr ▸ r.toNat_lt
  generalize (a.distance b).toModel.unpack = u at hnormal hlong hplace
  generalize r.toFloat.toModel.unpack = v at hwhole hplace
  cases hwhole with
  | zero =>
    obtain ⟨m, e, hm, -⟩ := hnormal
    simp [place, Prod.Lex.toLex_le_toLex] at hplace
  | normal hv hsize =>
    have hle : size u ≤ n := hsize ▸ size_le_of_place_le hnormal hv hplace
    have hn' : (n : ℚ) < 2 ^ 32 := by exact_mod_cast hn
    have hlt : (a.steps b : ℚ) < n + 1 := by
      calc (a.steps b : ℚ) ≤ size u * slack ^ 4 := hlong
        _ ≤ n * (1 + 2⁻¹ ^ 40) := mul_le_mul hle slack_bounds.2 (pow_nonneg slack_pos.le 4) (Nat.cast_nonneg n)
        _ < n + 1 := by linarith
    have hlt' : a.steps b < n + 1 := by exact_mod_cast hlt
    omega

/-! ## Distances to look within -/

/-- A distance for looking around: it is a number, and tiles within it are as few steps away. -/
structure Measures (distance : Tile → Tile → Float) : Prop where
  isNaN : ∀ a b, (distance a b).isNaN = false
  steps_le : ∀ {a b : Tile} {r : UInt32}, distance a b ≤ r.toFloat → a.steps b ≤ r.toNat

theorem measures_distance : Measures distance :=
  ⟨isNaN_distance, steps_le_of_distance_le⟩

/-- **Distances and steps.** A distance that is not smaller than either difference is good for looking around. -/
theorem measures_of_le {distance : Tile → Tile → Float}
    (hx : ∀ a b : Tile, (UInt32.ofNat (a.dx b).natAbs).toFloat ≤ distance a b)
    (hy : ∀ a b : Tile, (UInt32.ofNat (a.dy b).natAbs).toFloat ≤ distance a b) : Measures distance where
  isNaN a b := (Float.le_iff.mp (hx a b)).2.1
  steps_le {a b r} h := by
    have hle := Float.toFloat_le_iff.mp (Float.le_trans (toFloat_steps_le (hx a b) (hy a b)) h)
    rwa [UInt32.toNat_ofNat_of_lt' (steps_lt a b)] at hle

/-- The number of steps as a distance. -/
def stepDistance (a b : Tile) : Float :=
  (UInt32.ofNat (a.steps b)).toFloat

theorem le_stepDistance {a b : Tile} {n : Nat} (h : n ≤ a.steps b) :
    (UInt32.ofNat n).toFloat ≤ a.stepDistance b := by
  have hlt := steps_lt a b
  rw [stepDistance, Float.toFloat_le_iff, UInt32.toNat_ofNat_of_lt' (h.trans_lt hlt), UInt32.toNat_ofNat_of_lt' hlt]
  exact h

end Tile

end TileRealm
