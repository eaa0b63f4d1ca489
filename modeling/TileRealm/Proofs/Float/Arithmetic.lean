import TileRealm.Proofs.Float.Rounding

/-!
# Rounded arithmetic

What one operation gives, compared with the exact result.

- `Float.rounds_add`, `Float.rounds_sub`, `Float.rounds_mul`, `Float.normal_sqrt`: one operation on normal numbers;
- `Float.whole_toFloat`, `Float.toFloat_le_iff`, `Float.Whole.sub`: whole numbers, their order and their differences;
- `Float.Squared.root`: the root of a sum of two squares is at least as long as both, but for the rounding.
-/

set_option autoImplicit false

namespace TileRealm

open Float.Model
open Float.Model.UnpackedFloat (Sign roundWithAccuracy decreaseExponent)

namespace Float

/-! ## Operations -/

theorem rounds_normalize {n : Int} {e : Int} (hlow : 2⁻¹ ≤ |n * (2 : ℚ) ^ e|) (hhigh : |n * (2 : ℚ) ^ e| ≤ 2 ^ 100) :
    Rounds (if n < 0 then .negative else .positive) |n * (2 : ℚ) ^ e| (.normalize .binary64 n e .positive) := by
  have habs : |n * (2 : ℚ) ^ e| = n.natAbs * 2 ^ e := by
    rw [abs_mul, abs_of_pos (by positivity : (0 : ℚ) < 2 ^ e), Nat.cast_natAbs, Int.cast_abs]
  rw [habs] at hlow hhigh ⊢
  rcases lt_trichotomy n 0 with hn | rfl | hn
  · have hcompare : compare n 0 = .lt := Int.compare_eq_lt.mpr hn
    have hnat : n.natAbs = (-n).toNat := by omega
    rw [hnat] at hlow hhigh ⊢
    simp only [UnpackedFloat.normalize, hcompare, if_pos hn]
    exact rounds_round .negative (by omega) hlow hhigh
  · norm_num at hlow
  · have hcompare : compare n 0 = .gt := Int.compare_eq_gt.mpr hn
    have hnat : n.natAbs = n.toNat := by omega
    rw [hnat] at hlow hhigh ⊢
    simp only [UnpackedFloat.normalize, hcompare, if_neg hn.not_gt]
    exact rounds_round .positive (by omega) hlow hhigh

section

variable {s t : Sign} {u v : UnpackedFloat}

theorem Normal.size_pos (hu : Normal s u) : 0 < size u := by
  obtain ⟨m, e, hm⟩ := hu
  have : (0 : ℚ) < m := by exact_mod_cast hm
  rw [size]
  positivity

theorem Normal.zero_add (hu : Normal .positive u) : UnpackedFloat.add .binary64 (.zero .positive) u = u := by
  cases hu
  rfl

theorem Normal.add_zero (hu : Normal .positive u) : UnpackedFloat.add .binary64 u (.zero .positive) = u := by
  cases hu
  rfl

theorem Normal.sub_zero (hu : Normal .positive u) : UnpackedFloat.sub .binary64 u (.zero .positive) = u := by
  cases hu
  rfl

theorem rounds_mul (hu : Normal s u) (hv : Normal t v) (hlow : 2⁻¹ ≤ size u * size v)
    (hhigh : size u * size v ≤ 2 ^ 100) : Rounds (s * t) (size u * size v) (.mul .binary64 u v) := by
  obtain ⟨m, e, hm, hlog, -, -⟩ := hu
  obtain ⟨m', e', hm', hlog', -, -⟩ := hv
  have hsize : size (.finite s m e hm) * size (.finite t m' e' hm') = ((m * m' : Nat) : ℚ) * 2 ^ (e + e') := by
    rw [size, size, zpow_add₀ (by norm_num)]
    push_cast
    ring
  rw [hsize] at hlow hhigh ⊢
  have hpos := Nat.mul_pos hm hm'
  obtain ⟨hlow', hhigh'⟩ := log2_bounds hpos hlow hhigh
  apply rounds_roundWithAccuracy _ _ _ (by omega) (by omega)
  have h1 : 2 ^ 52 ≤ m := hlog ▸ Nat.log2_self_le hm.ne'
  have h2 : 2 ^ 52 ≤ m' := hlog' ▸ Nat.log2_self_le hm'.ne'
  rw [Nat.le_log2 hpos.ne']
  calc 2 ^ 52 ≤ m * 1 := by omega
    _ ≤ m * m' := Nat.mul_le_mul_left m hm'

/-- The size of a number that is written with a smaller exponent. -/
theorem size_decrease (m : Nat) {e e' : Int} (h : e' ≤ e) :
    ((m <<< (e - e').toNat : Nat) : ℚ) * 2 ^ e' = m * 2 ^ e := by
  rw [← size_shiftLeft m e (e - e').toNat]
  congr 2
  omega

theorem rounds_add (hu : Normal .positive u) (hv : Normal .positive v) (hlow : 2⁻¹ ≤ size u + size v)
    (hhigh : size u + size v ≤ 2 ^ 100) : Rounds .positive (size u + size v) (.add .binary64 u v) := by
  have hpos : 0 < size u + size v := add_pos hu.size_pos hv.size_pos
  obtain ⟨m, e, hm⟩ := hu
  obtain ⟨m', e', hm'⟩ := hv
  generalize hn : ((m <<< (e - min e e').toNat : Nat) : Int) + (m' <<< (e' - min e e').toNat : Nat) = n
  have hsum : size (.finite .positive m e hm) + size (.finite .positive m' e' hm') = n * 2 ^ min e e' := by
    rw [size, size, ← size_decrease m (min_le_left e e'), ← size_decrease m' (min_le_right e e'), ← add_mul, ← hn]
    push_cast
    rfl
  have hsize : size (.finite .positive m e hm) + size (.finite .positive m' e' hm') = |n * (2 : ℚ) ^ min e e'| := by
    rw [← hsum, abs_of_pos hpos]
  have hadd : UnpackedFloat.add .binary64 (.finite .positive m e hm) (.finite .positive m' e' hm') =
      .normalize .binary64 n (min e e') .positive := by
    simp only [UnpackedFloat.add, decreaseExponent, Sign.apply, ← hn]
  rw [hsize] at hlow hhigh ⊢
  rw [hadd]
  have hnonneg : 0 ≤ n := hn ▸ Int.add_nonneg (Int.natCast_nonneg _) (Int.natCast_nonneg _)
  have hround := rounds_normalize hlow hhigh
  rwa [if_neg hnonneg.not_gt] at hround

theorem rounds_sub (hu : Normal .positive u) (hv : Normal .positive v) (hlow : 2⁻¹ ≤ |size u - size v|)
    (hhigh : |size u - size v| ≤ 2 ^ 100) : ∃ s, Rounds s |size u - size v| (.sub .binary64 u v) := by
  obtain ⟨m, e, hm⟩ := hu
  obtain ⟨m', e', hm'⟩ := hv
  generalize hn : ((m <<< (e - min e e').toNat : Nat) : Int) - (m' <<< (e' - min e e').toNat : Nat) = n
  have hsize : size (.finite .positive m e hm) - size (.finite .positive m' e' hm') = n * 2 ^ min e e' := by
    rw [size, size, ← size_decrease m (min_le_left e e'), ← size_decrease m' (min_le_right e e'), ← sub_mul, ← hn]
    push_cast
    rfl
  have hsub : UnpackedFloat.sub .binary64 (.finite .positive m e hm) (.finite .positive m' e' hm') =
      .normalize .binary64 n (min e e') .positive := by
    simp only [UnpackedFloat.sub, decreaseExponent, Sign.apply, ← hn]
  rw [hsize] at hlow hhigh ⊢
  rw [hsub]
  exact ⟨_, rounds_normalize hlow hhigh⟩

/-- The root of a number of 105 or 106 bits has 53 bits. -/
theorem sqrt_shiftLeft_bounds {m k : Nat} (hm : 0 < m) (hlog : m.log2 = 52) (hlow : 52 ≤ k) (hhigh : k ≤ 53) :
    2 ^ 52 ≤ (m <<< k).sqrt ∧ (m <<< k).sqrt < 2 ^ 53 := by
  have hlogk : (m <<< k).log2 = 52 + k := by rw [log2_shiftLeft hm.ne', hlog]
  have hpos : m <<< k ≠ 0 := by
    rw [Nat.shiftLeft_eq]
    exact (Nat.mul_pos hm (Nat.two_pow_pos k)).ne'
  constructor
  · rw [Nat.le_sqrt, ← Nat.pow_add]
    calc 2 ^ (52 + 52) ≤ 2 ^ (52 + k) := Nat.pow_le_pow_right (by norm_num) (by omega)
      _ ≤ m <<< k := hlogk ▸ Nat.log2_self_le hpos
  · rw [Nat.sqrt_lt', ← Nat.pow_mul]
    calc m <<< k < 2 ^ ((m <<< k).log2 + 1) := Nat.lt_log2_self
      _ ≤ 2 ^ (53 * 2) := Nat.pow_le_pow_right (by norm_num) (by omega)

/-- The square root is at most the size of its rounding, up to two roundings. -/
theorem normal_sqrt (hu : Normal .positive u) (hlow : 2⁻¹ ≤ size u) (hhigh : size u ≤ 2 ^ 100) :
    Normal .positive (.sqrt .binary64 u) ∧ size u ≤ (size (.sqrt .binary64 u) * slack ^ 2) ^ 2 := by
  obtain ⟨m, e, hm, hlog, -, -⟩ := hu
  obtain ⟨hlow', hhigh'⟩ := log2_bounds hm hlow hhigh
  -- the root is taken of a number of 105 or 106 bits
  have htarget : min (e.ediv 2) (Format.binary64.targetExponent ((totalExponent m e + 1).ediv 2)) = e / 2 - 26 := by
    show min (e / 2) (max (((m.log2 : Int) + 1 + e + 1) / 2 - 53) (-1074)) = _
    omega
  generalize hk : (e - 2 * (e / 2 - 26)).toNat = k
  generalize hr : (m <<< k).sqrt = r
  obtain ⟨hroot, hroot'⟩ := hr ▸ sqrt_shiftLeft_bounds hm hlog (k := k) (by omega) (by omega)
  have hrlog : r.log2 = 52 := (Nat.log2_eq_iff (by omega)).mpr ⟨hroot, hroot'⟩
  obtain ⟨acc, hsqrt⟩ : ∃ acc, UnpackedFloat.sqrt .binary64 (.finite .positive m e hm) =
      roundWithAccuracy .binary64 .positive r (e / 2 - 26) acc := by
    simp only [UnpackedFloat.sqrt, UnpackedFloat.sqrtCore, htarget, hk, hr]
    exact ⟨_, rfl⟩
  have hround := rounds_roundWithAccuracy .positive acc (m := r) (e := e / 2 - 26) (by omega) (by omega) (by omega)
  rw [hsqrt]
  refine ⟨hround.normal, ?_⟩
  have hslack := slack_pos
  have hsquare : (2 : ℚ) ^ (2 * (e / 2 - 26)) = (2 ^ (e / 2 - 26)) ^ 2 := by rw [mul_comm, zpow_mul, zpow_ofNat]
  have hlt : ((m <<< k : Nat) : ℚ) ≤ ((r : ℚ) + 1) ^ 2 := by
    have := (Nat.lt_succ_sqrt (m <<< k)).le
    rw [hr] at this
    rw [pow_two]
    exact_mod_cast this
  have hstep : ((r : ℚ) + 1) * 2 ^ (e / 2 - 26) ≤
      size (roundWithAccuracy .binary64 .positive r (e / 2 - 26) acc) * slack ^ 2 := by
    calc ((r : ℚ) + 1) * 2 ^ (e / 2 - 26) ≤ r * slack * 2 ^ (e / 2 - 26) := by
          gcongr
          exact succ_le_mul_slack hroot
      _ = r * 2 ^ (e / 2 - 26) * slack := by ring
      _ ≤ size (roundWithAccuracy .binary64 .positive r (e / 2 - 26) acc) * slack * slack :=
          mul_le_mul_of_nonneg_right hround.le hslack.le
      _ = _ := by ring
  rw [size, ← size_decrease m (show 2 * (e / 2 - 26) ≤ e by omega), hk, hsquare]
  calc ((m <<< k : Nat) : ℚ) * (2 ^ (e / 2 - 26)) ^ 2 ≤ ((r : ℚ) + 1) ^ 2 * (2 ^ (e / 2 - 26)) ^ 2 := by gcongr
    _ = (((r : ℚ) + 1) * 2 ^ (e / 2 - 26)) ^ 2 := by ring
    _ ≤ _ := by gcongr

end

/-! ## Whole numbers -/

/-- A whole number that is not rounded. -/
inductive Whole : Nat → UnpackedFloat → Prop
  | zero : Whole 0 (.zero .positive)
  | normal {n : Nat} {u : UnpackedFloat} : Normal .positive u → size u = n → Whole n u

theorem whole_toFloat (n : UInt32) : Whole n.toNat n.toFloat.toModel.unpack := by
  by_cases hn : n = 0
  · subst hn
    exact .zero
  have hpos : 0 < n.toNat := Nat.pos_of_ne_zero fun h => hn (UInt32.toNat_inj.mp h)
  have hlt : n.toNat < 2 ^ 32 := n.toNat_lt
  have hcast : (n.toNat : ℚ) < 2 ^ 32 := by exact_mod_cast hlt
  have hone : (1 : ℚ) ≤ n.toNat := by exact_mod_cast hpos
  obtain ⟨k, hm, hk⟩ := ofNat_eq hpos (hlt.trans (by norm_num))
  have habs : |((n.toNat : Int) : ℚ) * 2 ^ (0 : Int)| = n.toNat := by
    rw [zpow_zero, mul_one, Int.cast_natCast, Nat.abs_cast]
  have hround := @rounds_normalize n.toNat 0 (by rw [habs]; linarith) (by rw [habs]; linarith)
  rw [if_neg (by omega)] at hround
  have hnormal : Normal .positive (.ofNat .binary64 n.toNat) := hround.normal
  have hunpack : n.toFloat.toModel.unpack = .ofNat .binary64 n.toNat := hnormal.unpack_pack
  rw [hunpack]
  refine .normal hnormal ?_
  rw [hk, size]
  have := size_shiftLeft n.toNat 0 k
  rwa [zpow_zero, mul_one, Int.zero_sub] at this

/-- Whole numbers are compared as they are. -/
theorem toFloat_le_iff {m n : UInt32} : m.toFloat ≤ n.toFloat ↔ m.toNat ≤ n.toNat := by
  have hle : ∀ {m n : UInt32}, place m.toFloat.toModel.unpack ≤ place n.toFloat.toModel.unpack →
      m.toNat ≤ n.toNat := by
    intro m n hplace
    have hm := whole_toFloat m
    have hn := whole_toFloat n
    generalize m.toNat = k, m.toFloat.toModel.unpack = u at hm hplace ⊢
    generalize n.toNat = l, n.toFloat.toModel.unpack = v at hn hplace ⊢
    cases hm with
    | zero => exact Nat.zero_le l
    | normal hu hsize =>
      cases hn with
      | zero =>
        obtain ⟨m, e, hm, -⟩ := hu
        simp [place, Prod.Lex.toLex_le_toLex] at hplace
      | normal hv hsize' =>
        have hsizes := size_le_of_place_le hu hv hplace
        rw [hsize, hsize'] at hsizes
        exact_mod_cast hsizes
  rw [le_iff]
  refine ⟨fun h => hle h.2.2, fun h => ⟨isNaN_toFloat m, isNaN_toFloat n, ?_⟩⟩
  -- if it were the other way round, the numbers would be the same
  rcases le_total (place m.toFloat.toModel.unpack) (place n.toFloat.toModel.unpack) with hplace | hplace
  · exact hplace
  · rw [UInt32.toNat_inj.mp (Nat.le_antisymm h (hle hplace))]

theorem rounds_of_size {s : Sign} {u : UnpackedFloat} (hu : Normal s u) : Rounds s (size u) u :=
  ⟨hu, le_mul_of_one_le_right hu.size_pos.le slack_bounds.1, le_mul_of_one_le_right hu.size_pos.le slack_bounds.1⟩

/-- The difference of two whole numbers. -/
theorem Whole.sub {m n : Nat} {u v : UnpackedFloat} (hu : Whole m u) (hv : Whole n v) (hne : m ≠ n) (hm : m < 2 ^ 32)
    (hn : n < 2 ^ 32) : ∃ s, Rounds s ((m : Int) - n).natAbs (.sub .binary64 u v) := by
  cases hu with
  | zero =>
    cases hv with
    | zero => exact absurd rfl hne
    | normal hv hsize =>
      have hgap : (((0 : Nat) : Int) - n).natAbs = n := by omega
      rw [hgap, ← hsize]
      obtain ⟨m, e, hm, hlog, hlow, hhigh⟩ := hv
      exact ⟨.negative, rounds_of_size (.mk m e hm hlog hlow hhigh)⟩
  | normal hu hsize =>
    cases hv with
    | zero =>
      have hgap : ((m : Int) - (0 : Nat)).natAbs = m := by omega
      rw [hgap, ← hsize, hu.sub_zero]
      exact ⟨.positive, rounds_of_size hu⟩
    | normal hv hsize' =>
      have hgap : |size u - size v| = (((m : Int) - n).natAbs : ℚ) := by
        rw [hsize, hsize', Nat.cast_natAbs]
        push_cast
        rfl
      have hone : 1 ≤ ((m : Int) - n).natAbs := by omega
      have hlt : ((m : Int) - n).natAbs < 2 ^ 32 := by omega
      have hone' : (1 : ℚ) ≤ (((m : Int) - n).natAbs : ℚ) := by exact_mod_cast hone
      have hlt' : (((m : Int) - n).natAbs : ℚ) < 2 ^ 32 := by exact_mod_cast hlt
      rw [← hgap]
      rw [← hgap] at hone' hlt'
      exact rounds_sub hu hv (by linarith) (by linarith)

/-! ## Squares and their roots -/

/-- The square of a whole number, up to three roundings. -/
inductive Squared : Nat → UnpackedFloat → Prop
  | zero : Squared 0 (.zero .positive)
  | normal {n : Nat} {u : UnpackedFloat} : Normal .positive u → (n : ℚ) ^ 2 ≤ size u * slack ^ 3 →
      size u ≤ n ^ 2 * slack ^ 3 → Squared n u

theorem Rounds.square {s : Sign} {n : Nat} {u : UnpackedFloat} (hu : Rounds s n u) (hn : 0 < n) (hlt : n < 2 ^ 32) :
    Squared n (.mul .binary64 u u) := by
  obtain ⟨hnormal, hle, hge⟩ := hu
  have hone : (1 : ℚ) ≤ n := by exact_mod_cast hn
  have hlt' : (n : ℚ) < 2 ^ 32 := by exact_mod_cast hlt
  have hpos := hnormal.size_pos
  have hslack := slack_pos
  have hle' : (n : ℚ) ^ 2 ≤ size u * size u * slack ^ 2 := by
    calc (n : ℚ) ^ 2 ≤ (size u * slack) ^ 2 := by gcongr
      _ = _ := by ring
  have hge' : size u * size u ≤ n ^ 2 * slack ^ 2 := by
    calc size u * size u = size u ^ 2 := by ring
      _ ≤ (n * slack) ^ 2 := by gcongr
      _ = _ := by ring
  have hlow : 2⁻¹ ≤ size u * size u := by
    have hsq : 1 ≤ size u * size u * slack ^ 2 := (one_le_pow₀ hone).trans hle'
    have htwo : slack ^ 2 ≤ 2 := by norm_num [slack]
    nlinarith
  have hhigh : size u * size u ≤ 2 ^ 100 := by
    calc size u * size u ≤ n ^ 2 * slack ^ 2 := hge'
      _ ≤ (2 ^ 32) ^ 2 * slack ^ 2 := by gcongr
      _ ≤ 2 ^ 100 := by norm_num [slack]
  have hround := rounds_mul hnormal hnormal hlow hhigh
  have hsign : s * s = .positive := by cases s <;> rfl
  rw [hsign] at hround
  refine .normal hround.normal ?_ ?_
  · calc (n : ℚ) ^ 2 ≤ size u * size u * slack ^ 2 := hle'
      _ ≤ size (.mul .binary64 u u) * slack * slack ^ 2 := mul_le_mul_of_nonneg_right hround.le (by positivity)
      _ = _ := by ring
  · calc size (.mul .binary64 u u) ≤ size u * size u * slack := hround.ge
      _ ≤ n ^ 2 * slack ^ 2 * slack := by gcongr
      _ = _ := by ring

theorem Squared.size_bounds {n : Nat} {u : UnpackedFloat} (hu : Squared n u) :
    (n : ℚ) ^ 2 ≤ size u * slack ^ 3 ∧ size u ≤ n ^ 2 * slack ^ 3 ∧ 0 ≤ size u := by
  cases hu with
  | zero => norm_num [size]
  | normal hu hle hge => exact ⟨hle, hge, hu.size_pos.le⟩

section

variable {m n : Nat} {u v : UnpackedFloat}

/-- How large the sum of two squares is. -/
theorem Squared.sum_bounds (hu : Squared m u) (hv : Squared n v) (hm : m < 2 ^ 32) (hn : n < 2 ^ 32) :
    ((max m n : Nat) : ℚ) ^ 2 ≤ (size u + size v) * slack ^ 3 ∧ size u + size v ≤ 2 ^ 66 := by
  obtain ⟨hle, hge, hnonneg⟩ := hu.size_bounds
  obtain ⟨hle', hge', hnonneg'⟩ := hv.size_bounds
  have hslack := slack_pos
  constructor
  · rcases max_cases m n with ⟨h, -⟩ | ⟨h, -⟩ <;> rw [h, add_mul]
    · exact hle.trans (le_add_of_nonneg_right (by positivity))
    · exact hle'.trans (le_add_of_nonneg_left (by positivity))
  · have hm' : (m : ℚ) < 2 ^ 32 := by exact_mod_cast hm
    have hn' : (n : ℚ) < 2 ^ 32 := by exact_mod_cast hn
    calc size u + size v ≤ m ^ 2 * slack ^ 3 + n ^ 2 * slack ^ 3 := add_le_add hge hge'
      _ ≤ (2 ^ 32) ^ 2 * slack ^ 3 + (2 ^ 32) ^ 2 * slack ^ 3 := by gcongr
      _ ≤ 2 ^ 66 := by norm_num [slack]

/-- The sum of two squares. -/
theorem Squared.add (hu : Squared m u) (hv : Squared n v) (hpos : 0 < max m n) (hm : m < 2 ^ 32) (hn : n < 2 ^ 32) :
    Rounds .positive (size u + size v) (.add .binary64 u v) := by
  obtain ⟨hlong, hbelow⟩ := hu.sum_bounds hv hm hn
  have hlow : 2⁻¹ ≤ size u + size v := by
    have hone : (1 : ℚ) ≤ (max m n : Nat) := by exact_mod_cast hpos
    have htwo : slack ^ 3 ≤ 2 := by norm_num [slack]
    nlinarith [one_le_pow₀ (n := 2) hone, hu.size_bounds.2.2, hv.size_bounds.2.2]
  have hhigh : size u + size v ≤ 2 ^ 100 := hbelow.trans (by norm_num)
  cases hu with
  | zero =>
    cases hv with
    | zero => exact absurd hpos (by decide)
    | normal hv _ _ =>
      have hsize : size (.zero .positive) + size v = size v := zero_add (size v)
      rw [hsize, hv.zero_add]
      exact rounds_of_size hv
  | normal hu _ _ =>
    cases hv with
    | zero =>
      have hsize : size u + size (.zero .positive) = size u := add_zero (size u)
      rw [hsize, hu.add_zero]
      exact rounds_of_size hu
    | normal hv _ _ => exact rounds_add hu hv hlow hhigh

/-- **Length.** The root of the sum of two squares is at least as long as both, up to four roundings. -/
theorem Squared.root (hu : Squared m u) (hv : Squared n v) (hpos : 0 < max m n) (hm : m < 2 ^ 32) (hn : n < 2 ^ 32) :
    Normal .positive (.sqrt .binary64 (.add .binary64 u v)) ∧
      ((max m n : Nat) : ℚ) ≤ size (.sqrt .binary64 (.add .binary64 u v)) * slack ^ 4 := by
  obtain ⟨hnormal, hle, hge⟩ := hu.add hv hpos hm hn
  obtain ⟨hlong, hbelow⟩ := hu.sum_bounds hv hm hn
  generalize UnpackedFloat.add .binary64 u v = w at hnormal hle hge ⊢
  have hslack := slack_pos
  have hlong' : ((max m n : Nat) : ℚ) ^ 2 ≤ size w * slack ^ 4 := by
    calc ((max m n : Nat) : ℚ) ^ 2 ≤ (size u + size v) * slack ^ 3 := hlong
      _ ≤ size w * slack * slack ^ 3 := by gcongr
      _ = size w * slack ^ 4 := by ring
  have hlow : 2⁻¹ ≤ size w := by
    have hone : (1 : ℚ) ≤ (max m n : Nat) := by exact_mod_cast hpos
    have htwo : slack ^ 4 ≤ 2 := by norm_num [slack]
    nlinarith [one_le_pow₀ (n := 2) hone, hnormal.size_pos]
  have hhigh : size w ≤ 2 ^ 100 := by
    calc size w ≤ (size u + size v) * slack := hge
      _ ≤ 2 ^ 66 * slack := by gcongr
      _ ≤ 2 ^ 100 := by norm_num [slack]
  obtain ⟨hroot, hsquare⟩ := normal_sqrt hnormal hlow hhigh
  refine ⟨hroot, ?_⟩
  have hroot' := hroot.size_pos
  have hsquares : ((max m n : Nat) : ℚ) ^ 2 ≤ (size (.sqrt .binary64 w) * slack ^ 4) ^ 2 := by
    calc ((max m n : Nat) : ℚ) ^ 2 ≤ size w * slack ^ 4 := hlong'
      _ ≤ (size (.sqrt .binary64 w) * slack ^ 2) ^ 2 * slack ^ 4 := by gcongr
      _ = _ := by ring
  exact (pow_le_pow_iff_left₀ (by positivity) (by positivity) two_ne_zero).mp hsquares

end

end Float

end TileRealm
