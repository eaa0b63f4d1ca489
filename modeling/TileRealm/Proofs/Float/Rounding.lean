import TileRealm.Proofs.Float

/-!
# Rounding

How far a number is off when it is cut to the 53 bits of a mantissa.

- `Float.Normal`: the numbers that have all their bits;
- `Float.rounds_roundWithAccuracy`, `Float.rounds_round`: a rounded number is normal, and as large as the exact one up
  to a factor;
- `Float.Normal.unpack_pack`: a normal number is the same in memory.
-/

set_option autoImplicit false

namespace TileRealm

open Float.Model
open Float.Model.UnpackedFloat (Sign Accuracy ExtendedMantissa packComponents unpackExponent_packComponents
  unpackMantissa_packComponents roundWithAccuracy shiftToTargetExponent decreaseExponent)

namespace Float

/-! ## Sizes -/

/-- How large a finite number is, whatever its sign. -/
def size : UnpackedFloat → ℚ
  | .finite _ m e _ => m * 2 ^ e
  | _ => 0

/-- A finite number whose mantissa has all its bits and whose exponent fits into memory. -/
inductive Normal (s : Sign) : UnpackedFloat → Prop
  | mk (m : Nat) (e : Int) (hm : 0 < m) : m.log2 = 52 → -1074 ≤ e → e ≤ 971 → Normal s (.finite s m e hm)

/-- The relative error of one rounding. -/
def slack : ℚ := 1 + 2⁻¹ ^ 52

theorem slack_bounds : 1 ≤ slack ∧ slack ^ 4 ≤ 1 + 2⁻¹ ^ 40 := by
  norm_num [slack]

theorem slack_pos : 0 < slack :=
  zero_lt_one.trans_le slack_bounds.1

theorem pow_log2_le {m : Nat} (hm : 0 < m) (e : Int) : (2 : ℚ) ^ (m.log2 + e) ≤ m * 2 ^ e := by
  have h : (2 : ℚ) ^ m.log2 ≤ m := by exact_mod_cast Nat.log2_self_le hm.ne'
  rw [zpow_add₀ (by norm_num), zpow_natCast]
  gcongr

theorem lt_pow_log2 (m : Nat) (e : Int) : m * (2 : ℚ) ^ e < 2 ^ (m.log2 + 1 + e) := by
  have h : (m : ℚ) < 2 ^ (m.log2 + 1) := by exact_mod_cast Nat.lt_log2_self
  rw [zpow_add₀ (by norm_num : (2 : ℚ) ≠ 0), ← Nat.cast_succ, zpow_natCast]
  gcongr

/-- Of two numbers in full, the lower one is smaller. -/
theorem size_le_of_place_le {u v : UnpackedFloat} (hu : Normal .positive u) (hv : Normal .positive v)
    (h : place u ≤ place v) : size u ≤ size v := by
  obtain ⟨m, e, hm, hlog, -, -⟩ := hu
  obtain ⟨m', e', hm', hlog', -, -⟩ := hv
  simp only [place, Prod.Lex.toLex_le_toLex, lt_self_iff_false, false_or, true_and] at h
  rcases h with hlt | ⟨rfl, hle⟩
  · calc size (.finite .positive m e hm) ≤ 2 ^ (m.log2 + 1 + e) := (lt_pow_log2 m e).le
      _ ≤ 2 ^ (m'.log2 + e') := zpow_le_zpow_right₀ (by norm_num) (by omega)
      _ ≤ size (.finite .positive m' e' hm') := pow_log2_le hm' e'
  · rw [size, size]
    have : (m : ℚ) ≤ m' := by exact_mod_cast hle
    gcongr

/-! ## Rounding -/

theorem mantissa_shiftRight (x : ExtendedMantissa) (k : Nat) : (x >>> k).mantissa = x.mantissa / 2 ^ k := by
  induction k with
  | zero => exact (Nat.div_one _).symm
  | succ k ih =>
    show (x >>> k).mantissa / 2 = _
    rw [ih, Nat.div_div_eq_div_mul, Nat.pow_succ]

theorem roundedMantissa_bounds (x : ExtendedMantissa) :
    x.mantissa ≤ x.roundedMantissa ∧ x.roundedMantissa ≤ x.mantissa + 1 := by
  obtain ⟨m, r, s⟩ := x
  cases r <;> cases s <;> simp only [ExtendedMantissa.roundedMantissa, ExtendedMantissa.accuracy,
    Accuracy.roundToNearestEven] <;> omega

theorem mantissa_ofMantissaAndAccuracy (m : Nat) (a : Accuracy) :
    (ExtendedMantissa.ofMantissaAndAccuracy m a).mantissa = m := by
  rcases a with _ | (_ | _ | _) <;> rfl

theorem targetExponent_eq {m : Nat} {e : Int} (h : -1022 ≤ m.log2 + e) :
    Format.binary64.targetExponent (totalExponent m e) = m.log2 + e - 52 := by
  show max ((m.log2 : Int) + 1 + e - 53) (-1074) = _
  omega

/-- A rounded mantissa has all its bits, or it has become one bit longer and loses its last one, which is 0. -/
theorem exists_shift_rounded {r : Nat} {t : Int} (hlow : 2 ^ 52 ≤ r) (hhigh : r ≤ 2 ^ 53) (ht : -1074 ≤ t) :
    ∃ (m : Nat) (e : Int), shiftToTargetExponent .binary64 r t .exact = (⟨m, false, false⟩, e) ∧ m.log2 = 52 ∧
      t ≤ e ∧ e ≤ t + 1 ∧ (m : ℚ) * 2 ^ e = r * 2 ^ t := by
  rcases Nat.lt_or_ge r (2 ^ 53) with hlt | hge
  · have hlog : r.log2 = 52 := (Nat.log2_eq_iff (by omega)).mpr ⟨hlow, hlt⟩
    have hshift : (Format.binary64.targetExponent (totalExponent r t) - t).toNat = 0 := by
      rw [targetExponent_eq (by omega)]
      omega
    refine ⟨r, t, ?_, hlog, Int.le_refl t, by omega, rfl⟩
    simp only [shiftToTargetExponent, UnpackedFloat.shiftToExponent, hshift, Int.natCast_zero, Int.add_zero]
    rfl
  · obtain rfl : r = 2 ^ 53 := by omega
    have hshift : (Format.binary64.targetExponent (totalExponent (2 ^ 53) t) - t).toNat = 1 := by
      rw [targetExponent_eq (by rw [Nat.log2_two_pow]; omega), Nat.log2_two_pow]
      omega
    refine ⟨2 ^ 52, t + 1, ?_, Nat.log2_two_pow, by omega, Int.le_refl _, ?_⟩
    · simp only [shiftToTargetExponent, UnpackedFloat.shiftToExponent, hshift, Int.natCast_one]
      rfl
    · rw [zpow_add_one₀ (by norm_num)]
      push_cast
      ring

/-- The bits behind the first 53 are cut off. -/
theorem cut_bounds {m k : Nat} (hk : m.log2 = 52 + k) : 2 ^ 52 ≤ m / 2 ^ k ∧ m / 2 ^ k < 2 ^ 53 := by
  have hpos : m ≠ 0 := by
    rintro rfl
    rw [Nat.log2_zero] at hk
    omega
  constructor
  · rw [Nat.le_div_iff_mul_le (Nat.two_pow_pos k), ← Nat.pow_add, ← hk]
    exact Nat.log2_self_le hpos
  · rw [Nat.div_lt_iff_lt_mul (Nat.two_pow_pos k), ← Nat.pow_add, show 53 + k = m.log2 + 1 by omega]
    exact Nat.lt_log2_self

theorem succ_le_mul_slack {n : Nat} (hn : 2 ^ 52 ≤ n) : (n : ℚ) + 1 ≤ n * slack := by
  have : (2 : ℚ) ^ 52 ≤ n := by exact_mod_cast hn
  rw [slack]
  linarith

/-- A number of a sign that is as large as `v` up to one rounding. -/
structure Rounds (s : Sign) (v : ℚ) (u : UnpackedFloat) : Prop where
  normal : Normal s u
  le : v ≤ size u * slack
  ge : size u ≤ v * slack

/-- **Rounding.** A mantissa of at least 53 bits is cut to 53; the relative error is at most that of the last bit. -/
theorem rounds_roundWithAccuracy (s : Sign) {m : Nat} {e : Int} (a : Accuracy) (hm : 52 ≤ m.log2)
    (hlow : -1022 ≤ m.log2 + e) (hhigh : m.log2 + e ≤ 1022) :
    Rounds s (m * 2 ^ e) (roundWithAccuracy .binary64 s m e a) := by
  obtain ⟨k, hk⟩ := Nat.exists_eq_add_of_le hm
  obtain ⟨hq, hq'⟩ := cut_bounds hk
  have hfirst : shiftToTargetExponent .binary64 m e a = (ExtendedMantissa.ofMantissaAndAccuracy m a >>> k, e + k) := by
    have hshift : (Format.binary64.targetExponent (totalExponent m e) - e).toNat = k := by
      rw [targetExponent_eq hlow]
      omega
    simp only [shiftToTargetExponent, UnpackedFloat.shiftToExponent, hshift]
  have hr := roundedMantissa_bounds (ExtendedMantissa.ofMantissaAndAccuracy m a >>> k)
  rw [mantissa_shiftRight, mantissa_ofMantissaAndAccuracy] at hr
  obtain ⟨m', e', hsecond, hlog, hle, hle', hsize⟩ := exists_shift_rounded (t := e + k) (hq.trans hr.1)
    (by omega) (by omega)
  have hm' : m' ≠ 0 := by
    rintro rfl
    rw [Nat.log2_zero] at hlog
    omega
  have hround : roundWithAccuracy .binary64 s m e a = .finite s m' e' (Nat.pos_of_ne_zero hm') := by
    simp only [roundWithAccuracy, hfirst, hsecond]
    rw [dif_neg hm']
  generalize (ExtendedMantissa.ofMantissaAndAccuracy m a >>> k).roundedMantissa = r at hr hsize
  have hexact : (2 : ℚ) ^ (e + k) = 2 ^ k * 2 ^ e := by
    rw [zpow_add₀ (by norm_num), zpow_natCast, mul_comm]
  have hcut : ((m / 2 ^ k : ℕ) : ℚ) * 2 ^ k ≤ m := by exact_mod_cast Nat.div_mul_le_self m (2 ^ k)
  have hcut' : (m : ℚ) ≤ ((m / 2 ^ k : ℕ) + 1) * 2 ^ k := by
    exact_mod_cast (Nat.lt_mul_of_div_lt (Nat.lt_succ_self _) (Nat.two_pow_pos k)).le
  have hone := succ_le_mul_slack hq
  have hlast : ((m / 2 ^ k : ℕ) : ℚ) ≤ r := by exact_mod_cast hr.1
  have hlast' : (r : ℚ) ≤ (m / 2 ^ k : ℕ) + 1 := by exact_mod_cast hr.2
  have hslack := slack_pos
  have hvalue : size (roundWithAccuracy .binary64 s m e a) = r * (2 ^ k * 2 ^ e) := by rw [hround, size, hsize, hexact]
  refine ⟨hround ▸ .mk m' e' _ hlog (by omega) (by omega), ?_, ?_⟩ <;> rw [hvalue]
  · have hup : ((m / 2 ^ k : ℕ) : ℚ) + 1 ≤ r * slack := hone.trans (by gcongr)
    calc (m : ℚ) * 2 ^ e ≤ ((m / 2 ^ k : ℕ) + 1) * 2 ^ k * 2 ^ e := by gcongr
      _ ≤ r * slack * 2 ^ k * 2 ^ e := by gcongr
      _ = r * (2 ^ k * 2 ^ e) * slack := by ring
  · have hup : (r : ℚ) ≤ (m / 2 ^ k : ℕ) * slack := hlast'.trans hone
    calc (r : ℚ) * (2 ^ k * 2 ^ e) ≤ (m / 2 ^ k : ℕ) * slack * (2 ^ k * 2 ^ e) := by gcongr
      _ = (m / 2 ^ k : ℕ) * 2 ^ k * 2 ^ e * slack := by ring
      _ ≤ m * 2 ^ e * slack := by gcongr

theorem size_shiftLeft (m : Nat) (e : Int) (k : Nat) : ((m <<< k : Nat) : ℚ) * 2 ^ (e - k) = m * 2 ^ e := by
  rw [Nat.shiftLeft_eq, zpow_sub₀ (by norm_num), zpow_natCast]
  push_cast
  field_simp

theorem log2_bounds {m : Nat} {e : Int} (hm : 0 < m) (hlow : 2⁻¹ ≤ m * (2 : ℚ) ^ e)
    (hhigh : m * (2 : ℚ) ^ e ≤ 2 ^ 100) : -2 < m.log2 + e ∧ m.log2 + e ≤ 100 := by
  have htwo : (1 : ℚ) < 2 := by norm_num
  have h1 : (2 : ℚ) ^ (-1 : Int) < 2 ^ (m.log2 + 1 + e) := by
    rw [zpow_neg_one]
    exact hlow.trans_lt (lt_pow_log2 m e)
  have h2 : (2 : ℚ) ^ (m.log2 + e) ≤ 2 ^ (100 : Int) := (pow_log2_le hm e).trans hhigh
  rw [zpow_lt_zpow_iff_right₀ htwo] at h1
  rw [zpow_le_zpow_iff_right₀ htwo] at h2
  omega

theorem rounds_round (s : Sign) {m : Nat} {e : Int} (hm : 0 < m) (hlow : 2⁻¹ ≤ m * (2 : ℚ) ^ e)
    (hhigh : m * (2 : ℚ) ^ e ≤ 2 ^ 100) : Rounds s (m * 2 ^ e) (.round .binary64 s m e) := by
  obtain ⟨hlog, hlog'⟩ := log2_bounds hm hlow hhigh
  generalize hk : (e - Format.binary64.targetExponent (totalExponent m e)).toNat = k
  have hshift : (m <<< k).log2 = m.log2 + k := log2_shiftLeft hm.ne' k
  rw [targetExponent_eq (by omega)] at hk
  have hround : UnpackedFloat.round .binary64 s m e = roundWithAccuracy .binary64 s (m <<< k) (e - k) .exact := by
    simp only [UnpackedFloat.round, decreaseExponent]
    rw [targetExponent_eq (by omega), hk]
  rw [hround, ← size_shiftLeft m e k]
  exact rounds_roundWithAccuracy s .exact (by omega) (by omega) (by omega)

/-! ## Memory -/

theorem toNat_append_one {m : Nat} (hm : m.log2 = 52) : (1#1 ++ BitVec.ofNat 52 m).toNat = m := by
  have hpos : m ≠ 0 := by
    rintro rfl
    rw [Nat.log2_zero] at hm
    omega
  obtain ⟨hlow, hhigh⟩ := (Nat.log2_eq_iff hpos).mp hm
  rw [BitVec.toNat_append, ← Nat.shiftLeft_add_eq_or_of_lt (BitVec.isLt _), BitVec.toNat_ofNat]
  show 1 <<< 52 + m % 2 ^ 52 = m
  omega

/-- Normal numbers are the same in memory. -/
theorem Normal.unpack_pack {s : Sign} {u : UnpackedFloat} (hu : Normal s u) : (Float.Model.pack u).unpack = u := by
  obtain ⟨m, e, hm, hlog, hlow, hhigh⟩ := hu
  have hbias : Format.binary64.exponentBias = 1023 := rfl
  have hbits : Format.binary64.mantissaBitsWithoutImplicit = 52 := rfl
  have hbits' : Format.binary64.mantissaBits = 53 := rfl
  have hexp : (e + Format.binary64.exponentBias + Format.binary64.mantissaBitsWithoutImplicit).toNat + 1 < 2 ^ 11 := by
    omega
  have hsign := @unpackSign_components .binary64 s
  simp only [Float.Model.pack, Float.Model.unpack, UnpackedFloat.pack]
  rw [if_neg (by omega), if_pos (by omega)]
  simp only [UnpackedFloat.unpack, unpackExponent_packComponents, unpackMantissa_packComponents, hsign]
  rw [if_neg (exponent_ne hexp), if_neg]
  · simp only [toNat_append_one hlog]
    congr 1
    rw [BitVec.toNat_ofNat, Nat.mod_eq_of_lt (by omega)]
    omega
  · intro h
    have h := congrArg BitVec.toNat h
    rw [BitVec.toNat_ofNat, Nat.mod_eq_of_lt (by omega)] at h
    have hzero : (0#11).toNat = 0 := rfl
    omega

end Float

end TileRealm
