import TileRealm.Proofs.Float.Arithmetic

/-!
# Doubled and cut to a whole number

- `Float.double_eq`: to double a number in full only changes its exponent;
- `Float.le_toUInt64`: a whole number that is not larger than a number is not larger than what is left of it when its
  fraction is cut off;
- `Float.AtLeast`, `Float.atLeast_of_le`: a number that is not smaller than a positive whole one is infinite, or it has
  all its bits;
- `Float.AtLeast.le_double`: half of a whole number is enough to double.
-/

set_option autoImplicit false

namespace TileRealm

open Float.Model
open Float.Model.UnpackedFloat (Sign Accuracy ExtendedMantissa roundWithAccuracy shiftToTargetExponent decreaseExponent
  shiftToExponent unpackExponent unpackMantissa)

namespace Float

/-! ## Doubling -/

/-- No bit is lost when just the bits are dropped that were put in. -/
theorem shiftLeft_shiftRight (m k : Nat) :
    (ExtendedMantissa.mk (m <<< k) false false) >>> k = ExtendedMantissa.mk m false false := by
  induction k generalizing m with
  | zero => rfl
  | succ k ih =>
    show ExtendedMantissa.shiftRightOne (ExtendedMantissa.mk (m <<< (k + 1)) false false >>> k) = _
    have hsucc : m <<< (k + 1) = (2 * m) <<< k := by
      rw [Nat.shiftLeft_eq, Nat.shiftLeft_eq, Nat.pow_succ, Nat.mul_comm 2, Nat.mul_assoc, Nat.mul_comm 2]
    rw [hsucc, ih, ExtendedMantissa.shiftRightOne]
    simp

theorem unpack_two : (2 : Float).toModel.unpack = .finite .positive (2 ^ 52) (-51) (by decide) :=
  rfl

/-- To double a number in full only changes its exponent. -/
theorem double_eq {m : Nat} {e : Int} (hm : 0 < m) (hlog : m.log2 = 52) (hlow : -1074 ≤ e) :
    UnpackedFloat.mul .binary64 (.finite .positive m e hm) (2 : Float).toModel.unpack =
      .finite .positive m (e + 1) hm := by
  have hbits : m * 2 ^ 52 = m <<< 52 := (Nat.shiftLeft_eq m 52).symm
  have hlong : (m <<< 52).log2 = 104 := by rw [log2_shiftLeft hm.ne', hlog]
  have hfirst : shiftToTargetExponent .binary64 (m <<< 52) (e + -51) .exact = (⟨m, false, false⟩, e + 1) := by
    have hshift : (Format.binary64.targetExponent (totalExponent (m <<< 52) (e + -51)) - (e + -51)).toNat = 52 := by
      rw [targetExponent_eq (by omega), hlong]
      omega
    simp only [shiftToTargetExponent, shiftToExponent, hshift, ExtendedMantissa.ofMantissaAndAccuracy,
      shiftLeft_shiftRight]
    exact congrArg (_, ·) (by omega)
  have hsecond : shiftToTargetExponent .binary64 m (e + 1) .exact = (⟨m, false, false⟩, e + 1) := by
    have hshift : (Format.binary64.targetExponent (totalExponent m (e + 1)) - (e + 1)).toNat = 0 := by
      rw [targetExponent_eq (by omega), hlog]
      omega
    simp only [shiftToTargetExponent, shiftToExponent, hshift, Int.natCast_zero, Int.add_zero]
    rfl
  have hrounded : (ExtendedMantissa.mk m false false).roundedMantissa = m := rfl
  have hsign : Sign.positive * Sign.positive = Sign.positive := rfl
  rw [unpack_two]
  simp only [UnpackedFloat.mul, hbits, hsign, roundWithAccuracy, hfirst, hrounded, hsecond]
  rw [dif_neg hm.ne']

/-! ## Cutting -/

theorem le_ofNatClamp {n k : Nat} (hn : n < 2 ^ 64) (h : n ≤ k) : n ≤ (UInt64.ofNatClamp k).toNat := by
  unfold UInt64.ofNatClamp
  split
  · exact h
  · exact Nat.le_sub_one_of_lt hn

/-- A whole number that is not larger than a number is not larger than what is left of it. -/
theorem le_toUInt64 {m n : Nat} {e : Int} (hm : 0 < m) (hn : n < 2 ^ 64) (h : (n : ℚ) ≤ m * 2 ^ e) :
    n ≤ (UnpackedFloat.finite .positive m e hm).toUInt64.toNat := by
  have hcut : UnpackedFloat.roundToInt .positive m e = ((m <<< e.toNat / 2 ^ (-e).toNat : Nat) : Int) := by
    have hexp : (-(e - e.toNat)).toNat = (-e).toNat := by omega
    simp only [UnpackedFloat.roundToInt, decreaseExponent, shiftToExponent, Sign.apply, mantissa_shiftRight,
      mantissa_ofMantissaAndAccuracy, Int.sub_zero, Int.zero_sub, hexp]
  refine le_ofNatClamp hn ?_
  rw [UnpackedFloat.toInt, hcut, Int.toNat_natCast, Nat.le_div_iff_mul_le (Nat.two_pow_pos _), Nat.shiftLeft_eq]
  have hpow : (2 : ℚ) ^ e.toNat = 2 ^ e * 2 ^ (-e).toNat := by
    rw [← zpow_natCast, ← zpow_natCast, ← zpow_add₀ (by norm_num)]
    congr 1
    omega
  have hscaled : (n : ℚ) * 2 ^ (-e).toNat ≤ m * 2 ^ e.toNat := by
    rw [hpow, ← mul_assoc]
    gcongr
  exact_mod_cast hscaled

/-! ## Numbers from memory -/

theorem toNat_one_append (v : BitVec 52) : (1#1 ++ v).toNat = 2 ^ 52 + v.toNat := by
  rw [BitVec.toNat_append, ← Nat.shiftLeft_add_eq_or_of_lt v.isLt]
  rfl

/-- A finite number from memory has all its bits, or it has the smallest exponent. -/
theorem normal_or_of_unpack {b : BitVec 64} {s : Sign} {m : Nat} {e : Int} {hm : 0 < m}
    (h : UnpackedFloat.unpack .binary64 b = .finite s m e hm) : Normal s (.finite s m e hm) ∨ e = -1074 := by
  have hbias : Format.binary64.exponentBias = 1023 := rfl
  have hbits : Format.binary64.mantissaBitsWithoutImplicit = 52 := rfl
  unfold UnpackedFloat.unpack at h
  dsimp only at h
  split at h
  · split at h <;> cases h
  · rename_i hlast
    split at h
    · rename_i hzero
      split at h
      · cases h
      · cases h
        right
        rw [hzero]
        rfl
    · rename_i hfirst
      cases h
      left
      have hexp : (@unpackExponent .binary64 b).toNat < 2 ^ 11 := BitVec.isLt _
      have hpos : (@unpackExponent .binary64 b).toNat ≠ 0 := fun h => hfirst (BitVec.eq_of_toNat_eq h)
      have hne : (@unpackExponent .binary64 b).toNat ≠ 2047 := fun h => hlast (BitVec.eq_of_toNat_eq h)
      have hv : (@unpackMantissa .binary64 b).toNat < 2 ^ 52 := BitVec.isLt _
      have hm := toNat_one_append (@unpackMantissa .binary64 b)
      refine .mk _ _ _ ?_ ?_ ?_
      · exact (Nat.log2_eq_iff (by omega)).mpr ⟨by omega, by omega⟩
      · rw [hbias]
        omega
      · rw [hbias]
        omega

/-- A number whose exponent is too large is infinite in memory. -/
theorem unpack_pack_of_large {m : Nat} {e : Int} (hm : 0 < m) (he : 971 < e) :
    (Float.Model.pack (.finite .positive m e hm)).unpack = .infinity .positive := by
  have hbias : Format.binary64.exponentBias = 1023 := rfl
  have hbits : Format.binary64.mantissaBitsWithoutImplicit = 52 := rfl
  simp only [Float.Model.pack, Float.Model.unpack, UnpackedFloat.pack]
  rw [if_pos (by omega)]
  rfl

/-! ## Lower bounds -/

/-- At least as large as `q`: infinite, or with all its bits. -/
inductive AtLeast (q : ℚ) : UnpackedFloat → Prop
  | infinity : AtLeast q (.infinity .positive)
  | normal {u : UnpackedFloat} : Normal .positive u → q ≤ size u → AtLeast q u

/-- The exponent of a number of at least 1 is not small. -/
theorem Normal.le_exponent {s : Sign} {m : Nat} {e : Int} {hm : 0 < m} (hu : Normal s (.finite s m e hm))
    (hone : 1 ≤ size (.finite s m e hm)) : -52 ≤ e := by
  obtain ⟨_, _, _, hlog, -, -⟩ := hu
  have hlt : (2 : ℚ) ^ (0 : Int) < 2 ^ (m.log2 + 1 + e) := by
    rw [zpow_zero]
    exact hone.trans_lt (lt_pow_log2 m e)
  rw [zpow_lt_zpow_iff_right₀ (by norm_num)] at hlt
  omega

/-- A number that is at least as large as a positive whole one. -/
theorem atLeast_of_le {n : UInt32} {a : Float} (hn : 0 < n.toNat) (h : n.toFloat ≤ a) :
    AtLeast n.toNat a.toModel.unpack := by
  obtain ⟨-, hnumber, hplace⟩ := le_iff.mp h
  have hshape : ∀ {s m e hm}, a.toModel.unpack = .finite s m e hm → Normal s (.finite s m e hm) ∨ e = -1074 :=
    fun h => normal_or_of_unpack h
  have hnumber' : a.toModel.unpack.isNaN = false := hnumber
  have hwhole := whole_toFloat n
  generalize n.toNat = k at hn hwhole ⊢
  generalize n.toFloat.toModel.unpack = v at hplace hwhole
  generalize a.toModel.unpack = u at hnumber' hplace hshape
  cases hwhole with
  | zero => exact absurd hn (Nat.lt_irrefl 0)
  | normal hv hsize =>
    have hfull := hv
    obtain ⟨m₀, e₀, hm₀, -, -, -⟩ := hfull
    have hone : (1 : ℚ) ≤ size (.finite .positive m₀ e₀ hm₀) := by
      rw [hsize]
      exact_mod_cast hn
    have hexp := hv.le_exponent hone
    -- whatever is not larger than 0 stands to the left
    rcases u with (_ | _) | _ | _ | ⟨_ | _, m, e, hm⟩
    case finite.positive =>
      rcases hshape rfl with hu | rfl
      · exact .normal hu (hsize ▸ size_le_of_place_le hv hu hplace)
      · simp only [place, Prod.Lex.toLex_le_toLex, lt_self_iff_false, false_or, true_and] at hplace
        omega
    case infinity.positive => exact .infinity
    case notANumber => cases hnumber'
    all_goals simp [place, Prod.Lex.toLex_le_toLex] at hplace

/-- Half of a whole number is enough to double. -/
theorem AtLeast.le_double {n : Nat} {q : ℚ} {a : Float} (ha : AtLeast q a.toModel.unpack) (hn : n < 2 ^ 64)
    (h : (n : ℚ) ≤ q * 2) : n ≤ (a * 2).toUInt64.toNat := by
  have hinfinity : n ≤ (UnpackedFloat.infinity .positive).toUInt64.toNat :=
    le_ofNatClamp hn (Nat.le_sub_one_of_lt hn)
  have hproduct : (a * 2).toUInt64 =
      (Float.Model.pack (.mul .binary64 a.toModel.unpack (2 : Float).toModel.unpack)).unpack.toUInt64 := rfl
  rw [hproduct]
  generalize a.toModel.unpack = u at ha
  cases ha with
  | infinity => exact hinfinity
  | normal hu hsize =>
    obtain ⟨m, e, hm, hlog, hlow, hhigh⟩ := hu
    rw [double_eq hm hlog hlow]
    rcases Int.lt_or_le 971 (e + 1) with hlarge | hfits
    · rwa [unpack_pack_of_large hm hlarge]
    · rw [(Normal.mk m (e + 1) hm hlog (by omega) hfits).unpack_pack]
      refine le_toUInt64 hm hn (h.trans ?_)
      rw [zpow_add_one₀ (by norm_num), ← mul_assoc]
      exact mul_le_mul_of_nonneg_right hsize (by norm_num)

end Float

end TileRealm
