import Mathlib
import TileRealm.Movement

/-!
# Comparing numbers

Distances and budgets are binary floating-point numbers.

- `Float.lt_iff`, `Float.le_iff`: numbers are compared by their places on a line; hence `Float.lt_trans`,
  `Float.le_trans`, `Float.lt_or_lt` and `Float.not_lt_iff_le`;
- `Float.Unsigned`: sums, products and quotients of unsigned numbers are unsigned, so nothing is below 0;
- `Tile.distance_self`, `MoveRules.not_budget_lt_zero`, `MoveRules.isNaN_leap`: what this says of distances and budgets.
-/

set_option autoImplicit false

namespace TileRealm

open Float.Model
open Float.Model.UnpackedFloat (Sign Accuracy packComponents unpackSign unpackExponent_packComponents
  unpackMantissa_packComponents roundWithAccuracy shiftToTargetExponent)

namespace Float

/-! ## The order -/

/-- Where a number stands on the line: by its exponent, then by its mantissa, both turned around below 0. -/
def place : UnpackedFloat → ℤ ×ₗ ℤ ×ₗ ℤ
  | .infinity .negative => toLex (-2, toLex (0, 0))
  | .finite .negative m e _ => toLex (-1, toLex (-e, -m))
  | .zero _ | .notANumber => toLex (0, toLex (0, 0))
  | .finite .positive m e _ => toLex (1, toLex (e, m))
  | .infinity .positive => toLex (2, toLex (0, 0))

theorem lt_iff_place {a b : UnpackedFloat} :
    a.lt b = true ↔ a.isNaN = false ∧ b.isNaN = false ∧ place a < place b := by
  have hsign : compare Sign.negative Sign.positive = .lt := by decide
  rcases a with (_ | _) | _ | _ | ⟨_ | _, m, e, hm⟩ <;> rcases b with (_ | _) | _ | _ | ⟨_ | _, m', e', hm'⟩ <;>
    simp [UnpackedFloat.lt, UnpackedFloat.compare, UnpackedFloat.isNaN, place, Prod.Lex.toLex_lt_toLex,
      Ordering.then_eq_lt, Ordering.then_eq_gt, hsign, Int.compare_eq_gt, Int.compare_eq_lt, Nat.compare_eq_lt,
      Nat.compare_eq_gt]

/-- Numbers are compared by their places. -/
theorem lt_iff {a b : Float} :
    a < b ↔ a.isNaN = false ∧ b.isNaN = false ∧ place a.toModel.unpack < place b.toModel.unpack := by
  have hlt : a < b ↔ decide (a.toModel < b.toModel) = true := Iff.rfl
  rw [hlt, decide_eq_true_eq]
  exact lt_iff_place

theorem isLE_then {e e' : Int} {m m' : Nat} :
    ((compare e e').then (compare m m')).isLE = true ↔ e < e' ∨ e = e' ∧ m ≤ m' := by
  rw [Ordering.isLE_then_iff_or, Int.compare_eq_lt, Int.compare_eq_eq, Nat.isLE_compare]

theorem isGE_then {e e' : Int} {m m' : Nat} :
    ((compare e e').then (compare m m')).isGE = true ↔ e' < e ∨ e = e' ∧ m' ≤ m := by
  rw [← Ordering.isLE_swap, Ordering.swap_then, ← Int.compare_swap, ← Nat.compare_swap, Ordering.swap_swap,
    Ordering.swap_swap, isLE_then, eq_comm]

theorem le_iff_place {a b : UnpackedFloat} :
    a.le b = true ↔ a.isNaN = false ∧ b.isNaN = false ∧ place a ≤ place b := by
  have hsign : compare Sign.negative Sign.positive = .lt ∧ compare Sign.positive Sign.negative = .gt ∧
      compare Sign.negative Sign.negative = .eq ∧ compare Sign.positive Sign.positive = .eq := by decide
  rcases a with (_ | _) | _ | _ | ⟨_ | _, m, e, hm⟩ <;> rcases b with (_ | _) | _ | _ | ⟨_ | _, m', e', hm'⟩ <;>
    simp [UnpackedFloat.le, UnpackedFloat.compare, UnpackedFloat.isNaN, place, Prod.Lex.toLex_le_toLex, hsign,
      isLE_then, isGE_then]

theorem le_iff {a b : Float} :
    a ≤ b ↔ a.isNaN = false ∧ b.isNaN = false ∧ place a.toModel.unpack ≤ place b.toModel.unpack := by
  have hle : a ≤ b ↔ decide (a.toModel ≤ b.toModel) = true := Iff.rfl
  rw [hle, decide_eq_true_eq]
  exact le_iff_place

/-- A number that is not below another is at least as large, unless one of them is no number. -/
theorem not_lt_iff_le {a b : Float} (ha : a.isNaN = false) (hb : b.isNaN = false) : ¬a < b ↔ b ≤ a := by
  rw [lt_iff, le_iff]
  simp only [ha, hb, true_and]
  exact ⟨le_of_not_gt, not_lt_of_ge⟩

theorem lt_trans {a b c : Float} (hab : a < b) (hbc : b < c) : a < c := by
  rw [lt_iff] at hab hbc ⊢
  exact ⟨hab.1, hbc.2.1, hab.2.2.trans hbc.2.2⟩

theorem le_trans {a b c : Float} (hab : a ≤ b) (hbc : b ≤ c) : a ≤ c := by
  rw [le_iff] at hab hbc ⊢
  exact ⟨hab.1, hbc.2.1, hab.2.2.trans hbc.2.2⟩

/-- Of two numbers, the lower is below or the upper above any third. -/
theorem lt_or_lt {a b c : Float} (hb : b.isNaN = false) (hac : a < c) : a < b ∨ b < c := by
  rw [lt_iff] at hac
  rcases lt_or_ge (place a.toModel.unpack) (place b.toModel.unpack) with hab | hba
  · exact Or.inl (lt_iff.mpr ⟨hac.1, hb, hab⟩)
  · exact Or.inr (lt_iff.mpr ⟨hb, hac.2.1, hba.trans_lt hac.2.2⟩)

/-! ## Signs -/

/-- The numbers of one sign. -/
inductive Signed (s : Sign) : UnpackedFloat → Prop
  | infinity : Signed s (.infinity s)
  | zero : Signed s (.zero s)
  | finite (m : Nat) (e : Int) (hm : 0 < m) : Signed s (.finite s m e hm)

theorem unpackSign_components {spec : Format} (s : Sign) (e : BitVec spec.exponentBits)
    (m : BitVec spec.mantissaBitsWithoutImplicit) : Sign.ofBitVec (unpackSign (packComponents spec s e m)) = s := by
  have hbit : unpackSign (packComponents spec s e m) = s.toBitVec := by
    ext i hi
    simp only [unpackSign, packComponents, BitVec.getElem_cast, BitVec.extractLsb, BitVec.getElem_extractLsb',
      BitVec.getLsbD_append]
    -- the bit lies above those of the mantissa and those of the exponent
    rw [if_neg (by omega), if_neg (by omega), ← BitVec.getLsbD_eq_getElem]
    exact congrArg s.toBitVec.getLsbD (by omega)
  rw [hbit]
  cases s <;> rfl

/-- All bits but the largest exponent stand for a finite number. -/
theorem unpack_components (s : Sign) {e : BitVec 11} (he : e ≠ -1#11) (m : BitVec 52) :
    Signed s (.unpack .binary64 (packComponents .binary64 s e m)) ∧
      (UnpackedFloat.unpack .binary64 (packComponents .binary64 s e m)).isFinite = true := by
  have hsign := @unpackSign_components .binary64 s e m
  simp only [UnpackedFloat.unpack, unpackExponent_packComponents, unpackMantissa_packComponents, hsign]
  rw [if_neg he]
  split
  · split
    · exact ⟨.zero, rfl⟩
    · exact ⟨.finite _ _ _, rfl⟩
  · exact ⟨.finite _ _ _, rfl⟩

theorem exponent_ne {n : Nat} (hn : n + 1 < 2 ^ 11) : BitVec.ofNat 11 n ≠ -1#11 := by
  intro h
  have hn' := congrArg BitVec.toNat h
  rw [BitVec.toNat_ofNat, Nat.mod_eq_of_lt (by omega)] at hn'
  have hlast : (-1#11).toNat = 2047 := rfl
  omega

/-- A finite number whose exponent is not too large is finite in memory. -/
theorem unpack_pack_finite (s : Sign) {m : Nat} {e : Int} (hm : 0 < m) (he : e ≤ 971) :
    Signed s (Float.Model.pack (.finite s m e hm)).unpack ∧
      (Float.Model.pack (.finite s m e hm)).unpack.isFinite = true := by
  have hbias : Format.binary64.exponentBias = 1023 := rfl
  have hbits : Format.binary64.mantissaBitsWithoutImplicit = 52 := rfl
  have he' : (e + Format.binary64.exponentBias + Format.binary64.mantissaBitsWithoutImplicit).toNat + 1 < 2 ^ 11 := by
    omega
  simp only [Float.Model.pack, Float.Model.unpack, UnpackedFloat.pack]
  rw [if_neg (by omega)]
  -- the exponent is written down, or it is 0 for a number below the normal ones
  split
  · exact unpack_components s (exponent_ne he') _
  · exact unpack_components s (by decide) _

/-- Numbers keep their signs in memory. -/
theorem Signed.pack {s : Sign} {u : UnpackedFloat} (hu : Signed s u) : Signed s (Float.Model.pack u).unpack := by
  cases hu with
  | infinity => cases s <;> exact .infinity
  | zero => cases s <;> exact .zero
  | finite m e hm =>
    by_cases he : e ≤ 971
    · exact (unpack_pack_finite s hm he).1
    · have hbias : Format.binary64.exponentBias = 1023 := rfl
      have hbits : Format.binary64.mantissaBitsWithoutImplicit = 52 := rfl
      simp only [Float.Model.pack, Float.Model.unpack, UnpackedFloat.pack]
      rw [if_pos (by omega)]
      cases s <;> exact .infinity

theorem Signed.isNaN {s : Sign} {u : UnpackedFloat} (hu : Signed s u) : u.isNaN = false := by
  cases hu <;> rfl

theorem signed_roundWithAccuracy (s : Sign) (m : Nat) (e : Int) (a : Accuracy) :
    Signed s (roundWithAccuracy .binary64 s m e a) := by
  simp only [roundWithAccuracy]
  split
  · exact .zero
  · exact .finite _ _ _

theorem signed_normalize {m : Int} (hm : 0 ≤ m) (e : Int) : Signed .positive (.normalize .binary64 m e .positive) := by
  unfold UnpackedFloat.normalize
  split
  · rename_i h
    have := Int.compare_eq_lt.mp h
    omega
  · exact .zero
  · exact signed_roundWithAccuracy _ _ _ _

/-! ## Unsigned numbers -/

/-- No minus sign; this may also be no number at all. -/
def Unsigned (u : UnpackedFloat) : Prop :=
  u = .notANumber ∨ Signed .positive u

theorem Unsigned.pack {u : UnpackedFloat} (hu : Unsigned u) : Unsigned (Float.Model.pack u).unpack := by
  rcases hu with rfl | hu
  · exact Or.inl rfl
  · exact Or.inr hu.pack

theorem Unsigned.mul {u v : UnpackedFloat} (hu : Unsigned u) (hv : Unsigned v) : Unsigned (.mul .binary64 u v) := by
  rcases hu with rfl | hu
  · exact Or.inl rfl
  rcases hv with rfl | hv
  · cases hu <;> exact Or.inl rfl
  cases hu <;> cases hv
  case infinity.infinity | infinity.finite | finite.infinity => exact Or.inr .infinity
  -- the only products that are no numbers
  case infinity.zero | zero.infinity => exact Or.inl rfl
  case zero.zero | zero.finite | finite.zero => exact Or.inr .zero
  case finite.finite => exact Or.inr (signed_roundWithAccuracy _ _ _ _)

theorem Unsigned.div {u v : UnpackedFloat} (hu : Unsigned u) (hv : Unsigned v) : Unsigned (.div .binary64 u v) := by
  rcases hu with rfl | hu
  · exact Or.inl rfl
  rcases hv with rfl | hv
  · cases hu <;> exact Or.inl rfl
  cases hu <;> cases hv
  case infinity.infinity | zero.zero => exact Or.inl rfl
  case infinity.finite | infinity.zero | finite.zero => exact Or.inr .infinity
  case zero.infinity | zero.finite | finite.infinity => exact Or.inr .zero
  case finite.finite => exact Or.inr (signed_roundWithAccuracy _ _ _ _)

theorem Unsigned.add {u v : UnpackedFloat} (hu : Unsigned u) (hv : Unsigned v) : Unsigned (.add .binary64 u v) := by
  rcases hu with rfl | hu
  · exact Or.inl rfl
  rcases hv with rfl | hv
  · cases hu <;> exact Or.inl rfl
  cases hu <;> cases hv
  case infinity.infinity | infinity.zero | infinity.finite | zero.infinity | finite.infinity =>
    exact Or.inr .infinity
  case zero.zero => exact Or.inr .zero
  case zero.finite | finite.zero => exact Or.inr (.finite _ _ _)
  case finite.finite =>
    exact Or.inr (signed_normalize (Int.add_nonneg (Int.natCast_nonneg _) (Int.natCast_nonneg _)) _)

/-- Unsigned numbers are not below 0. -/
theorem Unsigned.not_lt_zero {a : Float} (ha : Unsigned a.toModel.unpack) : ¬a < 0 := by
  rw [lt_iff]
  rintro ⟨hnumber, -, h⟩
  have hzero : place (0 : Float).toModel.unpack = toLex (0, toLex (0, 0)) := rfl
  rw [hzero] at h
  have hnumber' : a.toModel.unpack.isNaN = false := hnumber
  generalize a.toModel.unpack = u at ha h hnumber'
  -- an unsigned number stands at 0 or to the right of it
  rcases ha with rfl | _ | _ | ⟨m, e, hm⟩
  · cases hnumber'
  · exact absurd h (by decide)
  · exact absurd h (by decide)
  · simp [place, Prod.Lex.toLex_lt_toLex] at h

/-! ## Whole numbers -/

theorem log2_shiftLeft {n : Nat} (hn : n ≠ 0) (k : Nat) : (n <<< k).log2 = n.log2 + k := by
  induction k with
  | zero => rfl
  | succ k ih =>
    have hne : n <<< k ≠ 0 := by
      rw [Nat.shiftLeft_eq]
      exact Nat.mul_ne_zero hn (Nat.two_pow_pos k).ne'
    rw [Nat.shiftLeft_succ, Nat.log2_two_mul hne, ih, Nat.add_assoc]

/-- What fits into the bits of a number is not rounded. -/
theorem roundWithAccuracy_of_fits (s : Sign) {m : Nat} {e : Int} (hm : 0 < m)
    (hfits : Format.binary64.targetExponent (totalExponent m e) ≤ e) :
    roundWithAccuracy .binary64 s m e .exact = .finite s m e hm := by
  have hshift : shiftToTargetExponent .binary64 m e .exact = (⟨m, false, false⟩, e) := by
    have hnone : (Format.binary64.targetExponent (totalExponent m e) - e).toNat = 0 := by omega
    simp only [shiftToTargetExponent, UnpackedFloat.shiftToExponent, hnone]
    rw [Int.natCast_zero, Int.add_zero]
    rfl
  have hrounded : (UnpackedFloat.ExtendedMantissa.mk m false false).roundedMantissa = m := rfl
  simp only [roundWithAccuracy, hshift, hrounded]
  rw [dif_neg hm.ne']

/-- Small whole numbers are exact. -/
theorem ofNat_eq {n : Nat} (hn : 0 < n) (hsmall : n < 2 ^ 53) :
    ∃ (k : Nat) (hm : 0 < n <<< k), UnpackedFloat.ofNat .binary64 n = .finite .positive (n <<< k) (-k) hm := by
  have hlog : n.log2 < 53 := (Nat.log2_lt hn.ne').mpr hsmall
  have htarget : ∀ t : Int, Format.binary64.targetExponent t = max (t - 53) (-1074) := fun _ => rfl
  have hcompare : compare (n : Int) 0 = .gt := Int.compare_eq_gt.mpr (by omega)
  simp only [UnpackedFloat.ofNat, UnpackedFloat.ofInt, UnpackedFloat.normalize, hcompare, UnpackedFloat.round,
    UnpackedFloat.decreaseExponent, Int.toNat_natCast, Int.zero_sub]
  -- the number is shifted to the left until its highest bit is the first of the mantissa
  generalize hk : (-Format.binary64.targetExponent (totalExponent n 0)).toNat = k
  have hm : 0 < n <<< k := by
    rw [Nat.shiftLeft_eq]
    exact Nat.mul_pos hn (Nat.two_pow_pos k)
  refine ⟨k, hm, roundWithAccuracy_of_fits _ hm ?_⟩
  rw [htarget, totalExponent] at hk ⊢
  rw [log2_shiftLeft hn.ne']
  omega

theorem isFinite_toFloat (n : UInt32) : n.toFloat.toModel.unpack.isFinite = true := by
  show (Float.Model.pack (.ofNat .binary64 n.toNat)).unpack.isFinite = true
  rcases Nat.eq_zero_or_pos n.toNat with hn | hn
  · rw [hn]
    rfl
  · obtain ⟨k, hm, hk⟩ := ofNat_eq hn (n.toNat_lt.trans (by decide))
    rw [hk]
    exact (unpack_pack_finite _ _ (by omega)).2

theorem sub_self {a : Float} (ha : a.toModel.unpack.isFinite = true) : a - a = 0 := by
  have hsub : ∀ u : UnpackedFloat, u.isFinite = true → UnpackedFloat.sub .binary64 u u = .zero .positive := by
    intro u hu
    cases u with
    | notANumber | infinity => cases hu
    | zero s => cases s <;> rfl
    | finite s m e hm =>
      simp only [UnpackedFloat.sub, Int.sub_self]
      rfl
  show Float.ofModel (Float.Model.pack (.sub .binary64 a.toModel.unpack a.toModel.unpack)) = 0
  rw [hsub _ ha]
  rfl

end Float

/-! ## Distances and budgets -/

theorem Tile.distance_self (t : Tile) : t.distance t = 0 := by
  rw [distance, Float.sub_self (Float.isFinite_toFloat t.x), Float.sub_self (Float.isFinite_toFloat t.y)]
  rfl

namespace Float

theorem signed_toFloat (n : UInt32) : Signed .positive n.toFloat.toModel.unpack :=
  (signed_normalize (Int.natCast_nonneg n.toNat) 0).pack

theorem isNaN_toFloat (n : UInt32) : n.toFloat.isNaN = false :=
  (signed_toFloat n).isNaN

theorem not_toFloat_lt_zero (n : UInt32) : ¬n.toFloat < 0 :=
  Unsigned.not_lt_zero (Or.inr (signed_toFloat n))

theorem unsigned_ofScientific (m : Nat) (e : Int) : Unsigned (.ofScientific .binary64 m e) := by
  rw [UnpackedFloat.ofScientific]
  split
  · exact Or.inr .zero
  split
  · exact Or.inr .infinity
  split
  · exact Or.inr .zero
  split
  · exact Unsigned.mul (Or.inr (.finite _ _ _)) (Or.inr (.finite _ _ _))
  · exact Unsigned.div (Or.inr (.finite _ _ _)) (Or.inr (.finite _ _ _))

theorem unsigned_ofNat (n : Nat) : Unsigned (Float.ofNat n).toModel.unpack := by
  show Unsigned (Float.ofScientific n false 0).toModel.unpack
  rw [Float.ofScientific]
  split
  · have hword : Unsigned n.toUInt64.toFloat.toModel.unpack :=
      Or.inr (signed_normalize (Int.natCast_nonneg n.toUInt64.toNat) 0).pack
    have hone : Unsigned (Float.exactlyRepresentablePowersOfTen[0]).toModel.unpack := Or.inr (.finite _ _ _)
    exact (hword.mul hone).pack
  · exact (unsigned_ofScientific _ _).pack

end Float

namespace MoveRules

variable (rules : MoveRules)

theorem not_budget_lt_zero (cap : UInt32) (elapsed : Nat) : ¬rules.budget cap elapsed < 0 := by
  have hthousand : Float.Unsigned (1000 : Float).toModel.unpack := Or.inr (.finite _ _ _)
  have hproduct :=
    (Float.Unsigned.mul (Or.inr (Float.signed_toFloat cap)) (Float.unsigned_ofNat (elapsed / 1000000))).pack
  exact Float.Unsigned.not_lt_zero ((hproduct.div hthousand).pack.add (Or.inr (Float.signed_toFloat _))).pack

theorem not_positionTolerance_lt_zero : ¬rules.positionTolerance.toFloat < 0 :=
  Float.not_toFloat_lt_zero _

theorem isNaN_leap : rules.leap.isNaN = false := by
  have hproduct : ∀ {u}, Float.Signed .positive u →
      Float.Signed .positive (.mul .binary64 (2 : Float).toModel.unpack u) := by
    intro u hu
    cases hu with
    | infinity => exact .infinity
    | zero => exact .zero
    | finite => exact Float.signed_roundWithAccuracy _ _ _ _
  exact (hproduct (Float.signed_toFloat _)).pack.isNaN

end MoveRules

end TileRealm
