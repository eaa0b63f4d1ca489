import Mathlib.Algebra.Group.Nat.Defs
import TileRealm.Random

/-!
# Numbers in a range

- `Random.Stream.below_lt`, `Random.Stream.between_bounds`: what is drawn lies in the range;
- `Random.Stream.exists_word`: for each number below a bound there is a word that gives it at once;
- `Random.Stream.exists_between`: so each number of a range can be drawn, whatever words follow;
- `Random.Stream.between?`, `Random.Stream.between?_eq`: a draw whose arithmetic fails when it leaves the 32 bits, and
  which fails without a range; from a range it never fails.
-/

set_option autoImplicit false

namespace TileRealm

/-- A sum, which fails if it is no coordinate. -/
def sum? (a b : UInt32) : Option UInt32 :=
  if a.toNat + b.toNat < 2 ^ 32 then some (a + b) else none

/-- A difference, which fails below 0. -/
def difference? (a b : UInt32) : Option UInt32 :=
  if b ≤ a then some (a - b) else none

namespace Random.Stream

variable {bound k lo hi n : UInt32} {s : Stream}

/-! ## In the range -/

theorem product_div_lt (w : UInt32) (hbound : 0 < bound) : w.toNat * bound.toNat / UInt32.size < bound.toNat := by
  have hpos : 0 < bound.toNat := UInt32.lt_iff_toNat_lt.mp hbound
  rw [Nat.div_lt_iff_lt_mul (by decide), Nat.mul_comm]
  exact Nat.mul_lt_mul_of_pos_left w.toNat_lt hpos

theorem belowWithin_lt (hbound : 0 < bound) (tries : Nat) (s : Stream) : (belowWithin bound tries s).1 < bound := by
  induction tries generalizing s with
  | zero => exact hbound
  | succ tries ih =>
    rw [belowWithin]
    dsimp only
    split
    · have hlt := product_div_lt s.word.1 hbound
      rw [UInt32.lt_iff_toNat_lt, UInt32.toNat_ofNat_of_lt' (Nat.lt_trans hlt bound.toNat_lt)]
      exact hlt
    · exact ih _

theorem below_lt (hbound : 0 < bound) (s : Stream) : (s.below bound).1 < bound :=
  belowWithin_lt hbound period s

theorem between_bounds (h : lo < hi) (s : Stream) : lo ≤ (s.between lo hi).1 ∧ (s.between lo hi).1 < hi := by
  have hlt : (s.below (hi - lo)).1 < hi - lo := below_lt (by grind) s
  show lo ≤ lo + (s.below (hi - lo)).1 ∧ lo + (s.below (hi - lo)).1 < hi
  grind

/-! ## All of the range -/

theorem le_zone (bound : UInt32) : bound.toNat - 1 ≤ zone bound := by
  rw [zone, Nat.shiftLeft_eq]
  have h : bound.toNat * 1 ≤ bound.toNat * 2 ^ (31 - bound.toNat.log2) :=
    Nat.mul_le_mul_left _ (Nat.two_pow_pos _)
  omega

/-- For each number there is a word whose product with the bound begins just behind the multiple of `2 ^ 32` that
belongs to the number. -/
theorem exists_word (hk : k < bound) : ∃ w : UInt32, w.toNat * bound.toNat / UInt32.size = k.toNat ∧
    w.toNat * bound.toNat % UInt32.size ≤ zone bound := by
  have hlt := UInt32.lt_iff_toNat_lt.mp hk
  have hbound := bound.toNat_lt
  have hzone := le_zone bound
  have hsize : UInt32.size = 2 ^ 32 := rfl
  generalize hq : (k.toNat * 2 ^ 32 + bound.toNat - 1) / bound.toNat = q
  have hmod := Nat.div_add_mod (k.toNat * 2 ^ 32 + bound.toNat - 1) bound.toNat
  have hrest := Nat.mod_lt (k.toNat * 2 ^ 32 + bound.toNat - 1) (Nat.zero_lt_of_lt hlt)
  rw [hq] at hmod
  have hword : q < 2 ^ 32 := by
    apply Nat.lt_of_mul_lt_mul_left (a := bound.toNat)
    omega
  refine ⟨UInt32.ofNat q, ?_⟩
  rw [UInt32.toNat_ofNat_of_lt' hword, Nat.mul_comm, hsize]
  omega

theorem word_cons (w : UInt32) (rest : List UInt32) : word { s with rest := w :: rest } = (w, { s with rest }) :=
  rfl

/-- Each number below the bound can be drawn, whatever words follow. -/
theorem exists_below (hk : k < bound) : ∃ w, ∀ (s : Stream) (rest : List UInt32),
    below bound { s with rest := w :: rest } = (k, { s with rest }) := by
  obtain ⟨w, hdiv, hmod⟩ := exists_word hk
  refine ⟨w, fun s rest => ?_⟩
  obtain ⟨tries, htries⟩ : ∃ tries, period = tries + 1 := ⟨2 ^ 68 - 1, by decide⟩
  rw [below, htries, belowWithin]
  simp only [word_cons, hdiv, if_pos hmod, UInt32.ofNat_toNat]

theorem exists_between (hlo : lo ≤ n) (hhi : n < hi) : ∃ w, ∀ (s : Stream) (rest : List UInt32),
    between lo hi { s with rest := w :: rest } = (n, { s with rest }) := by
  obtain ⟨w, hw⟩ := exists_below (by grind : n - lo < hi - lo)
  refine ⟨w, fun s rest => ?_⟩
  rw [between, hw]
  exact congrArg (·, _) (by grind)

/-! ## Without a fault -/

/-- A number of a range; it fails if there is none in the range, and if a sum or a difference leaves the 32 bits. -/
def between? (lo hi : UInt32) (s : Stream) : Option (UInt32 × Stream) :=
  if lo < hi then do
    let bound ← difference? hi lo
    let (n, s) := s.below bound
    let n ← sum? lo n
    return (n, s)
  else none

/-- A draw from a range does not fail. -/
theorem between?_eq (h : lo < hi) (s : Stream) : s.between? lo hi = some (s.between lo hi) := by
  have hdifference : difference? hi lo = some (hi - lo) := if_pos (UInt32.le_of_lt h)
  have hsum : sum? lo (s.below (hi - lo)).1 = some (lo + (s.below (hi - lo)).1) := by
    have hlt := UInt32.lt_iff_toNat_lt.mp (below_lt (by grind : 0 < hi - lo) s)
    rw [UInt32.toNat_sub_of_le _ _ (UInt32.le_of_lt h)] at hlt
    have hhi := hi.toNat_lt
    exact if_pos (by omega)
  simp only [between?, if_pos h, hdifference, bind, Option.bind_some, hsum]
  rfl

end Random.Stream

end TileRealm
