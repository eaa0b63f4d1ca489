import Mathlib.Data.Nat.Digits.Lemmas
import TileRealm.Text.Digit

/-!
# Decimal digits

- `Text.digitValue?_of_isDigit`, `Text.digitValue?_of_not_isDigit`: the decimal digits have values, and no other
  character has one;
- `Text.numberOf_toDigits`, `Text.toDigits_inj`: the digits of a number stand for it, and for no other number;
- `Text.le_ofDigitChars`: more digits never make a number smaller.
-/

set_option autoImplicit false

namespace TileRealm.Text

variable {c : Char} {m n : Nat}

/-! ## Values -/

theorem isDigit_iff : c.isDigit = true ↔ '0' ≤ c ∧ c ≤ '9' := by
  simp only [Char.isDigit, Bool.and_eq_true, decide_eq_true_eq]
  rfl

theorem digitValue?_of_isDigit (hc : c.isDigit = true) : digitValue? 10 c = some (c.toNat - '0'.toNat) := by
  have hrange := isDigit_iff.mp hc
  have hnat : c.toNat ≤ 57 := hrange.2
  have hlt : c.toNat - '0'.toNat < 10 := Nat.lt_of_le_of_lt (Nat.sub_le_sub_right hnat _) (by decide)
  rw [digitValue?, if_pos hrange, Option.filter_some, if_pos (decide_eq_true hlt)]

theorem digitValue?_of_not_isDigit (hc : ¬ c.isDigit = true) : digitValue? 10 c = none := by
  -- letters are digits of larger bases only
  rw [digitValue?, if_neg (mt isDigit_iff.mpr hc)]
  split
  · simp
  · split <;> simp

/-! ## The digits of a number -/

theorem isDigit_toDigits (hc : c ∈ Nat.toDigits 10 n) : c.isDigit = true :=
  Nat.isDigit_of_mem_toDigits (by decide) (by decide) hc

theorem numberOf_toDigits (n : Nat) : numberOf 10 (Nat.toDigits 10 n) = n := by
  have hfold : ∀ (cs : List Char) (m : Nat), (∀ c ∈ cs, c.isDigit = true) →
      cs.foldl (fun n c => n * 10 + (digitValue? 10 c).getD 0) m =
        cs.foldl (fun n c => 10 * n + (c.toNat - '0'.toNat)) m := by
    intro cs
    induction cs with
    | nil => exact fun _ _ => rfl
    | cons c cs ih =>
      intro m hcs
      rw [List.foldl_cons, List.foldl_cons, digitValue?_of_isDigit (hcs c List.mem_cons_self), Nat.mul_comm]
      exact ih _ fun d hd => hcs d (List.mem_cons_of_mem c hd)
  rw [numberOf, hfold _ _ fun c => isDigit_toDigits, ← Nat.ofDigitChars_eq_foldl,
    Nat.ofDigitChars_toDigits (by decide) (by decide)]

theorem toDigits_inj (h : Nat.toDigits 10 m = Nat.toDigits 10 n) : m = n :=
  calc m = numberOf 10 (Nat.toDigits 10 m) := (numberOf_toDigits m).symm
    _ = numberOf 10 (Nat.toDigits 10 n) := by rw [h]
    _ = n := numberOf_toDigits n

theorem colon_notMem_toDigits (n : Nat) : ':' ∉ Nat.toDigits 10 n := by
  intro hcolon
  exact absurd (isDigit_toDigits hcolon) (by decide)

/-! ## More digits -/

theorem le_ofDigitChars (cs : List Char) (n : Nat) : n ≤ Nat.ofDigitChars 10 cs n := by
  rw [Nat.ofDigitChars_eq_ofDigitChars_zero]
  exact Nat.le_add_right_of_le (Nat.le_mul_of_pos_left n (Nat.pow_pos (by decide)))

end TileRealm.Text
