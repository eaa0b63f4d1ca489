import TileRealm.Decimal.Fixed

/-!
# The nearest double

The double nearest to an exact value, of two nearest ones the one with the even mantissa.  A double
is `m * 2 ^ k` with a mantissa below `2 ^ 53`; the smallest exponent is -1074, and its bits are the
number `(k + 1074) * 2 ^ 52 + m`, up to the bits of the infinities.

* `nearest`: the bits of the double nearest to a quotient.
* `ofDecimal`: the bits of the double nearest to digits with an exponent of ten.
-/

set_option autoImplicit false

namespace TileRealm.Decimal

/-- The bits of infinity. -/
def infinityBits : Nat := 2047 <<< 52

/-- The bits of what is no number. -/
def notANumberBits : Nat := infinityBits + (1 <<< 51)

/-- The largest whole number `e` with `2 ^ e ≤ num / den`. -/
def logQuotient (num den : Nat) : Int :=
  let e : Int := (num.log2 : Int) - den.log2
  let reached := match e with
    | .ofNat n => decide (den <<< n ≤ num)
    | .negSucc n => decide (den ≤ num <<< (n + 1))
  if reached then e else e - 1

/-- The bits of the double nearest to `num / den`, which is not negative. -/
def nearest (num den : Nat) : Nat :=
  if num = 0 then 0
  else
    let k := max (logQuotient num den - 52) (-1074)
    let m := match k with
      | .ofNat n => roundHalfEven num (den <<< n)
      | .negSucc n => roundHalfEven (num <<< (n + 1)) den
    min (((k + 1074).toNat <<< 52) + m) infinityBits

/-- The bits of the double nearest to `digits * 10 ^ exponent`, with its sign.  Beyond 400 places
before or behind the point the value is known without computing the power. -/
def ofDecimal (negative : Bool) (digits : Nat) (exponent : Int) : UInt64 :=
  let places : Int := (Nat.toDigits 10 digits).length + exponent
  let bits :=
    if digits = 0 ∨ places < -400 then 0
    else if 400 < places then infinityBits
    else
      match exponent with
      | .ofNat n => nearest (digits * Nat.pow 10 n) 1
      | .negSucc n => nearest digits (Nat.pow 10 (n + 1))
  UInt64.ofNat (if negative then (1 <<< 63) + bits else bits)

end TileRealm.Decimal
