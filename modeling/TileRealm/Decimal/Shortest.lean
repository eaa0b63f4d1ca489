import TileRealm.Decimal.Nearest

/-!
# The shortest decimal of a double

A double is written with the fewest digits that read back as the same double; of several such
decimals the nearest to its exact value is taken.  The text is positional, and a whole number has a
zero behind its point.

* `shortestDigits`: the digits with their exponent of ten.
* `shortest`: the decimal text.
-/

set_option autoImplicit false

namespace TileRealm.Decimal

/-- The least whole number `p` with `num / den < 10 ^ p`, for a quotient that is not zero. -/
def decimalOrder (num den : Nat) : Int :=
  if den ≤ num then (Nat.toDigits 10 (num / den)).length
  else 1 - ((Nat.toDigits 10 ((den - 1) / num)).length : Int)

/-- A quotient times `10 ^ exponent`, again as a quotient. -/
def shifted (num den : Nat) : Int → Nat × Nat
  | .ofNat n => (num * Nat.pow 10 n, den)
  | .negSucc n => (num, den * Nat.pow 10 (n + 1))

/-- Of the two multiples of `10 ^ exponent` around `num / den`, the nearest that reads back as the
double with the given bits, divided by that power; a tie goes to the greater. -/
def gridHit? (bits : UInt64) (num den : Nat) (exponent : Int) : Option Nat :=
  let (num, den) := shifted num den (-exponent)
  let low := num / den
  let hits := [low, low + 1].filter (ofDecimal false · exponent = bits)
  match hits with
  | [low, high] => some (if 2 * (num % den) < den then low else high)
  | hits => hits.head?

/-- The fewest digits, from `count` on, that read back as the double with the given bits, which is
`num / den`, with their exponent of ten; at most `left` more digits are tried.  Digits that carry into
one more are a power of ten, which takes one digit. -/
def digitsFrom (bits : UInt64) (num den : Nat) : Nat → Nat → Nat × Int
  | count, left =>
    let exponent := decimalOrder num den - count
    match gridHit? bits num den exponent, left with
    | some n, _ => if n = Nat.pow 10 count then (1, exponent + count) else (n, exponent)
    | none, 0 => (0, 0)
    | none, left + 1 => digitsFrom bits num den (count + 1) left

/-- The fewest digits that read back as `mantissa * 2 ^ exponent`, with their exponent of ten. -/
def shortestDigits (bits : UInt64) (mantissa : Nat) (exponent : Int) : Nat × Int :=
  if mantissa = 0 then (0, 0)
  else
    let (num, den) := match exponent with
      | .ofNat n => (mantissa <<< n, 1)
      | .negSucc n => (mantissa, 1 <<< (n + 1))
    digitsFrom bits num den 1 16

/-- `digits * 10 ^ exponent` in positional notation, with a point. -/
def positional (digits : Nat) : Int → List Char
  | .ofNat n => Nat.toDigits 10 (digits * Nat.pow 10 n) ++ ['.', '0']
  | .negSucc n =>
    let power := Nat.pow 10 (n + 1)
    Nat.toDigits 10 (digits / power) ++ '.' :: padded (n + 1) (digits % power)

/-- The decimal of a double. -/
def shortest (x : Float) : String :=
  match Exact.ofFloat x with
  | .notANumber => "NaN"
  | .infinite negative => if negative then "-inf" else "inf"
  | .finite negative mantissa exponent =>
    let magnitude := UInt64.ofNat (x.toBits.toNat % (1 <<< 63))
    let (digits, exponent) := shortestDigits magnitude mantissa exponent
    String.ofList ((if negative then ['-'] else []) ++ positional digits exponent)

end TileRealm.Decimal
