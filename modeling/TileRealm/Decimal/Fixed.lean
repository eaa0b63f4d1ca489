/-!
# Decimals with a fixed number of places

A double is `m * 2 ^ q` for a whole number `m`; its decimal with a fixed number of places is the
nearest one to that exact value, and of two nearest ones the even one.

* `roundHalfEven`: a quotient rounded to the nearest whole number, ties to even.
* `Exact.ofFloat`: the exact value of a double.
* `fixed`: the decimal text.
-/

set_option autoImplicit false

namespace TileRealm.Decimal

/-- The whole number nearest to `num / den`; of two nearest ones the even one. -/
def roundHalfEven (num den : Nat) : Nat :=
  let q := num / den
  let twice := 2 * (num % den)
  if twice < den then q
  else if den < twice then q + 1
  else if q % 2 = 0 then q else q + 1

/-- What a double stands for. -/
inductive Exact where
  | finite (negative : Bool) (mantissa : Nat) (exponent : Int)
  | infinite (negative : Bool)
  | notANumber

namespace Exact

/-- Takes a double apart into its exact value, `± mantissa * 2 ^ exponent`. -/
def ofFloat (x : Float) : Exact :=
  let bits : Nat := x.toBits.toNat
  let negative := decide (bits >>> 63 = 1)
  let biased : Nat := (bits >>> 52) % (1 <<< 11)
  let fraction : Nat := bits % (1 <<< 52)
  if biased = 2047 then
    if fraction = 0 then infinite negative else notANumber
  else if biased = 0 then finite negative fraction (-1074)
  else finite negative ((1 <<< 52) + fraction) ((biased : Int) - 1075)

/-- `mantissa * 2 ^ exponent * 10 ^ places`, rounded to a whole number, ties to even. -/
def scaled (mantissa : Nat) (exponent : Int) (places : Nat) : Nat :=
  match exponent with
  | .ofNat e => (mantissa <<< e) * Nat.pow 10 places
  | .negSucc e => roundHalfEven (mantissa * Nat.pow 10 places) (1 <<< (e + 1))

end Exact

/-- A number below `10 ^ width` in exactly `width` digits. -/
def padded (width n : Nat) : List Char :=
  let digits := Nat.toDigits 10 n
  List.replicate (width - digits.length) '0' ++ digits

/-- The decimal of a double with the given number (at least one) of places. -/
def fixed (places : Nat) (x : Float) : String :=
  match Exact.ofFloat x with
  | .notANumber => "NaN"
  | .infinite negative => if negative then "-inf" else "inf"
  | .finite negative mantissa exponent =>
    let n := Exact.scaled mantissa exponent places
    let power := Nat.pow 10 places
    let sign := if negative then ['-'] else []
    String.ofList (sign ++ Nat.toDigits 10 (n / power) ++ '.' :: padded places (n % power))

end TileRealm.Decimal
