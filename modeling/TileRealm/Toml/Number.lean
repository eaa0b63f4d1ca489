import TileRealm.Decimal.Nearest
import TileRealm.Text.Digit
import TileRealm.Toml
import TileRealm.Toml.Line

/-!
# Numbers

Integers are decimal with a sign, or hexadecimal, octal or binary without one, and have to fit into
64 bits.  Floats have a fraction, an exponent or both, or are one of the words `inf` and `nan`.  An
underscore may stand between two digits.

* `integer`, `float`: the two kinds of numbers.
-/

set_option autoImplicit false

namespace TileRealm.Toml

open Text

/-- Digits of a base, at least one, with single underscores between them. -/
def digits (base : Nat) : Reading (List Char) := do
  let digit := Reading.satisfy (isDigitOf base)
  let first ← digit
  let rest ← Reading.many (digit <|> (do
    Reading.char '_'
    (digit.expecting ["digit"]).final))
  return first :: rest

/-- A sign, true for minus. -/
def sign : Reading Bool := do
  match ← Reading.optional (Reading.satisfy fun c => c = '+' || c = '-') with
  | some c => return c = '-'
  | none => return false

/-- A sign and decimal digits without leading zeros. -/
def signedDigits : Reading (Bool × List Char) :=
  Reading.named "integer" do
    let negative ← sign
    match ← Reading.peek with
    | some '0' =>
      Reading.char '0'
      return (negative, ['0'])
    | _ => return (negative, ← digits 10)

/-! ## Integers -/

/-- A number as an integer of 64 bits, or what is wrong with it. -/
def fitting (n : Int) : Except String Value :=
  if n < Int64.minValue.toInt then .error "number too small to fit in target type"
  else if n ≤ Int64.maxValue.toInt then .ok (.integer n)
  else .error "number too large to fit in target type"

/-- An integer with a letter for its base. -/
def based (letter : Char) (base : Nat) (name : String) : Reading Int := do
  Reading.named name do
    Reading.literal ['0', letter]
    return numberOf base (← (digits base).final)

/-- A decimal integer. -/
def decimal : Reading Int := do
  let (negative, digits) ← signedDigits
  let n : Int := numberOf 10 digits
  return if negative then -n else n

/-- An integer of any base that fits into 64 bits. -/
def integer : Reading Value :=
  (based 'x' 16 "hexadecimal integer" <|> based 'o' 8 "octal integer"
    <|> based 'b' 2 "binary integer" <|> decimal).checkedFinally fitting

/-! ## Floats -/

/-- A point and the digits behind it. -/
def fraction : Reading (List Char) := do
  Reading.char '.'
  ((digits 10).expecting ["digit"]).final

/-- An exponent. -/
def exponent : Reading Int := do
  let _ ← Reading.satisfy fun c => c = 'e' || c = 'E'
  let negative ← sign
  let n : Int := numberOf 10 (← (digits 10).final)
  return if negative then -n else n

/-- What stands behind the whole digits of a float: a fraction, an exponent or both. -/
def behindWhole : Reading (List Char × Int) :=
  (do return ([], ← exponent))
    <|> (do
      let behind ← fraction
      return (behind, (← Reading.optional exponent).getD 0))

/-- A float in digits; one too large for a double is refused, unless it is negative. -/
def decimalFloat : Reading Value :=
  Reading.sieved
    (fun bits => if bits.toNat = Decimal.infinityBits then none else some (.float bits)) do
      let (negative, whole) ← signedDigits
      let (behind, power) ← behindWhole
      return Decimal.ofDecimal negative (numberOf 10 (whole ++ behind)) (power - behind.length)

/-- The word for infinity. -/
def infinity : Reading Nat := do
  Reading.literal ['i', 'n', 'f']
  return Decimal.infinityBits

/-- The word for what is no number. -/
def notANumber : Reading Nat := do
  Reading.literal ['n', 'a', 'n']
  return Decimal.notANumberBits

/-- An infinity, or what is no number. -/
def wordFloat : Reading Value := do
  let negative ← sign
  let bits ← infinity <|> notANumber
  return .float (UInt64.ofNat (if negative then (1 <<< 63) + bits else bits))

/-- A float. -/
def float : Reading Value :=
  (decimalFloat <|> wordFloat).named "floating-point number"

end TileRealm.Toml
