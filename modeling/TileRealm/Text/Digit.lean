/-!
# Digits

Digits of a base up to 36 stand for numbers, and numbers for characters.

* `digitValue?`, `numberOf`: the value of one digit and of several.
* `charOf?`: the character with a code point.
-/

set_option autoImplicit false

namespace TileRealm.Text

/-- The value of a digit in a base up to 36, in either case. -/
def digitValue? (base : Nat) (c : Char) : Option Nat :=
  let value? :=
    if '0' ≤ c ∧ c ≤ '9' then some (c.toNat - '0'.toNat)
    else if 'a' ≤ c ∧ c ≤ 'z' then some (c.toNat - 'a'.toNat + 10)
    else if 'A' ≤ c ∧ c ≤ 'Z' then some (c.toNat - 'A'.toNat + 10)
    else none
  value?.filter (· < base)

/-- Whether a character is a digit of a base. -/
def isDigitOf (base : Nat) (c : Char) : Bool :=
  (digitValue? base c).isSome

/-- The number that digits of a base stand for; other characters count as 0. -/
def numberOf (base : Nat) (digits : List Char) : Nat :=
  digits.foldl (fun n c => n * base + (digitValue? base c).getD 0) 0

/-- The character with a code point, unless it is none or half a surrogate pair. -/
def charOf? (code : Nat) : Option Char :=
  if code.isValidChar then some (Char.ofNat code) else none

end TileRealm.Text
