/-!
# Fixed-width binary data

Numbers are written with their lowest byte first, at a width that their place fixes; lists carry
their length in eight bytes in front.  Reading takes what it needs from the front and leaves the
rest.

* `Binary.encode`: the bytes of a number at a width.
* `Binary.Reader`: a reader of a value from the front of a byte string; too few bytes is a failure.
* `Binary.decode_encode`: what was written is read back, whatever follows.
-/

set_option autoImplicit false

namespace TileRealm.Binary

/-- The `width` lowest bytes of a number, the lowest first. -/
def encode : Nat → Nat → List UInt8
  | 0, _ => []
  | width + 1, n => UInt8.ofNat n :: encode width (n / 256)

/-- Reads a value from the front of a byte string and gives what is left. -/
abbrev Reader (α : Type) : Type :=
  List UInt8 → Option (α × List UInt8)

/-- A number of `width` bytes, the lowest first. -/
def decode : Nat → Reader Nat
  | 0, bytes => some (0, bytes)
  | _ + 1, [] => none
  | width + 1, byte :: bytes =>
    match decode width bytes with
    | some (high, rest) => some (byte.toNat + 256 * high, rest)
    | none => none

/-- As many values as the number says, one after the other. -/
def many {α : Type} (item : Reader α) : Nat → Reader (List α)
  | 0, bytes => some ([], bytes)
  | count + 1, bytes =>
    match item bytes with
    | none => none
    | some (value, rest) =>
      match many item count rest with
      | some (values, rest) => some (value :: values, rest)
      | none => none

/-- A truth value in one byte, which has to be 0 or 1. -/
def flag : Reader Bool
  | 0 :: rest => some (false, rest)
  | 1 :: rest => some (true, rest)
  | _ => none

/-- The byte of a truth value. -/
def encodeFlag (b : Bool) : UInt8 :=
  if b then 1 else 0

/-- A list behind its length in eight bytes. -/
def counted {α : Type} (item : Reader α) : Reader (List α) := fun bytes =>
  match decode 8 bytes with
  | some (count, rest) => many item count rest
  | none => none

/-- The length of a list in eight bytes, then its values. -/
def encodeCounted {α : Type} (item : α → List UInt8) (values : List α) : List UInt8 :=
  encode 8 values.length ++ values.flatMap item

/-- A number that fits the width is read back, and what follows it is left. -/
theorem decode_encode (width n : Nat) (rest : List UInt8) (h : n < Nat.pow 256 width) :
    decode width (encode width n ++ rest) = some (n, rest) := by
  induction width generalizing n with
  | zero =>
    have : n = 0 := by simpa using h
    simp [encode, decode, this]
  | succ width ih =>
    have hhigh : n / 256 < Nat.pow 256 width := Nat.div_lt_of_lt_mul (by rwa [Nat.mul_comm])
    simp only [encode, List.cons_append, decode, ih (n / 256) hhigh]
    simp [UInt8.toNat_ofNat']
    omega

end TileRealm.Binary
