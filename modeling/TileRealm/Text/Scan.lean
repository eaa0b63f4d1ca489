/-!
# Scanning text

A scan reads a value from the front of a list of characters and leaves the rest, or fails.  A choice
`a <|> b` starts over at the same place when its first part fails.

* `Scan.satisfy`, `Scan.char`, `Scan.literal`, `Scan.takeWhile1`: the small scans.
* `Scan.sepBy1`: repetition, bounded by a number that the length of the text exceeds.
* `Scan.whole`: a scan that has to read the whole text.
-/

set_option autoImplicit false

namespace TileRealm.Text

/-- Reads a value from the front of a list of characters. -/
abbrev Scan (α : Type) : Type :=
  StateT (List Char) Option α

namespace Scan

variable {α β : Type}

/-- Fails. -/
def fail : Scan α := fun _ => none

/-- The next character, which is left where it is. -/
def peek : Scan (Option Char) := fun cs => some (cs.head?, cs)

/-- The next character, if it is of the given kind. -/
def satisfy (p : Char → Bool) : Scan Char
  | [] => none
  | c :: cs => if p c then some (c, cs) else none

/-- The given character. -/
def char (c : Char) : Scan Unit
  | [] => none
  | d :: cs => if d = c then some ((), cs) else none

/-- The given characters. -/
def literal : List Char → Scan Unit
  | [], cs => some ((), cs)
  | c :: expected, cs =>
    match char c cs with
    | some (_, rest) => literal expected rest
    | none => none

/-- The longest run, which may not be empty, of characters of the given kind. -/
def takeWhile1 (p : Char → Bool) : Scan (List Char) := fun cs =>
  match cs.takeWhile p with
  | [] => none
  | run => some (run, cs.dropWhile p)

/-- Skips the longest run of characters of the given kind. -/
def skipWhile (p : Char → Bool) : Scan Unit := fun cs => some ((), cs.dropWhile p)

/-- The value of a scan that may fail; a failure reads nothing. -/
def optional (scan : Scan α) : Scan (Option α) := fun cs =>
  match scan cs with
  | some (value, rest) => some (some value, rest)
  | none => some (none, cs)

/-- One value after the other with a separator between them, at most as many as the bound says. -/
def sepBy1 (item : Scan α) (separator : Scan β) : Nat → Scan (List α)
  | 0, _ => none
  | bound + 1, cs =>
    match item cs with
    | none => none
    | some (value, rest) =>
      match separator rest with
      | none => some ([value], rest)
      | some (_, rest) =>
        match sepBy1 item separator bound rest with
        | some (values, rest) => some (value :: values, rest)
        | none => none

/-- The value of a scan that reads the whole text. -/
def whole (scan : Scan α) (cs : List Char) : Option α :=
  match scan cs with
  | some (value, []) => some value
  | _ => none

end Scan

end TileRealm.Text
