/-!
# Reading text with complaints

A reading takes a value from the front of a text and leaves the rest, or finds fault with the text
at a place.  A choice `a <|> b` starts over at the same place when its first part fails, unless the
fault is final: then the text was recognised for what it should be, and no other way of reading it
is tried.

* `Reading.satisfy`, `Reading.literal`, `Reading.takeWhile`: the small readings.
* `Reading.final`, `Reading.named`, `Reading.expecting`: what is said about a fault.
* `Reading.many`, `Reading.separated`: repetition, as long as there is text.
-/

set_option autoImplicit false

namespace TileRealm.Text

/-- The rest of a text, and how many characters were read before it. -/
structure Cursor where
  passed : Nat
  rest : List Char

/-- The part of a text between two numbers of characters. -/
structure Span where
  start : Nat
  stop : Nat
deriving DecidableEq, Inhabited

/-- Why a text cannot be read. -/
structure Fault where
  /-- How many characters are in front of the place. -/
  place : Nat
  /-- The name of what cannot be read; of nested parts, the innermost. -/
  part : Option String := none
  /-- What could stand at the place. -/
  expected : List String := []
  /-- What is wrong with a value that was read. -/
  cause : Option String := none
  /-- No other way of reading is tried. -/
  isFinal : Bool := false

/-- What is said about a fault: the part, what could stand there, and the cause, each on its line. -/
def Fault.message (f : Fault) : String :=
  let part := f.part.toList.map ("invalid " ++ ·)
  let expected := if f.expected.isEmpty then [] else ["expected " ++ ", ".intercalate f.expected]
  "\n".intercalate (part ++ expected ++ f.cause.toList)

/-- Takes a value from the front of a text, or finds fault with it. -/
def Reading (α : Type) : Type :=
  Cursor → Except Fault (α × Cursor)

namespace Reading

variable {α β : Type}

instance : Monad Reading where
  pure value := fun c => .ok (value, c)
  bind r f := fun c =>
    match r c with
    | .ok (value, c) => f value c
    | .error fault => .error fault

instance : OrElse (Reading α) where
  orElse a b := fun c =>
    match a c with
    | .error fault => if fault.isFinal then .error fault else b () c
    | done => done

/-! ## Faults -/

/-- A fault at this place. -/
def fail : Reading α := fun c => .error { place := c.passed }

/-- A fault at this place with a cause. -/
def failFor (cause : String) : Reading α := fun c =>
  .error { place := c.passed, cause := some cause }

/-- Finds the faults of another reading with a change to each. -/
def mapFault (change : Fault → Fault) (r : Reading α) : Reading α := fun c =>
  (r c).mapError change

/-- All faults are final. -/
def final (r : Reading α) : Reading α :=
  r.mapFault fun f => { f with isFinal := true }

/-- What is read has a name. -/
def named (part : String) (r : Reading α) : Reading α :=
  r.mapFault fun f => { f with part := f.part <|> some part }

/-- What could stand where a fault is. -/
def expecting (expected : List String) (r : Reading α) : Reading α :=
  r.mapFault fun f => { f with expected := f.expected ++ expected }

/-- The value that a check makes of what is read, or the fault that it finds. -/
def checkedBy (check : Nat → α → Except Fault β) (r : Reading α) : Reading β := fun c =>
  match r c with
  | .error fault => .error fault
  | .ok (value, rest) => (check c.passed value).map (·, rest)

/-- The value that a check makes of what is read; what fails it is at fault where it starts. -/
def checked (check : α → Except String β) (r : Reading α) : Reading β :=
  r.checkedBy fun start value =>
    (check value).mapError fun cause => { place := start, cause := some cause }

/-- The value that a check makes of what is read; what fails it is at fault for good. -/
def checkedFinally (check : α → Except String β) (r : Reading α) : Reading β :=
  r.checkedBy fun start value =>
    (check value).mapError fun cause => { place := start, cause := some cause, isFinal := true }

/-- The value that is made of what is read, unless none can be made, which is a fault for good. -/
def sieved (sieve : α → Option β) (r : Reading α) : Reading β :=
  r.checkedBy fun start value =>
    match sieve value with
    | some value => .ok value
    | none => .error { place := start, isFinal := true }

/-! ## Small readings -/

/-- How many characters are in front of this place. -/
def place : Reading Nat := fun c => .ok (c.passed, c)

/-- The next character, which is left where it is. -/
def peek : Reading (Option Char) := fun c => .ok (c.rest.head?, c)

/-- The next character. -/
def next : Reading Char := fun c =>
  match c.rest with
  | [] => .error { place := c.passed }
  | d :: rest => .ok (d, ⟨c.passed + 1, rest⟩)

/-- The next character, if it is of the given kind. -/
def satisfy (p : Char → Bool) : Reading Char := fun c =>
  match c.rest with
  | [] => .error { place := c.passed }
  | d :: rest => if p d then .ok (d, ⟨c.passed + 1, rest⟩) else .error { place := c.passed }

/-- The given character. -/
def char (d : Char) : Reading Unit := do
  let _ ← satisfy (· = d)

/-- The given characters. -/
def literal (expected : List Char) : Reading Unit := fun c =>
  if expected.isPrefixOf c.rest then
    .ok ((), ⟨c.passed + expected.length, c.rest.drop expected.length⟩)
  else .error { place := c.passed }

/-- The longest run, which may be empty, of characters of the given kind. -/
def takeWhile (p : Char → Bool) : Reading (List Char) := fun c =>
  let run := c.rest.takeWhile p
  .ok (run, ⟨c.passed + run.length, c.rest.dropWhile p⟩)

/-- The longest run, which may not be empty, of characters of the given kind. -/
def takeWhile1 (p : Char → Bool) : Reading (List Char) := do
  let first ← satisfy p
  return first :: (← takeWhile p)

/-- Just so many characters of the given kind. -/
def takeExactly (count : Nat) (p : Char → Bool) : Reading (List Char) := fun c =>
  let run := c.rest.take count
  if run.length = count ∧ run.all p then
    .ok (run, ⟨c.passed + count, c.rest.drop count⟩)
  else .error { place := c.passed }

/-- The end of the text. -/
def atEnd : Reading Unit := fun c =>
  match c.rest with
  | [] => .ok ((), c)
  | _ :: _ => .error { place := c.passed }

/-! ## Combinations -/

/-- The value of a reading whose failure, unless it is final, reads nothing. -/
def optional (r : Reading α) : Reading (Option α) :=
  (do return some (← r)) <|> pure none

/-- A value with the part of the text that it was read from. -/
def spanned (r : Reading α) : Reading (Span × α) := fun c =>
  match r c with
  | .ok (value, rest) => .ok ((⟨c.passed, rest.passed⟩, value), rest)
  | .error fault => .error fault

/-- A value with the characters that it was read from. -/
def withText (r : Reading α) : Reading (List Char × α) := fun c =>
  match r c with
  | .ok (value, rest) => .ok ((c.rest.take (rest.passed - c.passed), value), rest)
  | .error fault => .error fault

/-- Values as long as there are any, at most as many as the bound says. -/
def manyWithin (item : Reading α) : Nat → Reading (List α)
  | 0 => pure []
  | bound + 1 => do
    match ← optional item with
    | none => return []
    | some value => return value :: (← manyWithin item bound)

/-- Values as long as there are any; an item is not empty, so that the text bounds their number. -/
def many (item : Reading α) : Reading (List α) := fun c =>
  manyWithin item (c.rest.length + 1) c

/-- One value after the other with separators between them; a separator that no value follows is
left unread. -/
def separated (item : Reading α) (separator : Reading β) : Reading (List α) := do
  let first ← item
  let more ← many (do
    let _ ← separator
    item)
  return first :: more

end Reading

end TileRealm.Text
