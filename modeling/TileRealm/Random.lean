/-!
# Random numbers

A reproducible stream of 32-bit words: the twelve-round key stream of a block cipher whose key is
drawn from a 64-bit seed.  Whole blocks are made in the order of a counter, and the words of a block
are used in order.

* `Stream.seeded`: the stream of a seed.
* `Stream.word`: the next word.
* `Stream.below`, `Stream.between`: a number below a bound, or in a range, each equally likely.
-/

set_option autoImplicit false

namespace TileRealm.Random

/-! ## Blocks -/

/-- Four words of the cipher's state. -/
structure Row where
  a : UInt32
  b : UInt32
  c : UInt32
  d : UInt32
deriving DecidableEq

namespace Row

/-- A function of two words on each place. -/
def zip (f : UInt32 → UInt32 → UInt32) (p q : Row) : Row :=
  ⟨f p.a q.a, f p.b q.b, f p.c q.c, f p.d q.d⟩

/-- Each word with its bits turned to the left. -/
def turn (n : UInt32) (p : Row) : Row :=
  let left (w : UInt32) := (w <<< n) ||| (w >>> (32 - n))
  ⟨left p.a, left p.b, left p.c, left p.d⟩

/-- The words moved to the left by one place. -/
def rotate (p : Row) : Row :=
  ⟨p.b, p.c, p.d, p.a⟩

/-- The four words in order. -/
def words (p : Row) : List UInt32 :=
  [p.a, p.b, p.c, p.d]

end Row

/-- Sixteen words of the cipher's state. -/
structure Block where
  r0 : Row
  r1 : Row
  r2 : Row
  r3 : Row
deriving DecidableEq

namespace Block

/-- Mixes each of the four columns. -/
def columns (m : Block) : Block :=
  let r0 := m.r0.zip (· + ·) m.r1
  let r3 := (m.r3.zip (· ^^^ ·) r0).turn 16
  let r2 := m.r2.zip (· + ·) r3
  let r1 := (m.r1.zip (· ^^^ ·) r2).turn 12
  let r0 := r0.zip (· + ·) r1
  let r3 := (r3.zip (· ^^^ ·) r0).turn 8
  let r2 := r2.zip (· + ·) r3
  let r1 := (r1.zip (· ^^^ ·) r2).turn 7
  ⟨r0, r1, r2, r3⟩

/-- Moves the diagonals into the columns. -/
def slant (m : Block) : Block :=
  ⟨m.r0, m.r1.rotate, m.r2.rotate.rotate, m.r3.rotate.rotate.rotate⟩

/-- Moves the columns back into the diagonals. -/
def unslant (m : Block) : Block :=
  ⟨m.r0, m.r1.rotate.rotate.rotate, m.r2.rotate.rotate, m.r3.rotate⟩

/-- Two rounds: one on the columns, one on the diagonals. -/
def doubleRound (m : Block) : Block :=
  m.columns.slant.columns.unslant

/-- The sum of two blocks, word by word. -/
def add (m n : Block) : Block :=
  ⟨m.r0.zip (· + ·) n.r0, m.r1.zip (· + ·) n.r1, m.r2.zip (· + ·) n.r2, m.r3.zip (· + ·) n.r3⟩

/-- The output of twelve rounds. -/
def output (m : Block) : Block :=
  m.doubleRound.doubleRound.doubleRound.doubleRound.doubleRound.doubleRound.add m

/-- The sixteen words in order. -/
def words (m : Block) : List UInt32 :=
  m.r0.words ++ m.r1.words ++ m.r2.words ++ m.r3.words

end Block

/-! ## Streams -/

/-- A stream: the key, the number of the next block and the words left of the last one. -/
structure Stream where
  low : Row
  high : Row
  counter : UInt64
  rest : List UInt32
deriving DecidableEq

namespace Stream

/-- The constant first row of every block, "expand 32-byte k". -/
def constants : Row :=
  ⟨0x61707865, 0x3320646e, 0x79622d32, 0x6b206574⟩

/-- The words of the block with the given number. -/
def blockWords (low high : Row) (counter : UInt64) : List UInt32 :=
  (Block.mk constants low high ⟨counter.toUInt32, (counter >>> 32).toUInt32, 0, 0⟩).output.words

/-- The next word. -/
def word (s : Stream) : UInt32 × Stream :=
  match s.rest with
  | w :: rest => (w, { s with rest })
  | [] =>
    match blockWords s.low s.high s.counter with
    | w :: rest => (w, { s with counter := s.counter + 1, rest })
    | [] => (0, s)

/-- One step of the generator that stretches a seed into a key: a word and the next state. -/
def stretch (state : UInt64) : UInt32 × UInt64 :=
  let state := state * 6364136223846793005 + 11634580027462260723
  let w := (((state >>> 18) ^^^ state) >>> 27).toUInt32
  let n := (state >>> 59).toUInt32
  ((w >>> n) ||| (w <<< ((32 - n) % 32)), state)

/-- The stream of a seed. -/
def seeded (seed : UInt64) : Stream :=
  let (a, s) := stretch seed
  let (b, s) := stretch s
  let (c, s) := stretch s
  let (d, s) := stretch s
  let (e, s) := stretch s
  let (f, s) := stretch s
  let (g, s) := stretch s
  let (h, _) := stretch s
  ⟨⟨a, b, c, d⟩, ⟨e, f, g, h⟩, 0, []⟩

/-! ## Numbers in a range -/

/-- The number of words after which every stream repeats: `2 ^ 64` blocks of sixteen. -/
def period : Nat := 1 <<< 68

/-- The largest low half of a product that keeps all results equally likely. -/
def zone (bound : UInt32) : Nat :=
  (bound.toNat <<< (31 - Nat.log2 bound.toNat)) - 1

/-- Draws words until one is in the zone, at most as often as `tries` says. -/
def belowWithin (bound : UInt32) : Nat → Stream → UInt32 × Stream
  | 0, s => (0, s)
  | tries + 1, s =>
    let (w, s) := s.word
    let product := w.toNat * bound.toNat
    if product % UInt32.size ≤ zone bound then (UInt32.ofNat (product / UInt32.size), s)
    else belowWithin bound tries s

/-- A number below a positive bound.  A draw that fails for a whole period never succeeds. -/
def below (bound : UInt32) (s : Stream) : UInt32 × Stream :=
  belowWithin bound period s

/-- A number from `lo` up to, but not including, `hi`. -/
def between (lo hi : UInt32) (s : Stream) : UInt32 × Stream :=
  let (n, s) := s.below (hi - lo)
  (lo + n, s)

end Stream

end TileRealm.Random
