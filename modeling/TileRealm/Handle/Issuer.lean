import TileRealm.Handle
import TileRealm.Binary

/-!
# Issuing handles

An issuer counts per kind tag.  When the indices of a tag are used up, counting starts again in the
next epoch, so that a reused index does not give an old handle back.

* `Issuer.issue`: the next handle of a kind.
* `Issuer.encode`, `Issuer.decode`: the stored form of an issuer.
-/

set_option autoImplicit false

namespace TileRealm

/-- Where one tag stands: the last index given out and the current epoch. -/
structure Counter where
  lastIndex : UInt64
  epoch : UInt8
deriving DecidableEq

namespace Counter

/-- A tag of which nothing has been issued. -/
def fresh : Counter :=
  ⟨0, 0⟩

/-- One more index, in the next epoch (of 256) once the limit is reached. -/
def next (limit : UInt64) (c : Counter) : Counter :=
  if c.lastIndex ≥ limit then ⟨1, c.epoch + 1⟩ else ⟨c.lastIndex + 1, c.epoch⟩

end Counter

/-- Gives out handles; its counters are independent of those of any other issuer. -/
structure Issuer where
  counters : Std.ExtTreeMap UInt8 Counter
  limit : UInt64
  issued : UInt64

namespace Issuer

/-- An issuer whose indices run from 1 to the limit, brought into `1 ..= maxIndex`. -/
def withLimit (limit : UInt64) : Issuer where
  counters := ∅
  limit := min (max limit 1) maxIndex
  issued := 0

/-- An issuer that uses every index. -/
def fresh : Issuer :=
  withLimit maxIndex

/-- The next handle of a kind, with the issuer after it. -/
def issue (issuer : Issuer) (kind : Kind) : Handle × Issuer :=
  let counter := ((issuer.counters[kind.tag]?).getD .fresh).next issuer.limit
  (Handle.pack kind counter.epoch counter.lastIndex,
    { issuer with
      counters := issuer.counters.insert kind.tag counter
      issued := issuer.issued + 1 })

/-- Issues as many handles of a kind as asked, and gives the last one, if any. -/
def issueMany (issuer : Issuer) (kind : Kind) : Nat → Option Handle × Issuer
  | 0 => (none, issuer)
  | 1 => ((issuer.issue kind).1, (issuer.issue kind).2)
  | count + 1 => (issuer.issue kind).2.issueMany kind count

/-! ## Stored form -/

/-- The stored form of the counter of one tag: the tag, the last index, the epoch. -/
def encodeCounter (entry : UInt8 × Counter) : List UInt8 :=
  entry.1 :: Binary.encode 8 entry.2.lastIndex.toNat ++ [entry.2.epoch]

/-- The stored form of an issuer: its counters by ascending tag, the limit, the number issued. -/
def encode (issuer : Issuer) : List UInt8 :=
  Binary.encodeCounted encodeCounter issuer.counters.toList
    ++ Binary.encode 8 issuer.limit.toNat ++ Binary.encode 8 issuer.issued.toNat

/-- Reads the counter of one tag. -/
def decodeCounter : Binary.Reader (UInt8 × Counter)
  | [] => none
  | tag :: bytes =>
    match Binary.decode 8 bytes with
    | some (lastIndex, epoch :: rest) => some ((tag, ⟨UInt64.ofNat lastIndex, epoch⟩), rest)
    | _ => none

/-- Reads an issuer; of two counters of one tag the later one holds. -/
def decode : Binary.Reader Issuer := fun bytes => do
  let (counters, bytes) ← Binary.counted decodeCounter bytes
  let (limit, bytes) ← Binary.decode 8 bytes
  let (issued, rest) ← Binary.decode 8 bytes
  let table := counters.foldl (fun table entry => table.insert entry.1 entry.2) ∅
  return (⟨table, UInt64.ofNat limit, UInt64.ofNat issued⟩, rest)

end Issuer

end TileRealm
