import TileRealm.Terrain
import TileRealm.Binary

/-!
# Stored terrain

The binary form of a terrain: width, height, which kind of store, the length of the store and its
values.  Reading checks the form of the bytes and not whether the store has the size of the
rectangle.

* `Terrain.encode`, `Terrain.decode`.
-/

set_option autoImplicit false

namespace TileRealm

namespace Store

/-- The form of a store: its kind in four bytes, then its values behind their number. -/
def encode : Store → List UInt8
  | dense cells =>
    Binary.encode 4 0 ++ Binary.encodeCounted (fun b => [Binary.encodeFlag b]) cells.toList
  | bitmap words =>
    Binary.encode 4 1 ++ Binary.encodeCounted (fun w => Binary.encode 8 w.toNat) words.toList

/-- Reads a 64-bit word. -/
def decodeWord : Binary.Reader UInt64 := fun bytes =>
  (Binary.decode 8 bytes).map fun (n, rest) => (UInt64.ofNat n, rest)

/-- Reads a store. -/
def decode : Binary.Reader Store := fun bytes => do
  let (kind, bytes) ← Binary.decode 4 bytes
  match kind with
  | 0 => (Binary.counted Binary.flag bytes).map fun (cells, rest) => (dense cells.toArray, rest)
  | 1 => (Binary.counted decodeWord bytes).map fun (words, rest) => (bitmap words.toArray, rest)
  | _ => none

end Store

namespace Terrain

/-- The stored form of a terrain. -/
def encode (t : Terrain) : List UInt8 :=
  Binary.encode 4 t.width.toNat ++ Binary.encode 4 t.height.toNat ++ t.store.encode

/-- Reads a terrain from the front of a byte string. -/
def decode : Binary.Reader Terrain := fun bytes => do
  let (width, bytes) ← Binary.decode 4 bytes
  let (height, bytes) ← Binary.decode 4 bytes
  let (store, rest) ← Store.decode bytes
  return (⟨UInt32.ofNat width, UInt32.ofNat height, store⟩, rest)

end Terrain

end TileRealm
