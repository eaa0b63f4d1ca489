import TileRealm.Proofs.Binary
import TileRealm.Proofs.Terrain.Answer
import TileRealm.Terrain.Snapshot

/-!
# Terrain that is read from bytes

The bytes of a terrain say how large it is and what its store holds, and nothing in them makes the two agree.

- `Store.codec_decode`, `Terrain.codec_decode`: what is read is the stored form of some terrain, of any whose store is
  not too long, and nothing else;
- `Terrain.decode_guarded`: which of the terrains that are read keep to their store in all that they are asked;
- `Terrain.decode_unguarded`: bytes of which a terrain without a store is read.
-/

set_option autoImplicit false

namespace TileRealm

open Binary (Codec codec_number codec_flag)

namespace Store

/-- The number of values or words. -/
def length : Store → Nat
  | dense cells => cells.size
  | bitmap words => words.size

theorem codec_word : Codec (fun _ => True) (fun w : UInt64 => Binary.encode 8 w.toNat) decodeWord :=
  (codec_number 8).convert (fun w => w.toNat_lt) (fun _ => UInt64.ofNat_toNat)
    fun _ hn => UInt64.toNat_ofNat_of_lt' hn

/-- Stores are read if their length fits in eight bytes. -/
theorem codec_decode : Codec (fun s => s.length < 256 ^ 8) encode decode := by
  intro bytes s rest
  simp only [decode, Option.bind_eq_bind, Option.bind_eq_some_iff, Prod.exists]
  constructor
  · rintro ⟨kind, bytes', hkind, hstore⟩
    obtain ⟨-, rfl⟩ := (codec_number 4 _ _ _).mp hkind
    split at hstore
    · obtain ⟨⟨cells, rest'⟩, hcells, heq⟩ := Option.map_eq_some_iff.mp hstore
      cases heq
      obtain ⟨⟨hlen, -⟩, rfl⟩ := (codec_flag.counted _ _ _).mp hcells
      exact ⟨by simpa [length] using hlen, by simp [encode]⟩
    · obtain ⟨⟨words, rest'⟩, hwords, heq⟩ := Option.map_eq_some_iff.mp hstore
      cases heq
      obtain ⟨⟨hlen, -⟩, rfl⟩ := (codec_word.counted _ _ _).mp hwords
      exact ⟨by simpa [length] using hlen, by simp [encode]⟩
    · cases hstore
  · rintro ⟨hlen, rfl⟩
    cases s with
    | dense cells =>
      refine ⟨0, _, (codec_number 4 _ _ _).mpr ⟨by decide, List.append_assoc _ _ _⟩, ?_⟩
      exact Option.map_eq_some_iff.mpr
        ⟨(cells.toList, rest), (codec_flag.counted _ _ _).mpr ⟨⟨hlen, fun _ _ => trivial⟩, rfl⟩, rfl⟩
    | bitmap words =>
      refine ⟨1, _, (codec_number 4 _ _ _).mpr ⟨by decide, List.append_assoc _ _ _⟩, ?_⟩
      exact Option.map_eq_some_iff.mpr
        ⟨(words.toList, rest), (codec_word.counted _ _ _).mpr ⟨⟨hlen, fun _ _ => trivial⟩, rfl⟩, rfl⟩

end Store

namespace Terrain

/-- Terrains are read if the length of their store fits in eight bytes, whatever their sides are. -/
theorem codec_decode : Codec (fun t => t.store.length < 256 ^ 8) encode decode := by
  intro bytes t rest
  simp only [decode, Option.bind_eq_bind, Option.bind_eq_some_iff, Prod.exists, Option.pure_def, Option.some_inj,
    Prod.mk.injEq]
  constructor
  · rintro ⟨width, bytes₁, hwidth, height, bytes₂, hheight, store, rest', hstore, rfl, rfl⟩
    obtain ⟨hw, rfl⟩ := (codec_number 4 _ _ _).mp hwidth
    obtain ⟨hh, rfl⟩ := (codec_number 4 _ _ _).mp hheight
    obtain ⟨hlen, rfl⟩ := (Store.codec_decode _ _ _).mp hstore
    refine ⟨hlen, ?_⟩
    rw [encode, UInt32.toNat_ofNat_of_lt' hw, UInt32.toNat_ofNat_of_lt' hh, List.append_assoc, List.append_assoc]
  · rintro ⟨hlen, rfl⟩
    refine ⟨t.width.toNat, _, (codec_number 4 _ _ _).mpr ⟨t.width.toNat_lt, ?_⟩, t.height.toNat, _,
      (codec_number 4 _ _ _).mpr ⟨t.height.toNat_lt, rfl⟩, t.store, rest,
      (Store.codec_decode _ _ _).mpr ⟨hlen, rfl⟩, ?_, rfl⟩
    · rw [encode, List.append_assoc, List.append_assoc]
    · rw [UInt32.ofNat_toNat, UInt32.ofNat_toNat]

/-- **What is read from bytes.** A terrain is read from bytes just if they start with its stored form.  It keeps to its
store just if it has tiles and its store has a place for each of them, and does so after any requests if it did before;
in particular if its store had the right size, and then the store still has it. -/
theorem decode_guarded (bytes : List UInt8) (t : Terrain) (rest : List UInt8) :
    (decode bytes = some (t, rest) ↔ t.store.length < 256 ^ 8 ∧ bytes = t.encode ++ rest) ∧
      (t.Guarded ↔ 0 < t.width ∧ 0 < t.height ∧ t.store.Covers t.area) ∧
      (t.Guarded → ∀ requests, (t.after requests).Guarded) ∧
      (t.WellFormed → ∀ requests, (t.after requests).WellFormed ∧ (t.after requests).Guarded) := by
  refine ⟨codec_decode bytes t rest, guarded_iff, fun ht requests => ht.after requests, fun ht requests => ?_⟩
  exact ⟨ht.after requests, (ht.after requests).guarded⟩

/-- Four tiles without a store are read from bytes, and the first of them has no place. -/
theorem decode_unguarded :
    let t : Terrain := ⟨2, 2, .dense #[]⟩
    decode [2, 0, 0, 0, 2, 0, 0, 0, 0, 0, 0, 0, 0, 0, 0, 0, 0, 0, 0, 0] = some (t, []) ∧ ¬ t.WellFormed ∧
      t.index? 0 0 = some 0 ∧ ¬ t.store.Holds 0 := by
  refine ⟨by decide, fun ht => ?_, by decide, by decide⟩
  exact absurd ht.fits (by decide)

end Terrain

end TileRealm
