import TileRealm.Proofs.Handle.Issuer
import TileRealm.Proofs.Terrain.Snapshot

/-!
# Stored issuers and terrains

- `Issuer.length_counters_le`, `Issuer.foldl_insert_toList`: a stored issuer holds every counter once;
- `Issuer.restores`, `Terrain.restores`: so issuers are read back from their stored form, and terrains from theirs;
- `stored_goes_on`: what was stored goes on as if it had not been.
-/

set_option autoImplicit false

namespace TileRealm

open Binary (Codec Restores Steady codec_number)

namespace Issuer

variable {issuer : Issuer}

/-! ## Counters -/

theorem codec_counter : Codec (fun _ => True) encodeCounter decodeCounter := by
  intro bytes entry rest
  obtain ⟨tag, lastIndex, epoch⟩ := entry
  constructor
  · intro h
    cases bytes with
    | nil => cases h
    | cons first bytes =>
      rw [decodeCounter] at h
      split at h
      · rename_i n epoch' rest' hread
        cases h
        obtain ⟨hn, rfl⟩ := (codec_number 8 _ _ _).mp hread
        refine ⟨trivial, ?_⟩
        rw [encodeCounter, UInt64.toNat_ofNat_of_lt' hn, List.cons_append, List.cons_append, List.append_assoc,
          List.singleton_append]
      · cases h
  · rintro ⟨-, rfl⟩
    have hread := (codec_number 8 _ lastIndex.toNat (epoch :: rest)).mpr ⟨lastIndex.toNat_lt, rfl⟩
    rw [encodeCounter, List.cons_append, List.cons_append, List.append_assoc, List.singleton_append, decodeCounter,
      hread]
    simp only [UInt64.ofNat_toNat]

/-- There is one counter for a tag at most, and there are as many tags as bytes. -/
theorem length_counters_le (issuer : Issuer) : issuer.counters.toList.length ≤ 256 := by
  have hnodup : (issuer.counters.keys.map UInt8.toNat).Nodup :=
    Std.ExtTreeMap.nodup_keys.map fun _ _ h => UInt8.toNat_inj.mp h
  have hbytes : ∀ n ∈ issuer.counters.keys.map UInt8.toNat, n ∈ List.range 256 := by
    intro n hn
    obtain ⟨tag, -, rfl⟩ := List.mem_map.mp hn
    exact List.mem_range.mpr tag.toNat_lt
  have hle := (List.subperm_of_subset hnodup hbytes).length_le
  rwa [List.length_map, List.length_range, ← Std.ExtTreeMap.map_fst_toList_eq_keys, List.length_map] at hle

/-- To enter all counters of a table into an empty one gives the table back. -/
theorem foldl_insert_toList (table : Std.ExtTreeMap UInt8 Counter) :
    table.toList.foldl (fun table entry => table.insert entry.1 entry.2) ∅ = table := by
  have hmany : ∀ (entries : List (UInt8 × Counter)) (start : Std.ExtTreeMap UInt8 Counter),
      entries.foldl (fun table entry => table.insert entry.1 entry.2) start = start.insertMany entries := by
    intro entries
    induction entries with
    | nil => exact fun _ => Std.ExtTreeMap.insertMany_nil.symm
    | cons entry entries ih =>
      intro start
      rw [List.foldl_cons, ih, Std.ExtTreeMap.insertMany_cons]
  rw [hmany]
  apply Std.ExtTreeMap.ext_getElem?
  intro tag
  cases hcounter : table[tag]? with
  | some counter =>
    exact Std.ExtTreeMap.getElem?_insertMany_list_of_mem Std.ReflCmp.compare_self
      Std.ExtTreeMap.distinct_keys_toList (Std.ExtTreeMap.mem_toList_iff_getElem?_eq_some.mpr hcounter)
  | none =>
    rw [Std.ExtTreeMap.getElem?_insertMany_list_of_contains_eq_false, Std.ExtTreeMap.getElem?_empty]
    rw [Std.ExtTreeMap.map_fst_toList_eq_keys]
    simpa using hcounter

/-! ## Issuers -/

theorem steady_decode : Steady decode := by
  intro bytes issuer rest h more
  simp only [decode, Option.bind_eq_bind, Option.bind_eq_some_iff, Prod.exists] at h ⊢
  obtain ⟨counters, bytes₁, hcounters, limit, bytes₂, hlimit, issued, bytes₃, hissued, heq⟩ := h
  cases heq
  exact ⟨counters, _, codec_counter.counted.steady _ _ _ hcounters more, limit, _,
    (codec_number 8).steady _ _ _ hlimit more, issued, _, (codec_number 8).steady _ _ _ hissued more, rfl⟩

theorem decode_encode (issuer : Issuer) (rest : List UInt8) : decode (issuer.encode ++ rest) = some (issuer, rest) := by
  simp only [decode, Option.bind_eq_bind, Option.bind_eq_some_iff, Prod.exists]
  have hlen : issuer.counters.toList.length < 256 ^ 8 := Nat.lt_of_le_of_lt issuer.length_counters_le (by decide)
  refine ⟨issuer.counters.toList, _, (codec_counter.counted _ _ _).mpr ⟨⟨hlen, fun _ _ => trivial⟩, ?_⟩,
    issuer.limit.toNat, _, (codec_number 8 _ _ _).mpr ⟨issuer.limit.toNat_lt, rfl⟩,
    issuer.issued.toNat, rest, (codec_number 8 _ _ _).mpr ⟨issuer.issued.toNat_lt, rfl⟩, ?_⟩
  · rw [encode, List.append_assoc, List.append_assoc]
  · rw [foldl_insert_toList, UInt64.ofNat_toNat, UInt64.ofNat_toNat]
    rfl

theorem restores (issuer : Issuer) : Restores decode issuer.encode issuer :=
  steady_decode.restores issuer.decode_encode

end Issuer

/-! ## Terrains -/

namespace Terrain

variable {t : Terrain}

/-- A store of the right size has a length that fits in eight bytes. -/
theorem WellFormed.length_lt (ht : t.WellFormed) : t.store.length < 256 ^ 8 := by
  have harea : t.area < 2 ^ 32 * 2 ^ 32 := Nat.mul_lt_mul'' t.width.toNat_lt t.height.toNat_lt
  have hfits := ht.fits
  cases hstore : t.store with
  | dense cells =>
    rw [hstore] at hfits
    exact Nat.lt_of_le_of_lt (Nat.le_of_eq hfits) harea
  | bitmap words =>
    rw [hstore] at hfits
    have hwords : words.size = (t.area + 63) / 64 := hfits
    rw [Store.length]
    omega

theorem restores (ht : t.store.length < 256 ^ 8) : Restores decode t.encode t :=
  codec_decode.steady.restores fun rest => (codec_decode _ t rest).mpr ⟨ht, rfl⟩

end Terrain

/-! ## Going on -/

/-- **What was stored goes on.** Every issuer is read back from its stored form, whatever follows, and from no shorter
piece of it, and so is every terrain of the right size and any other with a store that can be counted in eight bytes.
The issuer that is read back gives out what the stored one would have given out: with the handles from before, the
handles that come without a pause, none of them twice if the stored one repeats none.  The terrain that is read back
answers whatever the stored one would have answered and is stored alike. -/
theorem stored_goes_on :
    (∀ issuer : Issuer, Restores Issuer.decode issuer.encode issuer) ∧
      (∀ t : Terrain, t.WellFormed ∨ t.store.length < 256 ^ 8 → Restores Terrain.decode t.encode t) ∧
      (∀ (origin restored : Issuer) before bytes rest,
        Issuer.decode ((origin.after before).encode ++ bytes) = some (restored, rest) → ∀ later,
          restored.issues later = (origin.after before).issues later ∧
            origin.issues before ++ restored.issues later = origin.issues (before ++ later) ∧
            ((origin.issues (before ++ later)).Nodup → ∀ h ∈ restored.issues later, h ∉ origin.issues before)) ∧
      (∀ limit before later, (∀ tag, Kind.asked (before ++ later) tag ≤ 256 * Issuer.span limit) →
        ((Issuer.withLimit limit).issues (before ++ later)).Nodup) ∧
      ∀ (t restored : Terrain) bytes rest, t.WellFormed ∨ t.store.length < 256 ^ 8 →
        Terrain.decode (t.encode ++ bytes) = some (restored, rest) →
          (∀ requests, restored.answers requests = t.answers requests) ∧ restored.encode = t.encode := by
  have hterrain : ∀ t : Terrain, t.WellFormed ∨ t.store.length < 256 ^ 8 → Restores Terrain.decode t.encode t :=
    fun t ht => Terrain.restores (ht.elim Terrain.WellFormed.length_lt id)
  refine ⟨Issuer.restores, hterrain, ?_, fun _ _ _ => Issuer.nodup_issues, ?_⟩
  · intro origin restored before bytes rest hread later
    have hsame : restored = origin.after before := (Issuer.restores _).eq_of_read hread
    have hseam := Issuer.issues_append origin before later
    rw [hsame]
    refine ⟨rfl, hseam.symm, fun hnodup h hlater hbefore => ?_⟩
    rw [hseam] at hnodup
    exact List.disjoint_of_nodup_append hnodup hbefore hlater
  · intro t restored bytes rest ht hread
    rw [(hterrain t ht).eq_of_read hread]
    exact ⟨fun _ => rfl, rfl⟩

end TileRealm
