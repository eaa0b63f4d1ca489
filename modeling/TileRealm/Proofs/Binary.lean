import Mathlib.Algebra.Group.Nat.Defs
import TileRealm.Binary

/-!
# Formats that are read back

- `Codec`: a reader that takes the forms of the valid values and nothing else;
- `codec_number`, `codec_flag`, `Codec.convert`, `Codec.many_iff`, `Codec.counted`: numbers, truth values, other values
  in their place, and lists;
- `Steady`: what such a reader answers does not depend on what follows;
- `Restores`: so a stored value is read back, and no shorter piece of its form is taken for a value
  (`Steady.restores`).
-/

set_option autoImplicit false

namespace TileRealm.Binary

variable {α β : Type} {valid : α → Prop} {form : α → List UInt8} {item read : Reader α}

/-- A reader takes the forms of the valid values, whatever follows them, and nothing else. -/
def Codec (valid : α → Prop) (form : α → List UInt8) (read : Reader α) : Prop :=
  ∀ bytes value rest, read bytes = some (value, rest) ↔ valid value ∧ bytes = form value ++ rest

/-! ## Single values -/

theorem codec_number (width : Nat) : Codec (· < 256 ^ width) (encode width) (decode width) := by
  induction width with
  | zero =>
    intro bytes n rest
    simp only [decode, encode, Option.some_inj, Prod.mk.injEq, List.nil_append, Nat.pow_zero, Nat.lt_one_iff]
    exact and_congr_left fun _ => eq_comm
  | succ width ih =>
    intro bytes n rest
    cases bytes with
    | nil => simp [decode, encode]
    | cons byte bytes =>
      constructor
      · intro h
        rw [decode] at h
        split at h
        · rename_i high bytes' hread
          cases h
          obtain ⟨hhigh, rfl⟩ := (ih _ _ _).mp hread
          have hbyte := byte.toNat_lt
          have hlow : UInt8.ofNat (byte.toNat + 256 * high) = byte := by
            apply UInt8.toNat_inj.mp
            rw [UInt8.toNat_ofNat']
            omega
          have hdiv : (byte.toNat + 256 * high) / 256 = high := by omega
          refine ⟨?_, ?_⟩
          · rw [Nat.pow_succ]
            omega
          · rw [encode, hlow, hdiv, List.cons_append]
        · cases h
      · rintro ⟨hn, hbytes⟩
        rw [hbytes]
        exact decode_encode (width + 1) n rest hn

theorem codec_flag : Codec (fun _ => True) (fun b => [encodeFlag b]) flag := by
  intro bytes b rest
  constructor
  · intro h
    unfold flag at h
    split at h
    · cases h
      exact ⟨trivial, rfl⟩
    · cases h
      exact ⟨trivial, rfl⟩
    · cases h
  · rintro ⟨-, rfl⟩
    cases b <;> rfl

/-- Values that stand for other values are read where these are. -/
theorem Codec.convert (h : Codec valid form read) {there : α → β} {back : β → α} (hvalid : ∀ b, valid (back b))
    (hthere : ∀ b, there (back b) = b) (hback : ∀ a, valid a → back (there a) = a) :
    Codec (fun _ => True) (fun b => form (back b)) fun bytes =>
      (read bytes).map fun (a, rest) => (there a, rest) := by
  intro bytes b rest
  simp only [Option.map_eq_some_iff, Prod.exists, Prod.mk.injEq, true_and]
  constructor
  · rintro ⟨a, rest', hread, rfl, rfl⟩
    obtain ⟨ha, rfl⟩ := (h _ _ _).mp hread
    rw [hback a ha]
  · rintro rfl
    exact ⟨back b, rest, (h _ _ _).mpr ⟨hvalid b, rfl⟩, hthere b, rfl⟩

/-! ## Lists -/

theorem Codec.many_iff (h : Codec valid form item) (count : Nat) (bytes : List UInt8) (values : List α)
    (rest : List UInt8) : many item count bytes = some (values, rest) ↔
      values.length = count ∧ (∀ v ∈ values, valid v) ∧ bytes = values.flatMap form ++ rest := by
  induction count generalizing bytes values with
  | zero =>
    rw [many, Option.some_inj, Prod.mk.injEq, List.length_eq_zero_iff]
    constructor
    · rintro ⟨rfl, rfl⟩
      exact ⟨rfl, fun v hv => absurd hv List.not_mem_nil, rfl⟩
    · rintro ⟨rfl, -, rfl⟩
      exact ⟨rfl, rfl⟩
  | succ count ih =>
    constructor
    · intro hread
      rw [many] at hread
      split at hread
      · cases hread
      rename_i value bytes' hitem
      split at hread
      · rename_i values' rest' hmany
        cases hread
        obtain ⟨hvalue, rfl⟩ := (h _ _ _).mp hitem
        obtain ⟨hlen, hvalues, rfl⟩ := (ih _ _).mp hmany
        refine ⟨by rw [List.length_cons, hlen], List.forall_mem_cons.mpr ⟨hvalue, hvalues⟩, ?_⟩
        rw [List.flatMap_cons, List.append_assoc]
      · cases hread
    · rintro ⟨hlen, hvalid, rfl⟩
      cases values with
      | nil => cases hlen
      | cons value values =>
        obtain ⟨hvalue, hvalues⟩ := List.forall_mem_cons.mp hvalid
        have hitem := (h (form value ++ (values.flatMap form ++ rest)) value _).mpr ⟨hvalue, rfl⟩
        have hmany := (ih _ values).mpr ⟨Nat.succ.inj hlen, hvalues, rfl⟩
        rw [List.flatMap_cons, List.append_assoc, many, hitem]
        simp only [hmany]

/-- Lists are read behind their length if that fits in eight bytes. -/
theorem Codec.counted (h : Codec valid form item) :
    Codec (fun values => values.length < 256 ^ 8 ∧ ∀ v ∈ values, valid v) (encodeCounted form) (counted item) := by
  intro bytes values rest
  constructor
  · intro hread
    rw [Binary.counted] at hread
    split at hread
    · rename_i count bytes' hcount
      obtain ⟨hlt, rfl⟩ := (codec_number 8 _ _ _).mp hcount
      obtain ⟨rfl, hvalues, rfl⟩ := (h.many_iff _ _ _ _).mp hread
      exact ⟨⟨hlt, hvalues⟩, by rw [encodeCounted, List.append_assoc]⟩
    · cases hread
  · rintro ⟨⟨hlt, hvalues⟩, rfl⟩
    have hcount := (codec_number 8 _ values.length (values.flatMap form ++ rest)).mpr ⟨hlt, rfl⟩
    rw [encodeCounted, List.append_assoc, Binary.counted, hcount]
    exact (h.many_iff _ _ _ _).mpr ⟨rfl, hvalues, rfl⟩

/-! ## What follows a value -/

/-- What a reader answers does not depend on what follows. -/
def Steady (read : Reader α) : Prop :=
  ∀ bytes value rest, read bytes = some (value, rest) → ∀ more, read (bytes ++ more) = some (value, rest ++ more)

theorem Codec.steady (h : Codec valid form read) : Steady read := by
  intro bytes value rest hread more
  obtain ⟨hvalue, rfl⟩ := (h _ _ _).mp hread
  exact (h _ _ _).mpr ⟨hvalue, List.append_assoc _ _ _⟩

/-- A stored value is read back, whatever follows, and no shorter piece of what is stored is taken for a value. -/
structure Restores (read : Reader α) (bytes : List UInt8) (value : α) : Prop where
  reads : ∀ rest, read (bytes ++ rest) = some (value, rest)
  refuses : ∀ piece, piece <+: bytes → piece ≠ bytes → read piece = none

theorem Restores.eq_of_read {bytes more rest : List UInt8} {value other : α} (h : Restores read bytes value)
    (hread : read (bytes ++ more) = some (other, rest)) : other = value := by
  rw [h.reads more] at hread
  cases hread
  rfl

theorem Steady.restores (h : Steady read) {bytes : List UInt8} {value : α}
    (hreads : ∀ rest, read (bytes ++ rest) = some (value, rest)) : Restores read bytes value where
  reads := hreads
  refuses := by
    rintro piece ⟨lost, rfl⟩ hne
    cases hpiece : read piece with
    | none => rfl
    | some answer =>
      have hlonger := h _ _ _ hpiece lost
      have hwhole := hreads []
      rw [List.append_nil, hlonger, Option.some_inj, Prod.mk.injEq] at hwhole
      have hlost : lost = [] := (List.append_eq_nil_iff.mp hwhole.2).2
      rw [hlost, List.append_nil] at hne
      exact absurd rfl hne

end TileRealm.Binary
