import Mathlib.Algebra.Group.Nat.Defs
import TileRealm.Handle
import TileRealm.Proofs.Text.Digit

/-!
# The fields of a handle

- `Handle.toNat_pack`: the packed word as a sum of its three fields;
- `Handle.kindTag_pack`, `Handle.epoch_pack`, `Handle.toNat_index_pack`: each field is read back, the index modulo
  `2 ^ 48`;
- `Handle.toNat_raw`, `Handle.eq_iff`, `Handle.pack_fields`: a handle is its three fields;
- `Kind.ofTag_eq_role_iff`, `Handle.isRole_iff`: which handles name players;
- `Handle.byFields`, `Handle.compare_eq`: handles are ordered by their fields, one after the other;
- `Handle.splitOn_text`, `Handle.text_injective`: the fields can be read off the written form;
- `Handle.faithful`: so handles are their fields in every respect.
-/

set_option autoImplicit false

namespace TileRealm

namespace Handle

/-! ## Packing -/

theorem toNat_pack (kind : Kind) (epoch : UInt8) (index : UInt64) : (pack kind epoch index).raw.toNat =
    kind.tag.toNat * 2 ^ 56 + epoch.toNat * 2 ^ 48 + index.toNat % 2 ^ 48 := by
  have hkind := kind.tag.toNat_lt
  have hepoch := epoch.toNat_lt
  simp only [pack, indexCount, Nat.shiftLeft_eq, UInt64.toNat_ofNat']
  omega

@[simp]
theorem kindTag_pack (kind : Kind) (epoch : UInt8) (index : UInt64) : (pack kind epoch index).kindTag = kind.tag := by
  apply UInt8.toNat_inj.mp
  have hkind := kind.tag.toNat_lt
  have hepoch := epoch.toNat_lt
  simp only [kindTag, toNat_pack, Nat.shiftRight_eq_div_pow, UInt8.toNat_ofNat']
  omega

@[simp]
theorem epoch_pack (kind : Kind) (epoch : UInt8) (index : UInt64) : (pack kind epoch index).epoch = epoch := by
  apply UInt8.toNat_inj.mp
  have hepoch := epoch.toNat_lt
  simp only [Handle.epoch, toNat_pack, Nat.shiftRight_eq_div_pow, UInt8.toNat_ofNat']
  omega

@[simp]
theorem toNat_index_pack (kind : Kind) (epoch : UInt8) (index : UInt64) :
    (pack kind epoch index).index.toNat = index.toNat % 2 ^ 48 := by
  simp only [Handle.index, toNat_pack, indexCount, Nat.shiftLeft_eq, UInt64.toNat_ofNat']
  omega

/-- The word of a handle as a sum of its fields. -/
theorem toNat_raw (h : Handle) :
    h.raw.toNat = h.kindTag.toNat * 2 ^ 56 + h.epoch.toNat * 2 ^ 48 + h.index.toNat := by
  have hraw := h.raw.toNat_lt
  simp only [kindTag, epoch, index, indexCount, Nat.shiftLeft_eq, Nat.shiftRight_eq_div_pow, UInt8.toNat_ofNat',
    UInt64.toNat_ofNat']
  omega

/-- Handles with the same fields are the same. -/
theorem eq_iff {g h : Handle} :
    g = h ↔ g.kindTag = h.kindTag ∧ g.epoch.toNat = h.epoch.toNat ∧ g.index.toNat = h.index.toNat := by
  constructor
  · rintro rfl
    exact ⟨rfl, rfl, rfl⟩
  · rintro ⟨hkind, hepoch, hindex⟩
    have hraw : g.raw = h.raw := by
      rw [← UInt64.toNat_inj, toNat_raw g, toNat_raw h, hkind, hepoch, hindex]
    cases g
    cases h
    exact congrArg Handle.mk hraw

theorem toNat_index_lt (h : Handle) : h.index.toNat < 2 ^ 48 := by
  simp only [index, indexCount, Nat.shiftLeft_eq, UInt64.toNat_ofNat']
  omega

theorem tag_kind (h : Handle) : h.kind.tag = h.kindTag :=
  Kind.tag_ofTag h.kindTag

/-- A handle is packed again from its fields, also if its kind has no name. -/
theorem pack_fields (h : Handle) : pack h.kind h.epoch h.index = h := by
  refine eq_iff.mpr ⟨?_, ?_, ?_⟩
  · rw [kindTag_pack, tag_kind]
  · rw [epoch_pack]
  · rw [toNat_index_pack, Nat.mod_eq_of_lt h.toNat_index_lt]

end Handle

/-! ## Players -/

theorem Kind.ofTag_eq_role_iff {tag : UInt8} : ofTag tag = role ↔ tag = 1 := by
  constructor
  · intro h
    rw [← tag_ofTag tag, h]
    rfl
  · rintro rfl
    rfl

namespace Handle

theorem isRole_iff {h : Handle} : h.isRole = true ↔ h.kindTag = 1 :=
  decide_eq_true_iff.trans Kind.ofTag_eq_role_iff

/-! ## Order -/

theorem compare_byte (a b : UInt8) : compare a b = compare a.toNat b.toNat := by
  simp only [compare, compareOfLessAndEq, UInt8.lt_iff_toNat_lt, UInt8.toNat_inj]

theorem compare_word (a b : UInt64) : compare a b = compare a.toNat b.toNat := by
  simp only [compare, compareOfLessAndEq, UInt64.lt_iff_toNat_lt, UInt64.toNat_inj]

/-- Numbers of two digits of a base are compared digit by digit. -/
theorem compare_digits {base low low' : Nat} (hlow : low < base) (hlow' : low' < base) (high high' : Nat) :
    compare (high * base + low) (high' * base + low') = (compare high high').then (compare low low') := by
  cases h : compare high high' with
  | lt =>
    have hnext : (high + 1) * base ≤ high' * base := Nat.mul_le_mul_right _ (Nat.compare_eq_lt.mp h)
    rw [Nat.add_mul, Nat.one_mul] at hnext
    exact Nat.compare_eq_lt.mpr (by omega)
  | eq =>
    rw [Nat.compare_eq_eq.mp h]
    simp only [Nat.compare_eq_ite_lt, Nat.add_lt_add_iff_left, Ordering.eq_then]
  | gt =>
    have hnext : (high' + 1) * base ≤ high * base := Nat.mul_le_mul_right _ (Nat.compare_eq_gt.mp h)
    rw [Nat.add_mul, Nat.one_mul] at hnext
    exact Nat.compare_eq_gt.mpr (by omega)

/-- The order by the tag of the kind, then by the epoch, then by the index. -/
def byFields : Handle → Handle → Ordering :=
  compareLex (compareOn kindTag) (compareLex (compareOn epoch) (compareOn index))

theorem compare_eq (g h : Handle) : compare g h = byFields g h := by
  have hlow : ∀ h : Handle, h.epoch.toNat * 2 ^ 48 + h.index.toNat < 2 ^ 56 := by
    intro h
    have hepoch := h.epoch.toNat_lt
    have hindex := h.toNat_index_lt
    omega
  calc compare g h = compare g.raw.toNat h.raw.toNat := compare_word g.raw h.raw
    _ = (compare g.kindTag.toNat h.kindTag.toNat).then
          ((compare g.epoch.toNat h.epoch.toNat).then (compare g.index.toNat h.index.toNat)) := by
        rw [toNat_raw g, toNat_raw h, Nat.add_assoc, Nat.add_assoc, compare_digits (hlow g) (hlow h),
          compare_digits g.toNat_index_lt h.toNat_index_lt]
    _ = byFields g h := by
        rw [← compare_byte, ← compare_byte, ← compare_word]
        rfl

end Handle

/-! ## Text -/

theorem Kind.text_injective {k l : Kind} (h : k.text = l.text) : k = l := by
  rw [← String.toList_inj] at h
  cases k <;> cases l <;> simp [text] at h ⊢
  exact UInt8.toNat_inj.mp (Text.toDigits_inj h)

theorem Kind.colon_notMem_text (k : Kind) : ':' ∉ k.text.toList := by
  cases k with
  | other tag =>
    have hdigits := Text.colon_notMem_toDigits tag.toNat
    simpa [text, Nat.toString_eq_repr] using hdigits
  | _ => decide

namespace Handle

/-- The fields of a handle stand between colons. -/
theorem splitOn_text (h : Handle) : h.text.toList.splitOn ':' =
    ['H' :: '(' :: h.kind.text.toList, Nat.toDigits 10 h.epoch.toNat, Nat.toDigits 10 h.index.toNat ++ [')']] := by
  have hjoined : h.text.toList = [':'].intercalate
      ['H' :: '(' :: h.kind.text.toList, Nat.toDigits 10 h.epoch.toNat, Nat.toDigits 10 h.index.toNat ++ [')']] := by
    simp [text, List.intercalate, Nat.toString_eq_repr]
  rw [hjoined]
  refine List.splitOn_intercalate ':' ?_ (by simp)
  simp [h.kind.colon_notMem_text, Text.colon_notMem_toDigits]

theorem text_injective {g h : Handle} (htext : g.text = h.text) : g = h := by
  have hfields := splitOn_text g
  rw [htext, splitOn_text h] at hfields
  simp only [List.cons.injEq, true_and, and_true, List.append_cancel_right_eq, String.toList_inj] at hfields
  obtain ⟨hkind, hepoch, hindex⟩ := hfields
  refine eq_iff.mpr ⟨?_, (Text.toDigits_inj hepoch).symm, (Text.toDigits_inj hindex).symm⟩
  rw [← tag_kind, ← tag_kind, Kind.text_injective hkind]

/-- **Handles are their fields.** The fields that a handle was packed from are read back, of the index the low 48 bits,
and each handle is packed again from its own fields.  A handle names a player just if its tag is that of players,
whatever kind it was packed with.  Handles are compared field by field, which is the order of rosters and of sets; and
no two handles have the same written form. -/
theorem faithful :
    (∀ (kind : Kind) (epoch : UInt8) (index : UInt64),
      (pack kind epoch index).kindTag = kind.tag ∧ (pack kind epoch index).epoch = epoch ∧
        (pack kind epoch index).index.toNat = index.toNat % 2 ^ 48 ∧
        ((pack kind epoch index).isRole = true ↔ kind.tag = 1)) ∧
    (∀ h : Handle, pack h.kind h.epoch h.index = h ∧ (h.isRole = true ↔ h.kindTag = 1)) ∧
    (∀ g h : Handle, compare g h = byFields g h) ∧
    (∀ (α : Type) (m : Roster α), m.toList.Pairwise fun a b => byFields a.1 b.1 = .lt) ∧
    (∀ s : HandleSet, s.toList.Pairwise fun g h => byFields g h = .lt) ∧
    ∀ g h : Handle, g.text = h.text → g = h := by
  refine ⟨fun kind epoch index => ?_, fun h => ⟨pack_fields h, isRole_iff⟩, compare_eq, fun α m => ?_, fun s => ?_,
    fun g h => text_injective⟩
  · refine ⟨kindTag_pack kind epoch index, epoch_pack kind epoch index, toNat_index_pack kind epoch index, ?_⟩
    rw [isRole_iff, kindTag_pack]
  · exact Std.ExtTreeMap.ordered_keys_toList.imp fun {a b} hlt => compare_eq a.1 b.1 ▸ hlt
  · exact Std.ExtTreeSet.ordered_toList.imp fun {g h} hlt => compare_eq g h ▸ hlt

-- an unnamed kind with the tag of players, and an index whose low bits are 4
example : (pack (.other 1) 0 (UInt64.ofNat (indexCount + 4))).text = "H(role:0:4)" := by decide

end Handle

end TileRealm
