import TileRealm.Handle

/-!
# Rosters and sets of handles

Lookups by equality of handles in place of their comparison.

- sets: `HandleSet.mem_insert`, `HandleSet.mem_erase`, and the order of a listed set (`HandleSet.ascending_toList`);
- rosters: `Roster.getElem?_insert`, `Roster.getElem?_erase`, `Roster.getElem?_modify`, and who is in them
  (`Roster.contains_insert`, `Roster.contains_erase`, `Roster.values_eq`, `Roster.mem_values`).
-/

set_option autoImplicit false

namespace TileRealm

variable {g h : Handle}

theorem Handle.compare_eq_iff : compare h g = .eq ↔ g = h := by
  rw [Std.LawfulEqCmp.compare_eq_iff_eq, eq_comm]

theorem Handle.compare_lt_iff : compare g h = .lt ↔ g.raw < h.raw :=
  compareOfLessAndEq_eq_lt

/-! ## Sets -/

namespace HandleSet

variable {s : HandleSet}

theorem mem_insert : g ∈ s.insert h ↔ g = h ∨ g ∈ s := by
  simp only [Std.ExtTreeSet.mem_insert, Handle.compare_eq_iff]

theorem mem_erase : g ∈ s.erase h ↔ g ≠ h ∧ g ∈ s := by
  simp only [Std.ExtTreeSet.mem_erase, Handle.compare_eq_iff, ne_eq]

/-- A set is listed in strictly ascending order. -/
theorem ascending_toList (s : HandleSet) : s.toList.Pairwise (fun a b => a.raw < b.raw) :=
  Std.ExtTreeSet.ordered_toList.imp Handle.compare_lt_iff.mp

theorem nodup_toList (s : HandleSet) : s.toList.Nodup := by
  apply s.ascending_toList.imp
  rintro a b hab rfl
  exact UInt64.lt_irrefl _ hab

end HandleSet

/-! ## Rosters -/

namespace Roster

variable {α : Type} {m : Roster α} {a : α}

theorem getElem?_insert : (m.insert h a)[g]? = if g = h then some a else m[g]? := by
  simp only [Std.ExtTreeMap.getElem?_insert, Handle.compare_eq_iff]

theorem getElem?_erase : (m.erase h)[g]? = if g = h then none else m[g]? := by
  simp only [Std.ExtTreeMap.getElem?_erase, Handle.compare_eq_iff]

theorem getElem?_modify {f : α → α} : (m.modify h f)[g]? = if g = h then m[g]?.map f else m[g]? := by
  rw [Std.ExtTreeMap.getElem?_modify]
  by_cases e : g = h
  · subst e
    simp
  · simp only [Handle.compare_eq_iff, e, if_false]

theorem contains_insert : (m.insert h a).contains g = (decide (g = h) || m.contains g) := by
  rw [Bool.eq_iff_iff]
  simp only [Std.ExtTreeMap.contains_iff_mem, Std.ExtTreeMap.mem_insert, Handle.compare_eq_iff, Bool.or_eq_true,
    decide_eq_true_eq]

theorem contains_erase : (m.erase h).contains g = (!decide (g = h) && m.contains g) := by
  rw [Bool.eq_iff_iff]
  simp only [Std.ExtTreeMap.contains_iff_mem, Std.ExtTreeMap.mem_erase, Handle.compare_eq_iff, Bool.and_eq_true,
    Bool.not_eq_true', decide_eq_false_iff_not, ne_eq]

/-- The values are listed in the order of their handles. -/
theorem values_eq (m : Roster α) : m.values = m.toList.map (·.2) := by
  have hfold : m.values = m.foldr (fun _ a values => a :: values) [] := rfl
  rw [hfold, Std.ExtTreeMap.foldr_eq_foldr_toList, List.map_eq_foldr]

/-- The values are those that some handle has. -/
theorem mem_values : a ∈ m.values ↔ ∃ h : Handle, m[h]? = some a := by
  rw [values_eq, List.mem_map]
  constructor
  · rintro ⟨⟨h, b⟩, hb, rfl⟩
    exact ⟨h, Std.ExtTreeMap.mem_toList_iff_getElem?_eq_some.mp hb⟩
  · rintro ⟨h, hh⟩
    exact ⟨(h, a), Std.ExtTreeMap.mem_toList_iff_getElem?_eq_some.mpr hh, rfl⟩

end Roster

end TileRealm
