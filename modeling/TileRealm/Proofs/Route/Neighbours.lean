import Mathlib.Data.List.Chain
import Std.Data.ExtTreeSet
import TileRealm.Proofs.Cell
import TileRealm.Route

/-!
# Neighbours

- the eight headings lead to just the tiles one step away, also at the edge of the plane
  (`Tile.exists_shift_iff`);
- a route goes on to a neighbour of its end (`IsRoute.concat`) and can be cut in two (`IsRoute.append_iff`); it is
  a chain of walkable neighbours up to its goal (`IsRoute.isChain`, `IsRoute.walk`, `IsRoute.getLast?`);
- `Tile.mem_insert`, `Tile.getElem?_insert`: sets and tables of tiles, by equality of tiles.
-/

set_option autoImplicit false

namespace TileRealm

theorem sign_cases (d : Int) : d.sign = 1 ∧ 0 < d ∨ d.sign = 0 ∧ d = 0 ∨ d.sign = -1 ∧ d < 0 := by
  rcases Int.lt_trichotomy d 0 with h | h | h
  · exact .inr (.inr ⟨Int.sign_eq_neg_one_of_neg h, h⟩)
  · exact .inr (.inl ⟨Int.sign_eq_zero_iff_zero.mpr h, h⟩)
  · exact .inl ⟨Int.sign_eq_one_of_pos h, h⟩

namespace Tile

variable {a b : Tile}

theorem offset_eq_some_iff {dx dy : Int} :
    a.offset dx dy = some b ↔ (a.x.toNat + dx : Int) = b.x.toNat ∧ (a.y.toNat + dy : Int) = b.y.toNat := by
  simp only [offset, bind, Option.bind_eq_some_iff, coordinate?_eq_some_iff, pure, Option.some.injEq]
  constructor
  · rintro ⟨x, hx, y, hy, rfl⟩
    exact ⟨hx, hy⟩
  · rintro ⟨hx, hy⟩
    exact ⟨b.x, hx, b.y, hy, rfl⟩

/-- A heading leads from a tile to another iff it is their difference. -/
theorem shift_eq_some_iff {heading : Heading} : a.shift heading = some b ↔ heading = ⟨a.dx b, a.dy b⟩ := by
  obtain ⟨dx, dy⟩ := heading
  simp only [shift, offset_eq_some_iff, Heading.mk.injEq, Tile.dx, Tile.dy]
  omega

theorem adjacent_iff : a.adjacent b = true ↔ a.steps b = 1 := by
  rw [adjacent, decide_eq_true_eq]

theorem mem_headings {dx dy : Int} : (⟨dx, dy⟩ : Heading) ∈ Heading.all ↔ max dx.natAbs dy.natAbs = 1 := by
  simp only [Heading.all, List.mem_cons, Heading.mk.injEq, List.not_mem_nil, or_false]
  omega

/-- The headings lead to just the tiles one step away. -/
theorem exists_shift_iff : (∃ heading ∈ Heading.all, a.shift heading = some b) ↔ a.adjacent b = true := by
  simp only [shift_eq_some_iff, adjacent_iff, exists_eq_right, mem_headings, steps]

theorem adjacent_of_shift {heading : Heading} (hm : heading ∈ Heading.all) (hs : a.shift heading = some b) :
    a.adjacent b = true :=
  exists_shift_iff.mp ⟨heading, hm, hs⟩

theorem steps_self (a : Tile) : a.steps a = 0 := by
  simp [steps, dx, dy]

theorem steps_eq_zero_iff : a.steps b = 0 ↔ a = b := by
  constructor
  · intro h
    simp only [steps, dx, dy] at h
    obtain ⟨ax, ay⟩ := a
    obtain ⟨bx, bY⟩ := b
    simp only at h
    rw [mk.injEq, ← UInt32.toNat_inj, ← UInt32.toNat_inj]
    omega
  · rintro rfl
    exact steps_self a

theorem ne_of_adjacent (h : a.adjacent b = true) : a ≠ b := by
  rintro rfl
  rw [adjacent_iff, steps_self] at h
  cases h

/-! ## Sets and tables of tiles -/

theorem compare_eq_iff : compare a b = .eq ↔ b = a := by
  rw [Std.LawfulEqCmp.compare_eq_iff_eq, eq_comm]

theorem mem_insert {s : Std.ExtTreeSet Tile} : b ∈ s.insert a ↔ b = a ∨ b ∈ s := by
  rw [Std.ExtTreeSet.mem_insert, compare_eq_iff]

theorem getElem?_insert {α : Type} {m : Std.ExtTreeMap Tile α} {x : α} :
    (m.insert a x)[b]? = if b = a then some x else m[b]? := by
  simp only [Std.ExtTreeMap.getElem?_insert, compare_eq_iff]

end Tile

/-! ## Routes -/

namespace IsRoute

variable {free : Tile → Bool} {a b c : Tile} {route rest : List Tile}

theorem append_iff : IsRoute free a c (route ++ rest) ↔ ∃ b, IsRoute free a b route ∧ IsRoute free b c rest := by
  induction route generalizing a with
  | nil => simp [IsRoute]
  | cons next route ih => simp only [List.cons_append, IsRoute, ih, exists_and_left, and_assoc]

/-- A route goes on to a neighbour of its end. -/
theorem concat (hr : IsRoute free a b route) (hb : b.adjacent c = true) (hc : free c = true) :
    IsRoute free a c (route ++ [c]) :=
  append_iff.mpr ⟨b, hr, hb, hc, rfl⟩

/-- All tiles of a route can be walked on. -/
theorem walk (hr : IsRoute free a b route) {t : Tile} (ht : t ∈ route) : free t = true := by
  induction route generalizing a with
  | nil => simp at ht
  | cons next route ih =>
    obtain ⟨-, hnext, hr⟩ := hr
    rcases List.mem_cons.mp ht with rfl | ht
    · exact hnext
    · exact ih hr ht

/-- Each tile of a route is one step away from the one before. -/
theorem isChain (hr : IsRoute free a b route) : (a :: route).IsChain fun p q => p.steps q = 1 := by
  induction route generalizing a with
  | nil => exact .singleton a
  | cons next route ih =>
    obtain ⟨hnext, -, hr⟩ := hr
    exact .cons_cons (Tile.adjacent_iff.mp hnext) (ih hr)

theorem getLast?_cons (hr : IsRoute free a b route) : (a :: route).getLast? = some b := by
  induction route generalizing a with
  | nil => exact congrArg some hr
  | cons next route ih =>
    obtain ⟨-, -, hr⟩ := hr
    rw [List.getLast?_cons_cons, ih hr]

theorem ne_nil (hr : IsRoute free a b route) (hab : a ≠ b) : route ≠ [] := by
  rintro rfl
  exact hab hr

/-- A route to another tile ends there. -/
theorem getLast? (hr : IsRoute free a b route) (hab : a ≠ b) : route.getLast? = some b := by
  rw [← List.getLast?_cons_of_ne_nil (hr.ne_nil hab), hr.getLast?_cons]

end IsRoute

end TileRealm
