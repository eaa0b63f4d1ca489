import Mathlib.NumberTheory.Zsqrtd.Basic
import Mathlib.Tactic.IntervalCases
import Mathlib.Tactic.NormNum
import TileRealm.Proofs.Route.Optimal

/-!
# The octile estimate in exact arithmetic

- `Surd`: the numbers `a + b√2`;
- `CostModel.exact`: costs and the octile estimate in these numbers;
- `consistent_exact`: the estimate shrinks along each of the eight steps by no more than the step costs;
- `search_cheapest`: so the route that a search finds is one of the cheapest.
-/

set_option autoImplicit false

namespace TileRealm

/-- The numbers `a + b√2`. -/
abbrev Surd : Type := Zsqrtd ((2 : Nat) : Int)

instance nonsquare_two : Zsqrtd.Nonsquare 2 where
  ns n h := by
    have hn : n < 2 := by
      by_contra hge
      have := Nat.mul_le_mul (Nat.not_lt.mp hge) (Nat.not_lt.mp hge)
      omega
    interval_cases n <;> omega

namespace CostModel

/-- Costs without rounding: 1 along an axis, the root of 2 across, and the octile estimate. -/
def exact : CostModel Surd where
  zero := 0
  straight := 1
  diagonal := Zsqrtd.sqrtd
  add := (· + ·)
  lt a b := decide (a < b)
  estimate a b :=
    let dx := (a.dx b).natAbs
    let dy := (a.dy b).natAbs
    ((max dx dy : Nat) : Surd) + (Zsqrtd.sqrtd - 1) * ((min dx dy : Nat) : Surd)

theorem exact_exact : exact.Exact where
  zero := rfl
  add _ _ := rfl
  lt_iff _ _ := decide_eq_true_iff

/-- The octile estimate: as many steps across as the shorter difference tells, and the rest along an axis. -/
def octile (dx dy : Nat) : Surd :=
  ⟨(max dx dy : Nat) - (min dx dy : Nat), (min dx dy : Nat)⟩

theorem estimate_exact (a b : Tile) : exact.estimate a b = octile (a.dx b).natAbs (a.dy b).natAbs := by
  simp only [exact, octile]
  generalize max (a.dx b).natAbs (a.dy b).natAbs = long, min (a.dx b).natAbs (a.dy b).natAbs = short
  ext
  · simp [sub_eq_add_neg]
  · simp

theorem step_exact (heading : Heading) : exact.step heading = if heading.isDiagonal then ⟨0, 1⟩ else ⟨1, 0⟩ :=
  rfl

/-- What the cost of a step and the estimate after it can exceed the estimate before it by. -/
theorem nonneg_of_gain {z : Surd} (h : (z.re = 0 ∧ (z.im = 0 ∨ z.im = 1 ∨ z.im = 2)) ∨
    (z.re = 2 ∧ (z.im = 0 ∨ z.im = -1)) ∨ (z.re = -2 ∧ z.im = 2)) : 0 ≤ z := by
  obtain ⟨p, q⟩ := z
  dsimp only at h
  rcases h with ⟨rfl, rfl | rfl | rfl⟩ | ⟨rfl, rfl | rfl⟩ | ⟨rfl, rfl⟩ <;> decide

section

variable {u v u' v' : Nat}

theorem octile_comm (u v : Nat) : octile u v = octile v u := by
  rw [octile, octile, max_comm, min_comm]

/-- A step across changes both differences by 1. -/
theorem octile_le_across (hu : u' = u + 1 ∨ u = u' + 1) (hv : v' = v + 1 ∨ v = v' + 1) :
    octile u v ≤ ⟨0, 1⟩ + octile u' v' := by
  rw [← sub_nonneg]
  refine nonneg_of_gain ?_
  simp only [octile, Zsqrtd.re_sub, Zsqrtd.re_add, Zsqrtd.im_sub, Zsqrtd.im_add]
  omega

/-- A step along an axis changes one difference by 1. -/
theorem octile_le_along (hu : u' = u + 1 ∨ u = u' + 1) (v : Nat) : octile u v ≤ ⟨1, 0⟩ + octile u' v := by
  rw [← sub_nonneg]
  refine nonneg_of_gain ?_
  simp only [octile, Zsqrtd.re_sub, Zsqrtd.re_add, Zsqrtd.im_sub, Zsqrtd.im_add]
  omega

end

/-- One step changes a difference by 1. -/
theorem natAbs_sub_unit {d : Int} (hd : d.natAbs = 1) (x : Int) :
    (x - d).natAbs = x.natAbs + 1 ∨ x.natAbs = (x - d).natAbs + 1 := by
  omega

/-- **The octile estimate is consistent.** -/
theorem consistent_exact : exact.Consistent where
  toExact := exact_exact
  estimate_le_step {a b heading} goal hheading hshift := by
    obtain rfl := Tile.shift_eq_some_iff.mp hshift
    rw [Tile.mem_headings] at hheading
    have hx : b.dx goal = a.dx goal - a.dx b := by simp only [Tile.dx]; omega
    have hy : b.dy goal = a.dy goal - a.dy b := by simp only [Tile.dy]; omega
    rw [estimate_exact, estimate_exact, step_exact, hx, hy, Heading.isDiagonal]
    dsimp only
    by_cases hdx : a.dx b = 0
    · have hdy : (a.dy b).natAbs = 1 := by omega
      rw [if_neg (by simp [hdx]), hdx, sub_zero, octile_comm, octile_comm _ (a.dy goal - a.dy b).natAbs]
      exact octile_le_along (natAbs_sub_unit hdy _) _
    · have hdx' : (a.dx b).natAbs = 1 := by omega
      by_cases hdy : a.dy b = 0
      · rw [if_neg (by simp [hdy]), hdy, sub_zero]
        exact octile_le_along (natAbs_sub_unit hdx' _) _
      · rw [if_pos (by simp [hdx, hdy])]
        exact octile_le_across (natAbs_sub_unit hdx' _) (natAbs_sub_unit (by omega) _)

end CostModel

namespace BestFirst

/-- **Search with the octile estimate is optimal.** In exact arithmetic the route that it finds is one of the cheapest,
whatever the budget is, and it would be so whichever of the entries with the least total were taken from the line. -/
theorem search_cheapest (walk : Tile → Bool) (budget : Nat) (start goal : Tile) :
    Cheapest .exact walk start goal (search .exact walk budget start goal) ∧
      ∀ s p, Reached .exact walk budget start goal (cheapest .exact) s →
        Ends budget start goal (cheapest .exact) s p → Cheapest .exact walk start goal p := by
  have hall : ∀ s p, Reached .exact walk budget start goal (cheapest .exact) s →
      Ends budget start goal (cheapest .exact) s p → Cheapest .exact walk start goal p :=
    fun s p hs hends => cheapest_of_ends CostModel.consistent_exact hs hends
  obtain ⟨s, hs, hends⟩ := search_ends (serves_cheapest CostModel.exact_exact) walk budget start goal
  exact ⟨hall s _ hs hends, hall⟩

/-- Two steps across, around a wall. -/
example : (search .exact (fun t => decide (t ≠ ⟨1, 0⟩ ∧ t.x < 3 ∧ t.y < 2)) 10 ⟨0, 0⟩ ⟨2, 0⟩).route =
    some [⟨1, 1⟩, ⟨2, 0⟩] := by
  decide +kernel

end BestFirst

end TileRealm
