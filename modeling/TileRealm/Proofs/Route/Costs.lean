import Mathlib.Algebra.Order.Group.Defs
import Mathlib.Data.Prod.Lex
import TileRealm.Proofs.Route.Explored

/-!
# Exact costs

- `CostModel.routeCost`: what the steps of a route cost together;
- `CostModel.Exact`: costs that are added up and compared without rounding.  Then the line gives back an entry of the
  least total (`serves_cheapest`), and the label of a tile tells the cost of its lineage (`Lineage.routeCost`);
- `CostModel.Consistent`: estimates that shrink along a step by no more than its cost, so along a route, too
  (`Consistent.estimate_le`).
-/

set_option autoImplicit false

namespace TileRealm

namespace CostModel

variable {C : Type} {m : CostModel C} {walk : Tile → Bool} {a b c : Tile} {route rest : List Tile} {heading : Heading}

/-- The cost from a tile to a neighbour; to stay costs nothing. -/
def between (m : CostModel C) (a b : Tile) : C :=
  if a = b then m.zero else m.step ⟨a.dx b, a.dy b⟩

/-- The cost of the steps from a tile over those of a route. -/
def routeCost (m : CostModel C) : Tile → List Tile → C
  | _, [] => m.zero
  | a, b :: rest => m.add (m.between a b) (m.routeCost b rest)

theorem between_of_shift (hm : heading ∈ Heading.all) (hs : a.shift heading = some b) :
    m.between a b = m.step heading := by
  rw [between, if_neg (Tile.ne_of_adjacent (Tile.adjacent_of_shift hm hs)), Tile.shift_eq_some_iff.mp hs]

variable [AddCommGroup C] [LinearOrder C]

/-- Costs that are added up and compared without rounding. -/
structure Exact (m : CostModel C) : Prop where
  zero : m.zero = 0
  add : ∀ a b, m.add a b = a + b
  lt_iff : ∀ a b, m.lt a b = true ↔ a < b

/-- Exact costs with an estimate that shrinks along a step by no more than its cost. -/
structure Consistent (m : CostModel C) : Prop extends m.Exact where
  estimate_le_step : ∀ {a b : Tile} {heading : Heading} (goal : Tile), heading ∈ Heading.all →
    a.shift heading = some b → m.estimate a goal ≤ m.step heading + m.estimate b goal

namespace Exact

theorem not_lt_iff (hm : m.Exact) {a b : C} : m.lt a b = false ↔ b ≤ a := by
  rw [← Bool.not_eq_true, hm.lt_iff, not_lt]

theorem routeCost_nil (hm : m.Exact) (a : Tile) : m.routeCost a [] = 0 :=
  hm.zero

theorem routeCost_cons (hm : m.Exact) (a b : Tile) (rest : List Tile) :
    m.routeCost a (b :: rest) = m.between a b + m.routeCost b rest :=
  hm.add _ _

theorem routeCost_self (hm : m.Exact) (a : Tile) : m.routeCost a [a] = 0 := by
  rw [hm.routeCost_cons, hm.routeCost_nil, between, if_pos rfl, hm.zero, add_zero]

theorem routeCost_append (hm : m.Exact) (hr : IsRoute walk a b route) :
    m.routeCost a (route ++ rest) = m.routeCost a route + m.routeCost b rest := by
  induction route generalizing a with
  | nil =>
    obtain rfl : a = b := hr
    rw [List.nil_append, hm.routeCost_nil, zero_add]
  | cons next route ih =>
    obtain ⟨-, -, hr⟩ := hr
    rw [List.cons_append, hm.routeCost_cons, hm.routeCost_cons, ih hr, add_assoc]

/-- One more step. -/
theorem routeCost_concat (hm : m.Exact) (hr : IsRoute walk a b route) (hh : heading ∈ Heading.all)
    (hs : b.shift heading = some c) : m.routeCost a (route ++ [c]) = m.routeCost a route + m.step heading := by
  rw [hm.routeCost_append hr, hm.routeCost_cons, hm.routeCost_nil, add_zero, between_of_shift hh hs]

end Exact

/-- No estimate falls short along a route. -/
theorem Consistent.estimate_le [IsOrderedAddMonoid C] (hm : m.Consistent) (goal : Tile)
    (hr : IsRoute walk a b route) : m.estimate a goal ≤ m.routeCost a route + m.estimate b goal := by
  induction route generalizing a with
  | nil =>
    obtain rfl : a = b := hr
    rw [hm.routeCost_nil, zero_add]
  | cons next route ih =>
    obtain ⟨hadjacent, -, hr⟩ := hr
    obtain ⟨heading, hh, hs⟩ := Tile.exists_shift_iff.mpr hadjacent
    calc m.estimate a goal ≤ m.step heading + m.estimate next goal := hm.estimate_le_step goal hh hs
      _ ≤ m.step heading + (m.routeCost next route + m.estimate b goal) := add_le_add_right (ih hr) _
      _ = m.routeCost a (next :: route) + m.estimate b goal := by
        rw [hm.routeCost_cons, between_of_shift hh hs, add_assoc]

end CostModel

namespace BestFirst

variable {C : Type} [AddCommGroup C] [LinearOrder C] {m : CostModel C} {walk : Tile → Bool} {start tile : Tile}
  {s : Search C}

/-- By what entries are put in order. -/
def Entry.key (e : Entry C) : C ×ₗ C ×ₗ Nat :=
  toLex (e.total, toLex (e.estimate, e.age))

theorem Entry.before_iff (hm : m.Exact) (a b : Entry C) : a.before m b = true ↔ a.key ≤ b.key := by
  unfold Entry.before Entry.key
  rw [Prod.Lex.toLex_le_toLex, Prod.Lex.toLex_le_toLex]
  dsimp only
  simp only [hm.lt_iff]
  split
  · rename_i hlt
    exact iff_of_true rfl (Or.inl hlt)
  · rename_i hnlt
    split
    · rename_i hgt
      exact iff_of_false Bool.false_ne_true (not_or.mpr ⟨hnlt, fun h => hgt.ne h.1.symm⟩)
    · rename_i hngt
      have htotal : a.total = b.total := le_antisymm (not_lt.mp hngt) (not_lt.mp hnlt)
      split
      · rename_i hlt
        exact iff_of_true rfl (Or.inr ⟨htotal, Or.inl hlt⟩)
      · rename_i hnlt'
        split
        · rename_i hgt
          exact iff_of_false Bool.false_ne_true
            (not_or.mpr ⟨hnlt, fun h => h.2.elim hnlt' fun h => hgt.ne h.1.symm⟩)
        · rename_i hngt'
          have hestimate : a.estimate = b.estimate := le_antisymm (not_lt.mp hngt') (not_lt.mp hnlt')
          rw [decide_eq_true_eq]
          exact ⟨fun h => Or.inr ⟨htotal, Or.inr ⟨hestimate, h⟩⟩,
            fun h => (h.resolve_left hnlt).2.elim (fun h => absurd h hnlt') (·.2)⟩

theorem Entry.before_total (hm : m.Exact) (a b : Entry C) : a.before m b = true ∨ b.before m a = true := by
  rw [before_iff hm, before_iff hm]
  exact le_total _ _

theorem Entry.before_trans (hm : m.Exact) (a b c : Entry C) (hab : a.before m b = true) (hbc : b.before m c = true) :
    a.before m c = true := by
  rw [before_iff hm] at hab hbc ⊢
  exact hab.trans hbc

/-- With exact costs the line gives back an entry of the least total. -/
theorem serves_cheapest (hm : m.Exact) :
    Serves m (fun line => line.IsTree ∧ line.Ordered (Entry.before m)) (cheapest m) where
  isTree _ hline := hline.1
  nil := ⟨trivial, trivial⟩
  insert _ _ hline := ⟨Heap.isTree_insert _ _ hline.1,
    Heap.ordered_insert (Entry.before_total hm) (Entry.before_trans hm) _ hline.2⟩
  pop line entry rest hline hpop := by
    have hserve := ((serves_anyone m).pop line entry rest hline.1 hpop).2
    refine ⟨⟨hserve.1, Heap.ordered_pop? (Entry.before_total hm) (Entry.before_trans hm) hline.2 hpop⟩, hserve,
      fun other hother => ?_⟩
    have hbefore := Heap.before_of_pop? (Entry.before_total hm) hline.1 hline.2 hpop other hother
    rw [Entry.before_iff hm, Entry.key, Entry.key, Prod.Lex.toLex_le_toLex] at hbefore
    exact hm.not_lt_iff.mpr (hbefore.elim le_of_lt fun h => h.1.le)
  anyone _ _ _ hserve := hserve.1

/-- With exact costs the label of a tile tells the cost of its lineage. -/
theorem Lineage.routeCost {back : List Tile} {cost : C} (hm : m.Exact) (h : Lineage m walk s start tile back cost) :
    m.routeCost start back.reverse = cost := by
  induction h with
  | root => exact rfl
  | child hback _ hh hs _ _ _ ih => rw [List.reverse_cons, hm.routeCost_concat hback.isRoute hh hs, ih, hm.add]

end BestFirst

end TileRealm
