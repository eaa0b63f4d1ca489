import Mathlib.Data.FinEnum
import Mathlib.Data.Set.Card
import TileRealm.Proofs.Route.Explored
import TileRealm.Route.Planner

/-!
# A best-first search misses no tile

- `region`: the tiles that can be reached from a start;
- `Explored.closed_subset`, `Explored.closed_eq`: a search expands tiles of the region alone, and all of them by the
  time none waits;
- `search_complete`: so within its budget it finds every goal in the region, and it expands the whole region for a goal
  outside, whatever the costs and estimates are;
- `plan_complete`: what this says of planners.
-/

set_option autoImplicit false

namespace TileRealm

instance Tile.finite : Finite Tile :=
  Finite.of_injective (fun t => (t.x, t.y)) fun a b h => by
    rw [Prod.mk.injEq] at h
    exact Tile.mk.injEq _ _ _ _ ▸ h

/-- The tiles that can be reached from a start over walkable neighbours. -/
def region (walk : Tile → Bool) (start : Tile) : Set Tile :=
  {t | ∃ route, IsRoute walk start t route}

namespace BestFirst

variable {C : Type} {m : CostModel C} {walk : Tile → Bool} {budget : Nat} {start goal : Tile} {s : Search C}

/-- How many tiles were expanded, as the size of a set. -/
theorem ncard_closed (s : Search C) : {t | t ∈ s.closed}.ncard = s.closed.size := by
  have hset : {t | t ∈ s.closed} = ↑s.closed.toList.toFinset := by
    ext t
    simp
  have hnodup : s.closed.toList.Nodup :=
    Std.ExtTreeSet.distinct_toList.imp fun {a b} hab heq => hab (Tile.compare_eq_iff.mpr heq.symm)
  rw [hset, Set.ncard_coe_finset, List.toFinset_card_of_nodup hnodup, Std.ExtTreeSet.length_toList]

namespace Explored

variable {due : Tile → Tile → Prop}

/-- Labelled tiles can be reached. -/
theorem labels_subset (h : Explored m walk budget start goal due s) : {t | t ∈ s.labels} ⊆ region walk start := by
  intro t ht
  obtain ⟨back, cost, hback⟩ := h.exists_lineage ht
  exact ⟨back.reverse, hback.isRoute⟩

theorem closed_subset (h : Explored m walk budget start goal due s) : {t | t ∈ s.closed} ⊆ region walk start :=
  fun t ht => h.labels_subset (h.labelled_closed t ht)

/-- When no tile waits, all labelled tiles were expanded, so their neighbours are labelled, too. -/
theorem closed_eq (h : Explored m walk budget start goal (fun _ _ => False) s) (hnil : s.waiting = .nil) :
    {t | t ∈ s.closed} = region walk start := by
  have hclosed : ∀ t ∈ s.labels, t ∈ s.closed := by
    intro t ht
    by_contra hopen
    obtain ⟨entry, hentry, -⟩ := h.waits t ht hopen
    rw [hnil] at hentry
    cases hentry
  refine h.closed_subset.antisymm ?_
  rintro t ⟨route, hroute⟩
  have hstart : start ∈ s.closed := hclosed start (mem_labels_iff.mpr ⟨_, h.origin⟩)
  -- along the route, from one expanded tile to the next
  have along : ∀ route p, p ∈ s.closed → IsRoute walk p t route → t ∈ s.closed := by
    intro route
    induction route with
    | nil =>
      rintro p hp rfl
      exact hp
    | cons next rest ih =>
      rintro p hp ⟨hadjacent, hwalk, hrest⟩
      exact ih next (hclosed next ((h.bordered p hp next hadjacent hwalk).elim id False.elim)) hrest
  exact along route start hstart hroute

/-- There is a tile in the region for each tile that was expanded and for one that is about to be. -/
theorem expanded_lt (h : Explored m walk budget start goal due s) {entry : Entry C} {rest : Heap (Entry C)}
    (hserve : anyone s.waiting entry rest) (hopen : entry.tile ∉ s.closed) :
    s.expanded < (region walk start).ncard := by
  have hentry : entry.tile ∈ region walk start :=
    h.labels_subset (h.labelled_waiting entry hserve.mem_entry)
  have hssub : {t | t ∈ s.closed} ⊂ region walk start :=
    h.closed_subset.ssubset_of_mem_notMem hentry hopen
  rw [← h.size_closed, ← ncard_closed]
  exact Set.ncard_lt_ncard hssub

end Explored

/-- **A best-first search is complete up to its budget.** -/
theorem search_complete (m : CostModel C) (walk : Tile → Bool) (budget : Nat) (start goal : Tile) :
    (goal ∉ region walk start → (search m walk budget start goal).found = false ∧
      (search m walk budget start goal).expanded = min (region walk start).ncard budget) ∧
    (goal ∈ region walk start → (region walk start).ncard ≤ budget → (search m walk budget start goal).found = true) ∧
    ((search m walk budget start goal).found = false → (search m walk budget start goal).expanded < budget →
      goal ∉ region walk start) := by
  obtain ⟨s, hs, hends⟩ := search_ends (serves_anyone m) walk budget start goal
  have hexplored := explored_of_reached hs
  have hwithin := hexplored.within
  generalize search m walk budget start goal = answer at hends ⊢
  cases hends with
  | exhausted hnil =>
    have hall := hexplored.closed_eq hnil
    have hcard : (region walk start).ncard = s.expanded := by rw [← hall, ncard_closed, hexplored.size_closed]
    have hgoal : goal ∉ region walk start := hall ▸ hexplored.unmet
    exact ⟨fun _ => ⟨rfl, by rw [hcard, min_eq_left hwithin]⟩, fun hmem => absurd hmem hgoal, fun _ _ => hgoal⟩
  | spent hserve hopen hspent =>
    have hlt := hexplored.expanded_lt hserve hopen
    refine ⟨fun _ => ⟨rfl, ?_⟩, fun _ hle => ?_, fun _ hlt' => ?_⟩
    · rw [min_eq_right (hspent.trans hlt.le)]
      exact le_antisymm hwithin hspent
    · omega
    · exact absurd hlt' (Nat.not_lt.mpr hspent)
  | met hserve _ _ hgoal =>
    have hmem : goal ∈ region walk start :=
      hexplored.labels_subset (hgoal ▸ hexplored.labelled_waiting _ hserve.mem_entry)
    exact ⟨fun hout => absurd hmem hout, fun _ _ => rfl, nofun⟩

end BestFirst

/-- **Best-first planning is complete up to its budget.** Between two walkable tiles it finds no route only where there
is none or the budget is spent, and if there is none, then it expands the whole region of the start as far as the budget
allows. -/
theorem plan_complete (walk : Tile → Bool) (limits : Limits) (start goal : Tile) (hstart : walk start = true)
    (hgoal : walk goal = true) (hne : start ≠ goal) :
    (goal ∉ region walk start → (plan walk limits .bestFirst start goal).found = false ∧
      (plan walk limits .bestFirst start goal).expanded = min (region walk start).ncard limits.expansions) ∧
    (goal ∈ region walk start → (region walk start).ncard ≤ limits.expansions →
      (plan walk limits .bestFirst start goal).found = true) ∧
    ((plan walk limits .bestFirst start goal).found = false →
      (plan walk limits .bestFirst start goal).expanded < limits.expansions → goal ∉ region walk start) := by
  have hplan : plan walk limits .bestFirst start goal =
      BestFirst.search (.ofHeuristic limits.heuristic) walk limits.expansions start goal := by
    simp only [plan, hstart, hgoal, Bool.not_true, Bool.or_self, Bool.false_eq_true, if_false, if_neg hne]
  rw [hplan]
  exact BestFirst.search_complete _ walk limits.expansions start goal

/-- A wall between two columns of three tiles: that no route is found within the budget proves that there is none. -/
theorem not_mem_region_of_wall :
    (⟨2, 1⟩ : Tile) ∉ region (fun t => decide (t.x ≠ 1 ∧ t.x < 3 ∧ t.y < 3)) ⟨0, 0⟩ := by
  have hcomplete := plan_complete (fun t => decide (t.x ≠ 1 ∧ t.x < 3 ∧ t.y < 3)) { expansions := 4 } ⟨0, 0⟩ ⟨2, 1⟩
    (by decide) (by decide) (by decide)
  exact hcomplete.2.2 (by decide +kernel) (by decide +kernel)

end TileRealm
