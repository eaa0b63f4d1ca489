import TileRealm.Proofs.Route.Complete
import TileRealm.Proofs.Route.Straight

/-!
# Budgets only cut

What a planner answers with a smaller budget is what it answers with a larger one, or nothing at all.

- `Plan.cut`: an answer for which a budget is enough, or else that of a planner who has spent the budget;
- `Straight.walkOn_cut`, `BestFirst.Search.run_cut`: two runs of a planner side by side, with different budgets;
- `Straight.search_eq_cut`, `BestFirst.search_eq_cut`: all answers of a planner are cut from one;
- `plan_capped`: what this says of planners, and of the least budget that is enough.
-/

set_option autoImplicit false

namespace TileRealm

/-- An answer that took no more work than a budget allows, or else no route for the whole budget. -/
def Plan.cut (p : Plan) (budget : Nat) : Plan :=
  if p.expanded ≤ budget then p else ⟨none, budget⟩

namespace Plan

variable {p : Plan} {budget : Nat}

theorem cut_of_le (h : p.expanded ≤ budget) : p.cut budget = p :=
  if_pos h

theorem cut_of_lt (h : budget < p.expanded) : p.cut budget = ⟨none, budget⟩ :=
  if_neg (Nat.not_le.mpr h)

/-- Where no answer takes more work than `most`, a larger budget cuts nothing. -/
theorem cut_min {most : Nat} (h : p.expanded ≤ most) : p.cut (min most budget) = p.cut budget := by
  rcases Nat.le_total most budget with hle | hle
  · rw [Nat.min_eq_left hle, cut_of_le h, cut_of_le (h.trans hle)]
  · rw [Nat.min_eq_right hle]

end Plan

/-! ## Straight walks -/

namespace Straight

variable {walk : Tile → Bool} {goal current : Tile}

/-- A walk counts the steps that were taken before. -/
theorem length_le_expanded (walk : Tile → Bool) (goal : Tile) (left : Nat) (current : Tile)
    (visited : Std.ExtTreeSet Tile) (taken : List Tile) :
    taken.length ≤ (walkOn walk goal left current visited taken).expanded := by
  induction left generalizing current visited taken with
  | zero => exact Nat.le_refl _
  | succ left ih =>
    rw [walkOn]
    split
    · exact Nat.le_refl _
    · split
      · exact Nat.le_of_succ_le (ih _ _ (_ :: taken))
      · exact Nat.le_succ _

/-- Away from the goal, a walk that may go on takes or tries one more step. -/
theorem length_lt_expanded (hne : current ≠ goal) (left : Nat) (visited : Std.ExtTreeSet Tile) (taken : List Tile) :
    taken.length < (walkOn walk goal (left + 1) current visited taken).expanded := by
  rw [walkOn, if_neg hne]
  split
  · exact length_le_expanded walk goal left _ _ (_ :: taken)
  · exact Nat.lt_succ_self _

/-- The walk with fewer steps left is the other one as far as it gets. -/
theorem walkOn_cut {fewer left : Nat} (hle : fewer ≤ left) (current : Tile) (visited : Std.ExtTreeSet Tile)
    (taken : List Tile) : walkOn walk goal fewer current visited taken =
      (walkOn walk goal left current visited taken).cut (taken.length + fewer) := by
  induction fewer generalizing left current visited taken with
  | zero =>
    by_cases hgoal : current = goal
    · have hmet : ∀ left, walkOn walk goal left current visited taken = ⟨some taken.reverse, taken.length⟩ := by
        rintro (_ | left) <;> simp [walkOn, hgoal]
      rw [hmet, hmet, Nat.add_zero, Plan.cut_of_le (Nat.le_refl _)]
    · have hstopped : walkOn walk goal 0 current visited taken = ⟨none, taken.length⟩ := by rw [walkOn, if_neg hgoal]
      rw [hstopped, Nat.add_zero]
      cases left with
      | zero => rw [hstopped, Plan.cut_of_le (Nat.le_refl _)]
      | succ left => rw [Plan.cut_of_lt (length_lt_expanded hgoal left visited taken)]
  | succ fewer ih =>
    obtain ⟨left, rfl⟩ := Nat.exists_eq_succ_of_ne_zero (Nat.ne_zero_of_lt hle)
    rw [walkOn, walkOn]
    split
    · exact (Plan.cut_of_le (Nat.le_add_right _ _)).symm
    · split
      · rename_i next _
        rw [ih (Nat.le_of_succ_le_succ hle), List.length_cons, Nat.add_right_comm, Nat.add_assoc]
      · exact (Plan.cut_of_le (Nat.add_le_add_left (Nat.succ_pos _) _)).symm

/-- The straight walks with all limits are cut from the one that only the distance of its ends limits. -/
theorem search_eq_cut (walk : Tile → Bool) (start goal : Tile) :
    ∃ p : Plan, ∀ limit, search walk limit start goal = p.cut limit := by
  let most := (start.distance goal * 2).toUInt64.toNat
  let visited := (∅ : Std.ExtTreeSet Tile).insert start
  refine ⟨walkOn walk goal most start visited [], fun limit => ?_⟩
  have hmost : (walkOn walk goal most start visited []).expanded ≤ most := by
    simpa using (walkOn_spec goal most (walked_start walk start)).1
  rw [search, budget, walkOn_cut (Nat.min_le_left most limit), List.length_nil, Nat.zero_add, Plan.cut_min hmost]

end Straight

/-! ## Best-first searches -/

namespace BestFirst

variable {C : Type} {m : CostModel C} {walk : Tile → Bool} {start goal : Tile} {s : Search C}

namespace Search

/-- A run counts the tiles that were expanded before. -/
theorem expanded_le_run (m : CostModel C) (walk : Tile → Bool) (budget : Nat) (start goal : Tile) (fuel : Nat)
    (s : Search C) : s.expanded ≤ (s.run m walk budget start goal fuel).expanded := by
  induction fuel generalizing s with
  | zero => exact Nat.le_refl _
  | succ fuel ih =>
    rw [run]
    split
    · exact Nat.le_refl _
    · rename_i entry rest _
      dsimp only
      split
      · exact ih { s with waiting := rest }
      · split
        · exact Nat.le_refl _
        · split
          · exact Nat.le_succ _
          · let closed := ({ s with waiting := rest } : Search C).close entry.tile
            have hnext : (closed.lookAround m walk goal entry.tile).expanded = s.expanded + 1 :=
              (lookAround_kept m walk goal entry.tile closed).2
            exact Nat.le_of_succ_le (hnext.symm.trans_le (ih _))

/-- Each tile in line, and each one that may still be put there, has a round. -/
def Lasts (s : Search C) (budget fuel : Nat) : Prop :=
  s.waiting.toList.length + 8 * (budget - s.expanded) < fuel

/-- The run with the smaller budget is the other one as far as it gets, if both have enough rounds. -/
theorem run_cut {fewer budget few fuel : Nat} (hle : fewer ≤ budget) (htree : s.waiting.IsTree)
    (hexpanded : s.expanded ≤ fewer) (hfew : s.Lasts fewer few) (hfuel : s.Lasts budget fuel) :
    s.run m walk fewer start goal few = (s.run m walk budget start goal fuel).cut fewer := by
  unfold Lasts at hfew hfuel
  induction few generalizing s fuel with
  | zero => omega
  | succ few ih =>
    obtain ⟨fuel, rfl⟩ := Nat.exists_eq_succ_of_ne_zero (Nat.ne_zero_of_lt hfuel)
    rw [run, run]
    cases hpop : s.waiting.pop? (Entry.before m) with
    | none => exact (Plan.cut_of_le hexpanded).symm
    | some popped =>
      obtain ⟨entry, rest⟩ := popped
      have hrest : rest.IsTree := Heap.isTree_pop? hpop
      have hlength : rest.toList.length + 1 = s.waiting.toList.length := (Heap.toList_pop? _ htree hpop).length_eq
      dsimp only
      split
      · exact ih hrest hexpanded (by dsimp only; omega) (by dsimp only; omega)
      · -- the next tile is expanded, unless the smaller budget or both are spent
        let next := (({ s with waiting := rest } : Search C).close entry.tile).lookAround m walk goal entry.tile
        have hnext : next.expanded = s.expanded + 1 := (lookAround_kept m walk goal entry.tile _).2
        by_cases hspent : fewer ≤ s.expanded
        · obtain rfl : s.expanded = fewer := Nat.le_antisymm hexpanded hspent
          rw [if_pos (Nat.le_refl _)]
          split
          · exact (Plan.cut_of_le (Nat.le_refl _)).symm
          · split
            · exact (Plan.cut_of_lt (Nat.lt_succ_self _)).symm
            · refine (Plan.cut_of_lt ?_).symm
              exact (hnext ▸ expanded_le_run m walk budget start goal fuel next : s.expanded + 1 ≤ _)
        · rw [if_neg hspent, if_neg fun h => hspent (hle.trans h)]
          rw [Nat.not_le] at hspent
          split
          · exact (Plan.cut_of_le hspent).symm
          · obtain ⟨htree', hline⟩ := (serves_anyone m).lookAround
              (s := ({ s with waiting := rest } : Search C).close entry.tile) hrest walk goal entry.tile
            have hline' : next.waiting.toList.length ≤ rest.toList.length + 8 := hline
            exact ih (s := next) htree' (hnext ▸ hspent) (by omega) (by omega)

end Search

/-- With a smaller budget a search answers the same, or nothing. -/
theorem search_cut {fewer budget : Nat} (hle : fewer ≤ budget) (m : CostModel C) (walk : Tile → Bool)
    (start goal : Tile) : search m walk fewer start goal = (search m walk budget start goal).cut fewer := by
  have hlasts : ∀ budget, (Search.start m start goal).Lasts budget (rounds budget) := by
    intro budget
    have hlength : (Search.start m start goal).waiting.toList.length = 1 := rfl
    have hexpanded : (Search.start m start goal).expanded = 0 := rfl
    rw [Search.Lasts, hlength, hexpanded, rounds]
    omega
  have htree : (Search.start m start goal).waiting.IsTree := (serves_anyone m).insert _ _ (serves_anyone m).nil
  exact Search.run_cut hle htree (Nat.zero_le _) (hlasts fewer) (hlasts budget)

/-- However large the budget is, no more tiles are expanded than there are in the region of the start. -/
theorem expanded_le_ncard (m : CostModel C) (walk : Tile → Bool) (budget : Nat) (start goal : Tile) :
    (search m walk budget start goal).expanded ≤ (region walk start).ncard := by
  obtain ⟨s, hs, hends⟩ := search_ends (serves_anyone m) walk budget start goal
  have hexplored := explored_of_reached hs
  have hclosed : s.expanded ≤ (region walk start).ncard := by
    rw [← hexplored.size_closed, ← ncard_closed]
    exact Set.ncard_le_ncard hexplored.closed_subset
  generalize search m walk budget start goal = answer at hends ⊢
  cases hends with
  | exhausted => exact hclosed
  | spent => exact hclosed
  | met hserve hopen => exact hexplored.expanded_lt hserve hopen

/-- The searches with all budgets are cut from one whose budget is enough for the whole region of the start. -/
theorem search_eq_cut (m : CostModel C) (walk : Tile → Bool) (start goal : Tile) :
    ∃ p : Plan, ∀ budget, search m walk budget start goal = p.cut budget := by
  refine ⟨search m walk (region walk start).ncard start goal, fun budget => ?_⟩
  rcases Nat.le_total budget (region walk start).ncard with hle | hle
  · exact search_cut hle m walk start goal
  · rw [search_cut hle m walk start goal, Plan.cut_of_le (expanded_le_ncard m walk budget start goal)]
    exact (Plan.cut_of_le (expanded_le_ncard m walk budget start goal |>.trans hle)).symm

end BestFirst

/-! ## Planners -/

/-- The limits with another cap on the work of an algorithm. -/
def Limits.capped (limits : Limits) (cap : Nat) : Algorithm → Limits
  | .straight => { limits with steps := cap }
  | .bestFirst => { limits with expansions := cap }

/-- All answers of a planner are cut from one. -/
theorem plan_eq_cut (walk : Tile → Bool) (limits : Limits) (algorithm : Algorithm) (start goal : Tile) :
    ∃ p : Plan, ∀ cap, plan walk (limits.capped cap algorithm) algorithm start goal = p.cut cap := by
  unfold plan
  split
  · exact ⟨⟨none, 0⟩, fun cap => (Plan.cut_of_le (Nat.zero_le cap)).symm⟩
  · split
    · exact ⟨⟨some [goal], 0⟩, fun cap => (Plan.cut_of_le (Nat.zero_le cap)).symm⟩
    · cases algorithm with
      | straight => exact Straight.search_eq_cut walk start goal
      | bestFirst => exact BestFirst.search_eq_cut (.ofHeuristic limits.heuristic) walk start goal

/-- **Budgets only cut, they never change an answer.** There is a number of steps or expansions that is enough.  With any
cap from there on the answer is the same and has taken just that much work, and with a smaller one nothing is found for
all of it.  So a route that was found is found with every larger cap, and the work that it took is the least cap that is
enough. -/
theorem plan_capped (walk : Tile → Bool) (limits : Limits) (algorithm : Algorithm) (start goal : Tile) :
    let answer (cap : Nat) : Plan := plan walk (limits.capped cap algorithm) algorithm start goal
    (∃ enough route, ∀ cap, answer cap = if enough ≤ cap then ⟨route, enough⟩ else ⟨none, cap⟩) ∧
    ∀ cap, (answer cap).found = true →
      (∀ more, cap ≤ more → answer more = answer cap) ∧
      ∀ other, (answer other).found = true ↔ (answer cap).expanded ≤ other := by
  intro answer
  obtain ⟨p, hp⟩ := plan_eq_cut walk limits algorithm start goal
  have hanswer : ∀ cap, answer cap = p.cut cap := hp
  refine ⟨⟨p.expanded, p.route, hanswer⟩, fun cap hfound => ?_⟩
  have henough : p.expanded ≤ cap := by
    by_contra hlt
    rw [hanswer, Plan.cut_of_lt (Nat.not_le.mp hlt)] at hfound
    cases hfound
  have hcap : answer cap = p := (hanswer cap).trans (Plan.cut_of_le henough)
  refine ⟨fun more hmore => ?_, fun other => ?_⟩
  · rw [hanswer, hcap, Plan.cut_of_le (henough.trans hmore)]
  · rw [hanswer, hcap]
    rcases Nat.lt_or_ge other p.expanded with hlt | hle
    · rw [Plan.cut_of_lt hlt]
      exact ⟨nofun, fun hle => absurd hlt (Nat.not_lt.mpr hle)⟩
    · rw [Plan.cut_of_le hle]
      exact ⟨fun _ => hle, fun _ => hcap ▸ hfound⟩

end TileRealm
