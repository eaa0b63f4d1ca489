import TileRealm.Proofs.Route.Neighbours
import TileRealm.Route.Straight

/-!
# What straight walks find

- `towards?`, `walkOn?`, `search?`: the walk with divisions that fail at 0, which it never meets (`search?_eq`);
- `next?_spec`: each step leads to a free neighbour;
- `Walked`: what the walk knows on its way, kept by each step (`Walked.step`);
- `walkOn_spec`, `search_spec`: the route that is found, and the steps that it took.
-/

set_option autoImplicit false

namespace TileRealm

namespace Straight

variable {walk free : Tile → Bool} {start current goal next : Tile}

/-! ## Divisions -/

/-- A quotient, which fails if the divisor is 0. -/
def quotient? (a b : Int) : Option Int :=
  if b = 0 then none else some (a.tdiv b)

/-- The tile straight at the goal; a division by 0 fails. -/
def towards? (current goal : Tile) : Option (Option Tile) :=
  let dx := current.dx goal
  let dy := current.dy goal
  if dx.natAbs > dy.natAbs then (quotient? dy dx.natAbs).map fun minor => current.offset dx.sign minor
  else (quotient? dx dy.natAbs).map fun minor => current.offset minor dy.sign

/-- Walks on; a division by 0 fails. -/
def walkOn? (walk : Tile → Bool) (goal : Tile) : Nat → Tile → Std.ExtTreeSet Tile → List Tile → Option Plan
  | 0, current, _, taken => some ⟨if current = goal then some taken.reverse else none, taken.length⟩
  | left + 1, current, visited, taken =>
    if current = goal then some ⟨some taken.reverse, taken.length⟩
    else
      (towards? current goal).bind fun straight =>
        let free := fun t => walk t && !visited.contains t
        match (straight.filter free).or (leastTurn free current goal) with
        | some next => walkOn? walk goal left next (visited.insert next) (next :: taken)
        | none => some ⟨none, taken.length + 1⟩

/-- A walk from the start to the goal; a division by 0 fails. -/
def search? (walk : Tile → Bool) (limit : Nat) (start goal : Tile) : Option Plan :=
  walkOn? walk goal (budget limit start goal) start ((∅ : Std.ExtTreeSet Tile).insert start) []

/-- The longer of both differences is 0 only at the goal. -/
theorem natAbs_pos (h : current ≠ goal) : 0 < max (current.dx goal).natAbs (current.dy goal).natAbs :=
  Nat.pos_of_ne_zero fun hs => h (Tile.steps_eq_zero_iff.mp hs)

theorem towards?_eq (h : current ≠ goal) : towards? current goal = some (towards current goal) := by
  have hpos := natAbs_pos h
  unfold towards? towards
  dsimp only
  split
  · have hdx : ((current.dx goal).natAbs : Int) ≠ 0 := by omega
    rw [quotient?, if_neg hdx, Option.map_some]
  · have hdy : ((current.dy goal).natAbs : Int) ≠ 0 := by omega
    rw [quotient?, if_neg hdy, Option.map_some]

theorem walkOn?_eq (walk : Tile → Bool) (goal : Tile) (left : Nat) (current : Tile) (visited : Std.ExtTreeSet Tile)
    (taken : List Tile) :
    walkOn? walk goal left current visited taken = some (walkOn walk goal left current visited taken) := by
  induction left generalizing current visited taken with
  | zero => rfl
  | succ left ih =>
    rw [walkOn?, walkOn]
    split
    · rfl
    · rename_i hne
      rw [towards?_eq hne, Option.bind_some, next?]
      dsimp only
      generalize ((towards current goal).filter _).or _ = step
      cases step with
      | some next => exact ih _ _ _
      | none => rfl

/-- No walk divides by 0. -/
theorem search?_eq (walk : Tile → Bool) (limit : Nat) (start goal : Tile) :
    search? walk limit start goal = some (search walk limit start goal) :=
  walkOn?_eq walk goal _ _ _ _

/-! ## Single steps -/

/-- The step straight at the goal leads to a neighbour: the longer difference gives a whole step, and the shorter one
at most that. -/
theorem adjacent_of_towards (hne : current ≠ goal) (h : towards current goal = some next) :
    current.adjacent next = true := by
  have hpos := natAbs_pos hne
  unfold towards at h
  dsimp only at h
  rw [Tile.adjacent_iff, Tile.steps, Tile.dx, Tile.dy]
  split at h
  · rename_i hlt
    have hminor : ((current.dy goal).tdiv (current.dx goal).natAbs).natAbs = 0 := by
      rw [Int.natAbs_tdiv, Int.natAbs_natCast]
      exact Nat.div_eq_of_lt hlt
    have hmajor : (current.dx goal).sign.natAbs = 1 := Int.natAbs_sign_of_ne_zero (by omega)
    obtain ⟨hx, hy⟩ := Tile.offset_eq_some_iff.mp h
    omega
  · rename_i hle
    have hminor : ((current.dx goal).tdiv (current.dy goal).natAbs).natAbs ≤ 1 := by
      rw [Int.natAbs_tdiv, Int.natAbs_natCast]
      exact Nat.div_le_of_le_mul (by omega)
    have hmajor : (current.dy goal).sign.natAbs = 1 := Int.natAbs_sign_of_ne_zero (by omega)
    obtain ⟨hx, hy⟩ := Tile.offset_eq_some_iff.mp h
    omega

theorem leastTurn_spec (h : leastTurn free current goal = some next) :
    current.adjacent next = true ∧ free next = true := by
  unfold leastTurn at h
  obtain ⟨candidate, hleast, hnext⟩ := Option.map_eq_some_iff.mp h
  obtain ⟨heading, hm, hcandidate⟩ := List.mem_filterMap.mp (mem_of_leastBy hleast)
  simp only [bind, Option.bind_eq_some_iff] at hcandidate
  obtain ⟨t, hshift, hfree⟩ := hcandidate
  split at hfree
  · rename_i hft
    rw [Option.some.injEq] at hfree
    subst hfree hnext
    exact ⟨Tile.adjacent_of_shift hm hshift, hft⟩
  · cases hfree

/-- Each step leads to a free neighbour. -/
theorem next?_spec (hne : current ≠ goal) (h : next? free current goal = some next) :
    current.adjacent next = true ∧ free next = true := by
  rcases Option.or_eq_some_iff.mp h with h | ⟨-, h⟩
  · obtain ⟨htowards, hfree⟩ := Option.filter_eq_some_iff.mp h
    exact ⟨adjacent_of_towards hne htowards, hfree⟩
  · exact leastTurn_spec h

/-! ## Walks -/

/-- A walk that has come from the start to `current` over the tiles taken, the last one first. -/
structure Walked (walk : Tile → Bool) (start current : Tile) (visited : Std.ExtTreeSet Tile) (taken : List Tile) :
    Prop where
  route : IsRoute walk start current taken.reverse
  nodup : (start :: taken.reverse).Nodup
  mem_visited : ∀ t, t ∈ visited ↔ t ∈ start :: taken

theorem walked_start (walk : Tile → Bool) (start : Tile) :
    Walked walk start start ((∅ : Std.ExtTreeSet Tile).insert start) [] where
  route := rfl
  nodup := by simp
  mem_visited t := by rw [Tile.mem_insert, List.mem_singleton, or_iff_left Std.ExtTreeSet.not_mem_empty]

/-- A step to a neighbour that was not visited. -/
theorem Walked.step {visited : Std.ExtTreeSet Tile} {taken : List Tile} (h : Walked walk start current visited taken)
    (hadjacent : current.adjacent next = true) (hwalk : walk next = true) (hnew : next ∉ visited) :
    Walked walk start next (visited.insert next) (next :: taken) where
  route := by
    rw [List.reverse_cons]
    exact h.route.concat hadjacent hwalk
  nodup := by
    have hmem : next ∉ start :: taken.reverse := by
      rw [h.mem_visited] at hnew
      simpa using hnew
    rw [List.reverse_cons, ← List.cons_append, List.nodup_append]
    refine ⟨h.nodup, by simp, ?_⟩
    rintro a ha b hb rfl
    rw [List.mem_singleton] at hb
    exact hmem (hb ▸ ha)
  mem_visited t := by
    rw [Tile.mem_insert, h.mem_visited]
    simp only [List.mem_cons]
    exact or_left_comm

/-- A walk that has come to the goal has found a route. -/
theorem Walked.found {visited : Std.ExtTreeSet Tile} {taken : List Tile} (h : Walked walk start current visited taken)
    (hc : current = goal) : IsRoute walk start goal taken.reverse ∧ (start :: taken.reverse).Nodup ∧
      taken.reverse.length = taken.length :=
  ⟨hc ▸ h.route, h.nodup, List.length_reverse⟩

/-- The answer of a walk: it takes no more steps than it may, and the route that it finds consists of its steps. -/
theorem walkOn_spec (goal : Tile) (left : Nat) {visited : Std.ExtTreeSet Tile} {taken : List Tile}
    (h : Walked walk start current visited taken) :
    (walkOn walk goal left current visited taken).expanded ≤ taken.length + left ∧
      ∀ path, (walkOn walk goal left current visited taken).route = some path →
        IsRoute walk start goal path ∧ (start :: path).Nodup ∧
          path.length = (walkOn walk goal left current visited taken).expanded := by
  induction left generalizing current visited taken with
  | zero =>
    rw [walkOn]
    refine ⟨Nat.le_refl _, fun path hp => ?_⟩
    dsimp only at hp ⊢
    split at hp
    · rename_i hc
      cases hp
      exact h.found hc
    · cases hp
  | succ left ih =>
    rw [walkOn]
    split
    · rename_i hc
      refine ⟨Nat.le_add_right _ _, fun path hp => ?_⟩
      cases hp
      exact h.found hc
    · rename_i hne
      split
      · rename_i next hnext
        obtain ⟨hadjacent, hfree⟩ := next?_spec hne hnext
        rw [Bool.and_eq_true, Bool.not_eq_true', ← Bool.not_eq_true, Std.ExtTreeSet.contains_iff_mem] at hfree
        obtain ⟨hle, hroute⟩ := ih (h.step hadjacent hfree.1 hfree.2)
        rw [List.length_cons] at hle
        exact ⟨by omega, hroute⟩
      · refine ⟨?_, nofun⟩
        dsimp only
        omega

/-- **What a straight walk finds.** Its route visits no tile twice and has as many tiles as it took steps, of which
there are no more than the limit allows. -/
theorem search_spec (walk : Tile → Bool) (limit : Nat) (start goal : Tile) :
    (search walk limit start goal).expanded ≤ limit ∧
      ∀ path, (search walk limit start goal).route = some path →
        IsRoute walk start goal path ∧ (start :: path).Nodup ∧
          path.length = (search walk limit start goal).expanded := by
  obtain ⟨hle, hroute⟩ := walkOn_spec goal (budget limit start goal) (walked_start walk start)
  rw [List.length_nil, Nat.zero_add] at hle
  exact ⟨hle.trans (Nat.min_le_right _ _), hroute⟩

end Straight

end TileRealm
