import TileRealm.Proofs.Float.Truncation
import TileRealm.Proofs.Route.Straight
import TileRealm.Proofs.Tile.Distance
import TileRealm.Route.Planner

/-!
# Clear lines

- `Tile.ray`, `Straight.line`: the straight line to a tile, along one axis to a corner and then diagonally;
- `Straight.corner_spec`, `Straight.isRoute_line`: both differences are equal at the corner, and the line is a route;
- `Straight.line_eq_cons`: a step straight at the goal is the first one of the line, and the line goes on from there;
- `Straight.planWith`, `Straight.plan_eq_planWith`: straight plans with any distance and any detours;
- `Straight.walkWith_line`: a walk over a clear line never turns off, as it comes closer to the goal with every step;
- `Straight.le_double_distance`, `Straight.le_double`: twice the distance, cut to a whole number, is enough steps;
- `plan_clear_line`: a straight walk over a clear line is that line.
-/

set_option autoImplicit false

namespace TileRealm

/-- The tiles that lie ahead in a heading, up to a number of them. -/
def Tile.ray (heading : Heading) : Nat → Tile → List Tile
  | 0, _ => []
  | n + 1, t =>
    match t.shift heading with
    | some next => next :: ray heading n next
    | none => []

namespace Straight

variable {walk : Tile → Bool} {start current goal next : Tile} {heading : Heading}

/-! ## Lines -/

/-- The heading along the longer difference. -/
def axis (start goal : Tile) : Heading :=
  if (start.dy goal).natAbs < (start.dx goal).natAbs then ⟨(start.dx goal).sign, 0⟩ else ⟨0, (start.dy goal).sign⟩

/-- The heading to the quarter in which the goal lies. -/
def diagonal (start goal : Tile) : Heading :=
  ⟨(start.dx goal).sign, (start.dy goal).sign⟩

/-- The shorter difference. -/
def short (start goal : Tile) : Nat :=
  min (start.dx goal).natAbs (start.dy goal).natAbs

/-- The tiles along the longer difference, until both are equal. -/
def leg (start goal : Tile) : List Tile :=
  start.ray (axis start goal) (start.steps goal - short start goal)

/-- Where the line turns. -/
def corner (start goal : Tile) : Tile :=
  (leg start goal).getLast?.getD start

/-- The straight line to the goal, without its start: along an axis to the corner, then diagonally. -/
def line (start goal : Tile) : List Tile :=
  leg start goal ++ (corner start goal).ray (diagonal start goal) (short start goal)

/-! ## Steps along the line -/

/-- The heading of the first step: along the longer difference, or diagonally if both are equal. -/
def bearing (start goal : Tile) : Heading :=
  if (start.dx goal).natAbs = (start.dy goal).natAbs then diagonal start goal else axis start goal

/-- The truncated quotient of the differences is 0, or one step if they are equal. -/
theorem towards_eq (hne : start ≠ goal) : towards start goal = start.shift (bearing start goal) := by
  have hpos := natAbs_pos hne
  have hminor : ∀ {a b : Int}, a.natAbs < b.natAbs → a.tdiv b.natAbs = 0 := by
    intro a b h
    rw [← Int.natAbs_eq_zero, Int.natAbs_tdiv, Int.natAbs_natCast]
    exact Nat.div_eq_of_lt h
  unfold towards bearing axis
  dsimp only
  split
  · rename_i hlt
    rw [hminor hlt, if_neg (by omega), Tile.shift]
  · rename_i hle
    split
    · rename_i heq
      rw [← heq, ← Int.sign_eq_tdiv_abs]
      rfl
    · rw [hminor (by omega), Tile.shift]

theorem natAbs_sub_sign {d : Int} (h : d ≠ 0) : (d - d.sign).natAbs + 1 = d.natAbs := by
  have := sign_cases d
  omega

theorem sign_sub_sign {d : Int} (h : 1 < d.natAbs) : (d - d.sign).sign = d.sign := by
  have := sign_cases d
  have := sign_cases (d - d.sign)
  omega

/-- A step on the way to a tile is never off the plane. -/
theorem exists_shift (start goal : Tile) :
    ∃ next, start.shift (bearing start goal) = some next ∧ next.dx goal = start.dx goal - (bearing start goal).dx ∧
      next.dy goal = start.dy goal - (bearing start goal).dy := by
  have hx := sign_cases (start.dx goal)
  have hy := sign_cases (start.dy goal)
  have hbearing : ((bearing start goal).dx = 0 ∨ (bearing start goal).dx = (start.dx goal).sign) ∧
      ((bearing start goal).dy = 0 ∨ (bearing start goal).dy = (start.dy goal).sign) := by
    unfold bearing diagonal axis
    split
    · exact ⟨.inr rfl, .inr rfl⟩
    · split
      · exact ⟨.inr rfl, .inl rfl⟩
      · exact ⟨.inl rfl, .inr rfl⟩
  have hcoordinate : ∀ n : Int, 0 ≤ n → n < 2 ^ 32 → ∃ x : UInt32, n = x.toNat := fun n h h' =>
    ⟨UInt32.ofNat n.toNat, by rw [UInt32.toNat_ofNat_of_lt' (by simp only [UInt32.size]; omega)]; omega⟩
  simp only [Tile.dx, Tile.dy] at hx hy hbearing ⊢
  have := start.x.toNat_lt
  have := start.y.toNat_lt
  have := goal.x.toNat_lt
  have := goal.y.toNat_lt
  obtain ⟨x, hnextx⟩ := hcoordinate (start.x.toNat + (bearing start goal).dx) (by omega) (by omega)
  obtain ⟨y, hnexty⟩ := hcoordinate (start.y.toNat + (bearing start goal).dy) (by omega) (by omega)
  exact ⟨⟨x, y⟩, Tile.offset_eq_some_iff.mpr ⟨hnextx, hnexty⟩, by dsimp only; omega, by dsimp only; omega⟩

theorem ray_succ (h : start.shift heading = some next) (n : Nat) :
    start.ray heading (n + 1) = next :: next.ray heading n := by
  rw [Tile.ray, h]

/-- The heading of a ray without tiles does not matter. -/
theorem ray_congr {heading' : Heading} {n : Nat} (t : Tile) (h : n ≠ 0 → heading = heading') :
    t.ray heading n = t.ray heading' n := by
  cases n with
  | zero => rfl
  | succ n => rw [h (Nat.succ_ne_zero n)]

/-- A line with equal differences has no leg. -/
theorem leg_of_equal (h : (start.dx goal).natAbs = (start.dy goal).natAbs) :
    leg start goal = [] ∧ corner start goal = start ∧ short start goal = start.steps goal := by
  have hshort : short start goal = start.steps goal := by rw [short, Tile.steps, h, Nat.min_self, Nat.max_self]
  have hleg : leg start goal = [] := by rw [leg, hshort, Nat.sub_self, Tile.ray]
  exact ⟨hleg, by rw [corner, hleg, List.getLast?_nil, Option.getD_none], hshort⟩

theorem line_of_equal (h : (start.dx goal).natAbs = (start.dy goal).natAbs) :
    line start goal = start.ray (diagonal start goal) (start.steps goal) := by
  obtain ⟨hleg, hcorner, hshort⟩ := leg_of_equal h
  rw [line, hleg, hcorner, hshort, List.nil_append]

/-- A step along the longer difference. -/
theorem axis_step (h : (start.dx goal).natAbs ≠ (start.dy goal).natAbs)
    (hdx : next.dx goal = start.dx goal - (axis start goal).dx)
    (hdy : next.dy goal = start.dy goal - (axis start goal).dy) :
    next.steps goal + 1 = start.steps goal ∧ short next goal = short start goal ∧
      (next.steps goal - short next goal ≠ 0 → axis next goal = axis start goal) ∧
      (short start goal ≠ 0 → diagonal next goal = diagonal start goal) := by
  unfold axis at hdx hdy
  split at hdx
  · rename_i hlt
    rw [if_pos hlt, Int.sub_zero] at hdy
    have habs := natAbs_sub_sign (d := start.dx goal) (by omega)
    simp only [Tile.steps, short, axis, diagonal, hdx, hdy]
    refine ⟨by omega, by omega, fun hleft => ?_, fun hleft => ?_⟩
    · rw [if_pos (by omega), if_pos hlt, sign_sub_sign (by omega)]
    · rw [sign_sub_sign (by omega)]
  · rename_i hle
    rw [if_neg hle] at hdy
    rw [Int.sub_zero] at hdx
    have habs := natAbs_sub_sign (d := start.dy goal) (by omega)
    simp only [Tile.steps, short, axis, diagonal, hdx, hdy]
    refine ⟨by omega, by omega, fun hleft => ?_, fun hleft => ?_⟩
    · rw [if_neg (by omega), if_neg hle, sign_sub_sign (by omega)]
    · rw [sign_sub_sign (by omega)]

/-- The first step of a leg leaves the rest of it, and all that comes after the corner. -/
theorem exists_leg_step (h : (start.dx goal).natAbs ≠ (start.dy goal).natAbs) :
    ∃ next, start.shift (bearing start goal) = some next ∧ next.steps goal + 1 = start.steps goal ∧
      short next goal = short start goal ∧ leg start goal = next :: leg next goal ∧
      corner start goal = corner next goal ∧ (short start goal ≠ 0 → diagonal next goal = diagonal start goal) := by
  obtain ⟨next, hshift, hdx, hdy⟩ := exists_shift start goal
  rw [bearing, if_neg h] at hshift hdx hdy
  obtain ⟨hsteps, hshort, haxis, hdiagonal⟩ := axis_step h hdx hdy
  have hlong : start.steps goal - short start goal = next.steps goal - short next goal + 1 := by
    have hle : short next goal ≤ next.steps goal := min_le_max
    omega
  have hleg : leg start goal = next :: leg next goal := by
    rw [leg, hlong, ray_succ hshift, leg, ray_congr next haxis]
  refine ⟨next, by rwa [bearing, if_neg h], hsteps, hshort, hleg, ?_, hdiagonal⟩
  rw [corner, hleg, List.getLast?_cons, Option.getD_some, corner]

/-- At the corner both differences are as large as the shorter one was. -/
theorem corner_spec (start goal : Tile) : ((corner start goal).dx goal).natAbs = short start goal ∧
    ((corner start goal).dy goal).natAbs = short start goal := by
  induction hn : start.steps goal using Nat.strong_induction_on generalizing start with
  | _ n ih =>
    by_cases h : (start.dx goal).natAbs = (start.dy goal).natAbs
    · obtain ⟨-, hcorner, -⟩ := leg_of_equal h
      rw [hcorner, short]
      omega
    · obtain ⟨next, -, hsteps, hshort, -, hcorner, -⟩ := exists_leg_step h
      rw [hcorner, ← hshort]
      exact ih _ (by omega) next rfl

/-- **Straight at the goal.** The step straight at the goal is the first one of the line, and the line goes on. -/
theorem line_eq_cons (hne : start ≠ goal) : ∃ next, towards start goal = some next ∧
    line start goal = next :: line next goal ∧ next.steps goal + 1 = start.steps goal := by
  have hpos := natAbs_pos hne
  by_cases heq : (start.dx goal).natAbs = (start.dy goal).natAbs
  · obtain ⟨next, hshift, hdx, hdy⟩ := exists_shift start goal
    refine ⟨next, (towards_eq hne).trans hshift, ?_⟩
    rw [bearing, if_pos heq] at hshift hdx hdy
    have hx := natAbs_sub_sign (d := start.dx goal) (by omega)
    have hy := natAbs_sub_sign (d := start.dy goal) (by omega)
    have hsteps : next.steps goal + 1 = start.steps goal := by
      simp only [Tile.steps, hdx, hdy, diagonal]
      omega
    have heq' : (next.dx goal).natAbs = (next.dy goal).natAbs := by
      simp only [hdx, hdy, diagonal]
      omega
    refine ⟨?_, hsteps⟩
    rw [line_of_equal heq, line_of_equal heq', ← hsteps, ray_succ hshift]
    refine congrArg _ (ray_congr next fun hleft => ?_)
    simp only [Tile.steps, hdx, hdy, diagonal] at hleft ⊢
    rw [sign_sub_sign (by omega), sign_sub_sign (by omega)]
  · obtain ⟨next, hshift, hsteps, hshort, hleg, hcorner, hdiagonal⟩ := exists_leg_step heq
    refine ⟨next, (towards_eq hne).trans hshift, ?_, hsteps⟩
    rw [line, line, hleg, hcorner, hshort, ray_congr (corner next goal) hdiagonal, List.cons_append]

theorem line_self (goal : Tile) : line goal goal = [] := by
  rw [line_of_equal (by rw [Tile.dx, Tile.dy, Int.sub_self, Int.sub_self]), Tile.steps_self, Tile.ray]

/-- The line has as many tiles as there are steps, and a clear one is a route. -/
theorem isRoute_line (hclear : ∀ t ∈ line start goal, walk t = true) :
    IsRoute walk start goal (line start goal) ∧ (line start goal).length = start.steps goal := by
  induction hn : start.steps goal generalizing start with
  | zero =>
    obtain rfl := Tile.steps_eq_zero_iff.mp hn
    rw [line_self]
    exact ⟨rfl, rfl⟩
  | succ n ih =>
    have hne : start ≠ goal := by
      rintro rfl
      rw [Tile.steps_self] at hn
      cases hn
    obtain ⟨next, htowards, hline, hsteps⟩ := line_eq_cons hne
    rw [hline] at hclear ⊢
    rw [List.forall_mem_cons] at hclear
    obtain ⟨hroute, hlength⟩ := ih hclear.2 (by omega)
    exact ⟨⟨adjacent_of_towards hne htowards, hclear.1, hroute⟩, by rw [List.length_cons, hlength]⟩

/-! ## Walks over the line -/

/-- A walk with any way to go on where the step straight at the goal is not free. -/
def walkWith (detour : (Tile → Bool) → Tile → Tile → Option Tile) (walk : Tile → Bool) (goal : Tile) :
    Nat → Tile → Std.ExtTreeSet Tile → List Tile → Plan
  | 0, current, _, taken => ⟨if current = goal then some taken.reverse else none, taken.length⟩
  | left + 1, current, visited, taken =>
    if current = goal then ⟨some taken.reverse, taken.length⟩
    else
      let free := fun t => walk t && !visited.contains t
      match ((towards current goal).filter free).or (detour free current goal) with
      | some next => walkWith detour walk goal left next (visited.insert next) (next :: taken)
      | none => ⟨none, taken.length + 1⟩

/-- Straight plans with any detours and any distance. -/
def planWith (detour : (Tile → Bool) → Tile → Tile → Option Tile) (distance : Tile → Tile → Float) (walk : Tile → Bool)
    (limits : Limits) (start goal : Tile) : Plan :=
  if !walk start || !walk goal then ⟨none, 0⟩
  else if start = goal then ⟨some [goal], 0⟩
  else walkWith detour walk goal (min (distance start goal * 2).toUInt64.toNat limits.steps) start
    ((∅ : Std.ExtTreeSet Tile).insert start) []

theorem walkWith_leastTurn (walk : Tile → Bool) (goal : Tile) (left : Nat) (current : Tile)
    (visited : Std.ExtTreeSet Tile) (taken : List Tile) :
    walkWith leastTurn walk goal left current visited taken = walkOn walk goal left current visited taken := by
  induction left generalizing current visited taken with
  | zero => rfl
  | succ left ih =>
    rw [walkWith, walkOn]
    split
    · rfl
    · dsimp only
      rw [next?]
      generalize ((towards current goal).filter _).or _ = step
      cases step with
      | some next => exact ih _ _ _
      | none => rfl

theorem plan_eq_planWith (walk : Tile → Bool) (limits : Limits) (start goal : Tile) :
    plan walk limits .straight start goal = planWith leastTurn Tile.distance walk limits start goal := by
  unfold plan planWith
  rw [walkWith_leastTurn]
  rfl

/-- A walk over a clear line never turns off: it has been only to tiles that are at least as far from the goal. -/
theorem walkWith_line (detour : (Tile → Bool) → Tile → Tile → Option Tile) {left : Nat}
    {visited : Std.ExtTreeSet Tile} (taken : List Tile) (hclear : ∀ t ∈ line current goal, walk t = true)
    (hvisited : ∀ t : Tile, t ∈ visited → current.steps goal ≤ t.steps goal) (hleft : current.steps goal ≤ left) :
    walkWith detour walk goal left current visited taken =
      ⟨some (taken.reverse ++ line current goal), taken.length + current.steps goal⟩ := by
  induction left generalizing current visited taken with
  | zero =>
    obtain rfl := Tile.steps_eq_zero_iff.mp (Nat.le_zero.mp hleft)
    rw [walkWith, if_pos rfl, line_self, List.append_nil, Tile.steps_self, Nat.add_zero]
  | succ left ih =>
    rw [walkWith]
    split
    · rename_i heq
      rw [heq, line_self, List.append_nil, Tile.steps_self, Nat.add_zero]
    · rename_i hne
      obtain ⟨next, htowards, hline, hsteps⟩ := line_eq_cons hne
      rw [hline, List.forall_mem_cons] at hclear
      have hnew : next ∉ visited := fun hmem => by
        have := hvisited next hmem
        omega
      have hfree : (some next).filter (fun t => walk t && !visited.contains t) = some next := by
        refine Option.filter_some_pos ?_
        rw [Bool.and_eq_true, Bool.not_eq_true', ← Bool.not_eq_true, Std.ExtTreeSet.contains_iff_mem]
        exact ⟨hclear.1, hnew⟩
      have hvisited' : ∀ t : Tile, t ∈ visited.insert next → next.steps goal ≤ t.steps goal := by
        intro t ht
        rcases Tile.mem_insert.mp ht with rfl | ht
        · exact Nat.le_refl _
        · have := hvisited t ht
          omega
      dsimp only
      rw [htowards, hfree, Option.some_or]
      dsimp only
      rw [ih (next :: taken) hclear.2 hvisited' (by omega), hline, List.reverse_cons, List.append_assoc,
        List.singleton_append, List.length_cons, Nat.add_assoc, Nat.add_comm 1, hsteps]

/-! ## Budgets -/

/-- Twice a distance is enough for all steps. -/
theorem le_double_distance (start goal : Tile) : start.steps goal ≤ (start.distance goal * 2).toUInt64.toNat := by
  have hlt := Tile.steps_lt start goal
  rcases Nat.eq_zero_or_pos (start.steps goal) with hzero | hpos
  · omega
  obtain ⟨hnormal, hlong⟩ := Tile.distance_bounds hpos
  refine (Float.AtLeast.normal hnormal le_rfl).le_double (by omega) (hlong.trans ?_)
  have hslack : Float.slack ^ 4 ≤ 2 := Float.slack_bounds.2.trans (by norm_num)
  exact mul_le_mul_of_nonneg_left hslack hnormal.size_pos.le

/-- Twice a number that is not smaller than either difference is enough for all steps. -/
theorem le_double {a : Float} (hx : (UInt32.ofNat (start.dx goal).natAbs).toFloat ≤ a)
    (hy : (UInt32.ofNat (start.dy goal).natAbs).toFloat ≤ a) : start.steps goal ≤ (a * 2).toUInt64.toNat := by
  have hlt := Tile.steps_lt start goal
  rcases Nat.eq_zero_or_pos (start.steps goal) with hzero | hpos
  · omega
  have hword : (UInt32.ofNat (start.steps goal)).toNat = start.steps goal := UInt32.toNat_ofNat_of_lt' hlt
  have hatLeast := Float.atLeast_of_le (by omega) (Tile.toFloat_steps_le hx hy)
  rw [hword] at hatLeast
  refine hatLeast.le_double (by omega) ?_
  have : (0 : ℚ) ≤ start.steps goal := Nat.cast_nonneg _
  linarith

theorem planWith_line {limits : Limits} (detour : (Tile → Bool) → Tile → Tile → Option Tile)
    {distance : Tile → Tile → Float} (hne : start ≠ goal) (hclear : ∀ t ∈ start :: line start goal, walk t = true)
    (hlimit : start.steps goal ≤ limits.steps)
    (hdistance : start.steps goal ≤ (distance start goal * 2).toUInt64.toNat) :
    planWith detour distance walk limits start goal = ⟨some (line start goal), start.steps goal⟩ := by
  rw [List.forall_mem_cons] at hclear
  have hgoal : walk goal = true := by
    have hlast := (isRoute_line hclear.2).1.getLast? hne
    exact hclear.2 goal (List.mem_of_getLast? hlast)
  have hvisited : ∀ t : Tile, t ∈ (∅ : Std.ExtTreeSet Tile).insert start → start.steps goal ≤ t.steps goal := by
    intro t ht
    rcases Tile.mem_insert.mp ht with rfl | ht
    · exact Nat.le_refl _
    · exact absurd ht Std.ExtTreeSet.not_mem_empty
  unfold planWith
  rw [hclear.1, hgoal, if_neg (by simp), if_neg hne,
    walkWith_line detour [] hclear.2 hvisited (Nat.le_min.mpr ⟨hdistance, hlimit⟩)]
  simp

end Straight

open Straight in
/-- **A clear line.** A straight walk to another tile over a clear line is that line, as long as there are steps to the
tile; whatever the distance is, if it is not smaller than either difference, and wherever a detour would lead. -/
theorem plan_clear_line {walk : Tile → Bool} {limits : Limits} {start goal : Tile} (hne : start ≠ goal)
    (hclear : ∀ t ∈ start :: line start goal, walk t = true) (hlimit : start.steps goal ≤ limits.steps) :
    plan walk limits .straight start goal = ⟨some (line start goal), start.steps goal⟩ ∧
      (line start goal).length = start.steps goal ∧
      ∀ (detour : (Tile → Bool) → Tile → Tile → Option Tile) (distance : Tile → Tile → Float),
        (UInt32.ofNat (start.dx goal).natAbs).toFloat ≤ distance start goal →
        (UInt32.ofNat (start.dy goal).natAbs).toFloat ≤ distance start goal →
          planWith detour distance walk limits start goal = ⟨some (line start goal), start.steps goal⟩ := by
  refine ⟨?_, ?_, fun detour distance hx hy => ?_⟩
  · rw [plan_eq_planWith]
    exact planWith_line leastTurn hne hclear hlimit (le_double_distance start goal)
  · exact (isRoute_line (List.forall_mem_cons.mp hclear).2).2
  · exact planWith_line detour hne hclear hlimit (le_double hx hy)

/-- A line to the upper left in a corridor that has no other tiles, with a distance that counts the steps. -/
theorem plan_clear_line_corridor :
    let corridor : List Tile := [⟨6, 2⟩, ⟨5, 2⟩, ⟨4, 2⟩, ⟨3, 1⟩, ⟨2, 0⟩]
    let walk : Tile → Bool := fun t => decide (t ∈ ⟨7, 2⟩ :: corridor)
    let steps : Tile → Tile → Float := fun a b => (UInt32.ofNat (a.steps b)).toFloat
    plan walk ⟨0, 5, .octile⟩ .straight ⟨7, 2⟩ ⟨2, 0⟩ = ⟨some corridor, 5⟩ ∧
      Straight.planWith (fun _ _ _ => none) steps walk ⟨0, 5, .octile⟩ ⟨7, 2⟩ ⟨2, 0⟩ = ⟨some corridor, 5⟩ := by
  intro corridor walk steps
  have hline : Straight.line ⟨7, 2⟩ ⟨2, 0⟩ = corridor := by decide
  have hsteps : Tile.steps ⟨7, 2⟩ ⟨2, 0⟩ = 5 := by decide
  obtain ⟨hplan, -, hwith⟩ := @plan_clear_line walk ⟨0, 5, .octile⟩ ⟨7, 2⟩ ⟨2, 0⟩ (by decide)
    (by rw [hline]; decide) (by decide)
  rw [hline, hsteps] at hplan hwith
  exact ⟨hplan, hwith _ steps (by decide +kernel) (by decide +kernel)⟩

end TileRealm
