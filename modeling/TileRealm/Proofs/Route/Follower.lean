import TileRealm.Proofs.Route.Plan
import TileRealm.Proofs.Tile.Distance
import TileRealm.Route.Follower

/-!
# Walking to a target

- `directStep_spec`: a direct step leads to a walkable neighbour that is closer to the target;
- `Call`, `call_next`: all that one call of a follower can do, with the reasons for it;
- `Ready`, `next_spec`: as long as all tiles ahead can be walked on, so can every tile that is proposed;
- `next_underway`: on its route a follower proposes one tile after the other;
- `Walks`, `walks_once`: a whole walk to a fixed target makes one plan and comes to an end.
-/

set_option autoImplicit false

namespace TileRealm

/-- The sum of both differences. -/
def Tile.manhattan (a b : Tile) : Nat :=
  (a.dx b).natAbs + (a.dy b).natAbs

/-- A plan that was found between two tiles is a route that meets no tile twice. -/
theorem plan_isRoute {walk : Tile → Bool} {limits : Limits} {algorithm : Algorithm} {start goal : Tile}
    (hne : start ≠ goal) (hfound : (plan walk limits algorithm start goal).found = true) :
    IsRoute walk start goal (plan walk limits algorithm start goal).path ∧
      (start :: (plan walk limits algorithm start goal).path).Nodup := by
  have hroute := Plan.route_of_found hfound
  generalize (plan walk limits algorithm start goal).path = path at hroute
  unfold plan at hroute
  rw [if_neg hne] at hroute
  split at hroute
  · cases hroute
  · cases algorithm with
    | straight =>
      obtain ⟨-, hsearch⟩ := Straight.search_spec walk limits.steps start goal
      exact ⟨(hsearch path hroute).1, (hsearch path hroute).2.1⟩
    | bestFirst =>
      obtain ⟨-, hsearch⟩ := BestFirst.search_spec (.ofHeuristic limits.heuristic) walk limits.expansions hne
      exact ⟨(hsearch path hroute).1, (hsearch path hroute).2.1⟩

/-- A route that goes on and meets no tile twice is not at its goal yet. -/
theorem IsRoute.ne_of_nodup {walk : Tile → Bool} {a b next : Tile} {rest : List Tile}
    (hroute : IsRoute walk a b (next :: rest)) (hnodup : (a :: next :: rest).Nodup) : a ≠ b := by
  rintro rfl
  have hlast := hroute.getLast?_cons
  rw [List.getLast?_cons_cons] at hlast
  exact (List.nodup_cons.mp hnodup).1 (List.mem_of_getLast? hlast)

namespace Follower

variable {walk : Tile → Bool} {limits : Limits} {algorithm : Algorithm} {current target next : Tile} {f g : Follower}
  {rest tiles : List Tile}

/-! ## Direct steps -/

/-- A direct step leads to a walkable neighbour that is closer to the target. -/
theorem directStep_spec (h : directStep walk current target = some next) :
    current.adjacent next = true ∧ walk next = true ∧ next.manhattan target < current.manhattan target := by
  have hwalk := List.find?_some h
  obtain ⟨heading, hmem, hshift⟩ := List.mem_filterMap.mp (List.mem_of_find?_eq_some h)
  obtain ⟨hmem, hne⟩ := List.mem_filter.mp hmem
  have hheading := Tile.shift_eq_some_iff.mp hshift
  simp only [List.mem_cons, List.not_mem_nil, or_false] at hmem
  rw [decide_eq_true_eq] at hne
  rw [hheading] at hmem hne
  simp only [Heading.mk.injEq, ne_eq] at hmem hne
  have hx := sign_cases (current.dx target)
  have hy := sign_cases (current.dy target)
  refine ⟨Tile.adjacent_iff.mpr ?_, hwalk, ?_⟩
  · rw [Tile.steps]
    omega
  · simp only [Tile.manhattan, Tile.dx, Tile.dy] at hmem hne hx hy ⊢
    omega

/-! ## One call -/

/-- Whether the target is near one to which no route was found. -/
def Resigned (f : Follower) (target : Tile) : Prop :=
  ∃ former, f.unreachable = some former ∧ f.near former target = true

/-- All that a call can do, with the reasons for it. -/
inductive Call (walk : Tile → Bool) (limits : Limits) (algorithm : Algorithm) (current target : Tile) (f : Follower) :
    Option Tile → Follower → Prop
  | arrived : current = target → Call walk limits algorithm current target f none f.clear
  | direct : current ≠ target → f.Resigned target →
      Call walk limits algorithm current target f (directStep walk current target) f
  /-- The route goes on. -/
  | onward {next : Tile} {rest : List Tile} : current ≠ target → ¬f.Resigned target → f.drifted target = false →
      f.ahead = next :: rest → current.adjacent next = true →
      Call walk limits algorithm current target f (some next) { f with unreachable := none, ahead := rest }
  /-- A new route begins. -/
  | planned {next : Tile} {rest : List Tile} : current ≠ target → ¬f.Resigned target →
      f.drifted target = true ∨ f.detached current = true → (plan walk limits algorithm current target).found = true →
      (plan walk limits algorithm current target).path = next :: rest →
      Call walk limits algorithm current target f (some next)
        { f with goal := some target, unreachable := none, ahead := rest, plans := f.plans + 1 }
  /-- No route is found. -/
  | missed : current ≠ target → ¬f.Resigned target → f.drifted target = true ∨ f.detached current = true →
      (plan walk limits algorithm current target).found = false →
      Call walk limits algorithm current target f (directStep walk current target)
        { f with goal := some target, unreachable := some target, ahead := [], plans := f.plans + 1 }

/-- What is done where the target is not known to be out of reach. -/
theorem call_proceed (hne : current ≠ target) (hf : ¬f.Resigned target) :
    Call walk limits algorithm current target f
      (({ f with unreachable := none } : Follower).proceed walk limits algorithm current target).1
      (({ f with unreachable := none } : Follower).proceed walk limits algorithm current target).2 := by
  unfold proceed
  split
  · rename_i hdue
    have hdue : f.drifted target = true ∨ f.detached current = true := (Bool.or_eq_true _ _).mp hdue
    unfold replan
    cases hfound : (plan walk limits algorithm current target).found with
    | false =>
      simp only [hfound, Plan.path_of_not_found hfound, Bool.false_eq_true, if_false]
      exact .missed hne hf hdue hfound
    | true =>
      obtain ⟨next, rest, hpath⟩ := List.exists_cons_of_ne_nil ((plan_isRoute hne hfound).1.ne_nil hne)
      simp only [hfound, hpath, if_true, advance, List.head?_cons, List.tail_cons]
      exact .planned hne hf hdue hfound hpath
  · rename_i hgo
    obtain ⟨hdrifted, hdetached⟩ : f.drifted target = false ∧ f.detached current = false :=
      Bool.or_eq_false_iff.mp (Bool.not_eq_true _ ▸ hgo)
    unfold detached at hdetached
    split at hdetached
    · rename_i next rest hahead
      simp only [advance, hahead, List.head?_cons, List.tail_cons]
      exact .onward hne hf hdrifted hahead (by simpa using hdetached)
    · cases hdetached

theorem call_next (walk : Tile → Bool) (limits : Limits) (algorithm : Algorithm) (current target : Tile)
    (f : Follower) : Call walk limits algorithm current target f (f.next walk limits algorithm current target).1
      (f.next walk limits algorithm current target).2 := by
  unfold next
  split
  · rename_i heq
    exact .arrived heq
  · rename_i hne
    split
    · rename_i former hformer
      split
      · rename_i hnear
        exact .direct hne ⟨former, hformer, hnear⟩
      · rename_i hfar
        apply call_proceed hne
        rintro ⟨other, hother, hnear⟩
        rw [hformer, Option.some.injEq] at hother
        exact hfar (hother ▸ hnear)
    · rename_i hnone
      have hf : ({ f with unreachable := none } : Follower) = f := by
        rw [← hnone]
      have hcall := @call_proceed walk limits algorithm current target f hne (by simp [Resigned, hnone])
      rwa [hf] at hcall

/-- All tiles ahead can be walked on. -/
def Ready (walk : Tile → Bool) (f : Follower) : Prop :=
  ∀ t ∈ f.ahead, walk t = true

theorem ready_clear (walk : Tile → Bool) (f : Follower) : f.clear.Ready walk := by
  simp [Ready, clear]

/-- **Proposals.** Whatever was planned before and wherever it was asked for, the next tile is a walkable neighbour. -/
theorem next_spec (hf : f.Ready walk) (limits : Limits) (algorithm : Algorithm) (current target : Tile) :
    (f.next walk limits algorithm current target).2.Ready walk ∧
      ∀ next, (f.next walk limits algorithm current target).1 = some next →
        current.adjacent next = true ∧ walk next = true := by
  have hcall := call_next walk limits algorithm current target f
  generalize (f.next walk limits algorithm current target).1 = answer at hcall ⊢
  generalize (f.next walk limits algorithm current target).2 = g at hcall ⊢
  cases hcall with
  | arrived => exact ⟨ready_clear walk f, nofun⟩
  | direct => exact ⟨hf, fun next h => ⟨(directStep_spec h).1, (directStep_spec h).2.1⟩⟩
  | missed => exact ⟨nofun, fun next h => ⟨(directStep_spec h).1, (directStep_spec h).2.1⟩⟩
  | @onward next rest _ _ _ hahead hadjacent =>
    rw [Ready, hahead, List.forall_mem_cons] at hf
    refine ⟨hf.2, ?_⟩
    rintro _ ⟨⟩
    exact ⟨hadjacent, hf.1⟩
  | @planned next rest hne _ _ hfound hpath =>
    have hroute := (plan_isRoute hne hfound).1
    rw [hpath] at hroute
    refine ⟨fun t ht => hroute.walk (List.mem_cons_of_mem next ht), ?_⟩
    rintro _ ⟨⟩
    exact ⟨hroute.1, hroute.2.1⟩

/-! ## Walks -/

theorem near_self (f : Follower) (t : Tile) : f.near t t = true := by
  rw [near, Tile.distance_self, decide_eq_true_eq, ← Float.not_lt_iff_le (Float.isNaN_toFloat _) rfl]
  exact Float.not_toFloat_lt_zero _

/-- The target has not drifted from itself. -/
theorem drifted_eq_false (hgoal : f.goal = some target) : f.drifted target = false := by
  simp only [drifted, hgoal, Tile.distance_self, decide_eq_false_iff_not]
  exact Float.not_toFloat_lt_zero _

/-- On its way, a follower takes the next tile of its route and makes no plan. -/
theorem next_underway (limits : Limits) (algorithm : Algorithm) (hgoal : f.goal = some target)
    (hreachable : f.unreachable = none) (hahead : f.ahead = next :: rest)
    (hroute : IsRoute walk current target (next :: rest)) (hnodup : (current :: next :: rest).Nodup) :
    f.next walk limits algorithm current target = (some next, { f with ahead := rest }) := by
  have hadjacent := hroute.1
  unfold Follower.next
  rw [if_neg (hroute.ne_of_nodup hnodup), hreachable]
  simp [proceed, drifted_eq_false hgoal, detached, hahead, hadjacent, advance, hreachable]

/-- Calls at one tile after the other, each of which is the answer of the call before, until there is no answer; with
the number of plans that they make in all. -/
inductive Walks (walk : Tile → Bool) (limits : Limits) (algorithm : Algorithm) (target : Tile) :
    Follower → Tile → List Tile → Nat → Follower → Prop
  | stop {f g : Follower} {current : Tile} : f.next walk limits algorithm current target = (none, g) →
      Walks walk limits algorithm target f current [] (g.plans - f.plans).toNat g
  | go {f g g' : Follower} {current next : Tile} {tiles : List Tile} {made : Nat} :
      f.next walk limits algorithm current target = (some next, g) →
      Walks walk limits algorithm target g next tiles made g' →
      Walks walk limits algorithm target f current (next :: tiles) ((g.plans - f.plans).toNat + made) g'

namespace Walks

variable {g' : Follower} {made : Nat}

theorem stop_quietly (hnext : f.next walk limits algorithm current target = (none, g)) (hplans : g.plans = f.plans) :
    Walks walk limits algorithm target f current [] 0 g := by
  have hwalks := Walks.stop hnext
  rwa [hplans, UInt64.sub_self] at hwalks

theorem go_quietly (hnext : f.next walk limits algorithm current target = (some next, g)) (hplans : g.plans = f.plans)
    (hrest : Walks walk limits algorithm target g next tiles made g') :
    Walks walk limits algorithm target f current (next :: tiles) made g' := by
  have hwalks := Walks.go hnext hrest
  rwa [hplans, UInt64.sub_self, UInt64.toNat_zero, Nat.zero_add] at hwalks

/-- One plan counts as one, also where the count starts again. -/
theorem toNat_sub_plans (hplans : g.plans = f.plans + 1) : (g.plans - f.plans).toNat = 1 := by
  rw [hplans, UInt64.add_comm, UInt64.add_sub_cancel]
  rfl

theorem stop_planned (hnext : f.next walk limits algorithm current target = (none, g))
    (hplans : g.plans = f.plans + 1) : Walks walk limits algorithm target f current [] 1 g := by
  have hwalks := Walks.stop hnext
  rwa [toNat_sub_plans hplans] at hwalks

theorem go_planned (hnext : f.next walk limits algorithm current target = (some next, g))
    (hplans : g.plans = f.plans + 1) (hrest : Walks walk limits algorithm target g next tiles 0 g') :
    Walks walk limits algorithm target f current (next :: tiles) 1 g' := by
  have hwalks := Walks.go hnext hrest
  rwa [toNat_sub_plans hplans] at hwalks

end Walks

/-- A route is walked to its end, where it is forgotten. -/
theorem walks_route (limits : Limits) (algorithm : Algorithm) (hgoal : f.goal = some target)
    (hreachable : f.unreachable = none) (hroute : IsRoute walk current target f.ahead)
    (hnodup : (current :: f.ahead).Nodup) : Walks walk limits algorithm target f current f.ahead 0 f.clear := by
  -- the tiles ahead are the route, and one of them is taken by each call
  generalize hahead : f.ahead = tiles
  induction tiles generalizing f current with
  | nil =>
    rw [hahead] at hroute
    obtain rfl : current = target := hroute
    exact .stop_quietly (by rw [Follower.next, if_pos rfl]) rfl
  | cons next rest ih =>
    rw [hahead] at hroute hnodup
    refine .go_quietly (next_underway limits algorithm hgoal hreachable hahead hroute hnodup) rfl ?_
    exact ih (f := { f with ahead := rest }) hgoal hreachable hroute.2.2 hnodup.tail rfl

/-- Walkable neighbours that lead closer and closer to a target. -/
structure Descends (walk : Tile → Bool) (target current : Tile) (tiles : List Tile) : Prop where
  walk : ∀ t ∈ tiles, walk t = true
  isChain : (current :: tiles).IsChain fun a b => a.adjacent b = true ∧ b.manhattan target < a.manhattan target
  length_le : tiles.length ≤ current.manhattan target

theorem descends_nil : Descends walk target current [] :=
  ⟨nofun, .singleton current, Nat.zero_le _⟩

theorem Descends.cons (h : Descends walk target next tiles) (hstep : directStep walk current target = some next) :
    Descends walk target current (next :: tiles) := by
  obtain ⟨hadjacent, hwalk, hless⟩ := directStep_spec hstep
  refine ⟨List.forall_mem_cons.mpr ⟨hwalk, h.walk⟩, .cons_cons ⟨hadjacent, hless⟩ h.isChain, ?_⟩
  have := h.length_le
  rw [List.length_cons]
  omega

theorem next_resigned (limits : Limits) (algorithm : Algorithm) (hf : f.unreachable = some target)
    (hne : current ≠ target) :
    f.next walk limits algorithm current target = (directStep walk current target, f) := by
  rw [Follower.next, if_neg hne, hf]
  simp only [near_self, if_true]

/-- A target out of reach is approached as far as it goes. -/
theorem walks_resigned (limits : Limits) (algorithm : Algorithm) (hf : f.unreachable = some target) (current : Tile) :
    ∃ tiles g, Walks walk limits algorithm target f current tiles 0 g ∧ g.plans = f.plans ∧
      Descends walk target current tiles := by
  -- every direct step leads closer to the target
  induction hn : current.manhattan target using Nat.strong_induction_on generalizing current with
  | h n ih =>
    by_cases hne : current = target
    · exact ⟨[], f.clear, .stop_quietly (by rw [Follower.next, if_pos hne]) rfl, rfl, descends_nil⟩
    · have hnext : f.next walk limits algorithm current target = _ := next_resigned limits algorithm hf hne
      cases hstep : directStep walk current target with
      | none => exact ⟨[], f, .stop_quietly (hstep ▸ hnext) rfl, rfl, descends_nil⟩
      | some next =>
        obtain ⟨tiles, g, hwalks, hplans, hdescends⟩ := ih _ (hn ▸ (directStep_spec hstep).2.2) next rfl
        exact ⟨next :: tiles, g, .go_quietly (hstep ▸ hnext) rfl hwalks, hplans, hdescends.cons hstep⟩

/-- A follower that has not set out. -/
inductive Blank : Follower → Prop
  | fresh (threshold : UInt32) : Blank (.fresh threshold)
  | clear (f : Follower) : Blank f.clear

namespace Blank

theorem goal (hf : f.Blank) : f.goal = none := by
  cases hf <;> rfl

theorem unreachable (hf : f.Blank) : f.unreachable = none := by
  cases hf <;> rfl

theorem next_eq (hf : f.Blank) (hne : current ≠ target) :
    f.next walk limits algorithm current target = f.replan walk limits algorithm current target := by
  have hdrifted : f.drifted target = true := by rw [drifted, hf.goal]
  simp only [Follower.next, if_neg hne, hf.unreachable, proceed, hdrifted, Bool.true_or, if_true]

/-- The first call makes a plan and takes the first tile of the route. -/
theorem next_found (hf : f.Blank) (hne : current ≠ target)
    (hfound : (plan walk limits algorithm current target).found = true) :
    ∃ next rest, (plan walk limits algorithm current target).path = next :: rest ∧
      f.next walk limits algorithm current target =
        (some next, { f with goal := some target, ahead := rest, plans := f.plans + 1 }) := by
  obtain ⟨next, rest, hpath⟩ := List.exists_cons_of_ne_nil ((plan_isRoute hne hfound).1.ne_nil hne)
  refine ⟨next, rest, hpath, ?_⟩
  simp only [hf.next_eq hne, replan, hfound, hpath, if_true, advance, List.head?_cons, List.tail_cons]

/-- Where there is no route, the first call gives up the target and makes a direct step. -/
theorem next_missed (hf : f.Blank) (hne : current ≠ target)
    (hmissed : (plan walk limits algorithm current target).found = false) :
    f.next walk limits algorithm current target = (directStep walk current target,
      { f with goal := some target, unreachable := some target, ahead := [], plans := f.plans + 1 }) := by
  simp only [hf.next_eq hne, replan, hmissed, Plan.path_of_not_found hmissed, Bool.false_eq_true, if_false]

end Blank

/-- **A walk to a fixed target** makes one plan and comes to an end.  If a route was found, it is walked tile by tile
and then forgotten.  If not, then every tile is a walkable neighbour of the one before that is closer to the target. -/
theorem walks_once (walk : Tile → Bool) (limits : Limits) (algorithm : Algorithm) {current target : Tile} {f : Follower}
    (hf : f.Blank) (hne : current ≠ target) :
    ∃ tiles g, Walks walk limits algorithm target f current tiles 1 g ∧ g.plans = f.plans + 1 ∧
      ((plan walk limits algorithm current target).found = true →
        tiles = (plan walk limits algorithm current target).path ∧ tiles.getLast? = some target ∧
          g = ({ f with plans := f.plans + 1 } : Follower).clear) ∧
      ((plan walk limits algorithm current target).found = false → Descends walk target current tiles) := by
  cases hfound : (plan walk limits algorithm current target).found with
  | true =>
    obtain ⟨hroute, hnodup⟩ := plan_isRoute hne hfound
    obtain ⟨next, rest, hpath, hnext⟩ := hf.next_found hne hfound
    have hlast := hroute.getLast? hne
    rw [hpath] at hroute hnodup hlast
    refine ⟨next :: rest, ({ f with plans := f.plans + 1 } : Follower).clear, .go_planned hnext rfl ?_, rfl, ?_, nofun⟩
    · exact walks_route limits algorithm rfl hf.unreachable hroute.2.2 hnodup.tail
    · exact fun _ => ⟨hpath.symm, hlast, rfl⟩
  | false =>
    have hnext := hf.next_missed hne hfound
    cases hstep : directStep walk current target with
    | none => exact ⟨[], _, .stop_planned (hstep ▸ hnext) rfl, rfl, nofun, fun _ => descends_nil⟩
    | some next =>
      obtain ⟨tiles, g, hwalks, hplans, hdescends⟩ := walks_resigned limits algorithm
        (f := { f with goal := some target, unreachable := some target, ahead := [], plans := f.plans + 1 }) rfl next
      exact ⟨next :: tiles, g, .go_planned (hstep ▸ hnext) rfl hwalks, hplans, nofun, fun _ => hdescends.cons hstep⟩

/-- Around the corner of an open square. -/
theorem walks_once_of_open :
    ∃ tiles g, Walks (fun _ => true) {} .bestFirst ⟨2, 1⟩ (.fresh 2) ⟨0, 0⟩ tiles 1 g ∧ g.plans = 1 ∧
      tiles.getLast? = some ⟨2, 1⟩ := by
  obtain ⟨tiles, g, hwalks, hplans, hfound, -⟩ := walks_once (fun _ => true) {} .bestFirst (.fresh 2)
    (show (⟨0, 0⟩ : Tile) ≠ ⟨2, 1⟩ by decide)
  exact ⟨tiles, g, hwalks, hplans, (hfound (by decide +kernel)).2.1⟩

end Follower

end TileRealm
