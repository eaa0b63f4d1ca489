import TileRealm.Proofs.Mover.Outing
import TileRealm.Proofs.Route.Complete
import TileRealm.Proofs.Terrain.Answer

/-!
# The way home

- `Outing.dueTicks`, `Outing.strides`, `Outing.Undisturbed`: the ticks that are due in a history, the steps that are
  made, and that nobody else moves the entity;
- `Homeward`: a mover on a route home;
- `Homeward.deed`, `Homeward.step`, `Homeward.arrive`: what each turn does to it; hence `homeward_after`;
- `homeward_tick`: the tick that sends a mover home;
- `returns_home`: from there on, it walks one route tile by tile and is on patrol again.
-/

set_option autoImplicit false

namespace TileRealm

/-- All tiles that can be reached can be walked on. -/
theorem walkable_of_mem_region {walk : Tile → Bool} {start t : Tile} (hstart : walk start = true)
    (ht : t ∈ region walk start) : walk t = true := by
  obtain ⟨route, hroute⟩ := ht
  by_cases hne : start = t
  · exact hne ▸ hstart
  · exact hroute.walk (List.mem_of_getLast? (hroute.getLast? hne))

/-- No more tiles can be reached than the terrain has. -/
theorem ncard_region_le (terrain : Terrain) {start : Tile} (hstart : terrain.walkable start = true) :
    (region terrain.walkable start).ncard ≤ terrain.area := by
  have hsubset : region terrain.walkable start ⊆ {p | terrain.walkable p = true} := fun _ =>
    walkable_of_mem_region hstart
  calc (region terrain.walkable start).ncard ≤ {p | terrain.walkable p = true}.ncard :=
        Set.ncard_le_ncard hsubset (Set.toFinite _)
    _ = (List.range terrain.area).countP terrain.store.read := terrain.ncard_walkable
    _ ≤ (List.range terrain.area).length := List.countP_le_length
    _ = terrain.area := List.length_range

/-- A goal that can be reached is found within a budget for all tiles that can be reached. -/
theorem plan_found {walk : Tile → Bool} {limits : Limits} {start goal : Tile} (hstart : walk start = true)
    (hne : start ≠ goal) (hgoal : goal ∈ region walk start) (hbudget : (region walk start).ncard ≤ limits.expansions) :
    (plan walk limits .bestFirst start goal).found = true := by
  rw [plan, hstart, walkable_of_mem_region hstart hgoal, if_neg (by decide), if_neg hne]
  exact (BestFirst.search_complete _ walk limits.expansions start goal).2.1 hgoal hbudget

namespace Outing

/-- Whether a turn is a tick in which a step is due. -/
def isDue (o : Outing) : Turn → Bool
  | .tick now => (o.scene.entity? o.mover.handle).any fun e => o.mover.isDue (o.scene.referee.rules.cap e.speed) now
  | .deed _ => false

/-- How many ticks of a history were due. -/
def dueTicks (o : Outing) : List Turn → Nat
  | [] => 0
  | turn :: past => o.dueTicks past + if (o.after past).isDue turn then 1 else 0

/-- The tiles that the mover stepped to, one after the other. -/
def strides (o : Outing) : List Turn → List Tile
  | [] => []
  | .tick now :: past => o.strides past ++ ((o.after past).mover.tick (o.after past).scene now).1.toList
  | .deed _ :: past => o.strides past

/-- The place of the mover's entity. -/
def place? (o : Outing) : Option Tile :=
  o.scene.place? o.mover.handle

/-- Nobody but the mover moves its entity or takes it away. -/
def Undisturbed (o : Outing) : List Turn → Prop
  | [] => True
  | .tick _ :: past => o.Undisturbed past
  | .deed d :: past => o.Undisturbed past ∧ ((o.after past).perform (.deed d)).place? = (o.after past).place?

end Outing

/-- A mover on its way home, with the rest of its route. -/
structure Homeward (home : Tile) (plans : UInt64) (pos : Tile) (rest : List Tile) (o : Outing) : Prop where
  home_eq : o.mover.home = home
  mode : o.mover.mode = .goHome
  place : o.place? = some pos
  plans : o.mover.follower.plans = plans
  route : IsRoute o.scene.terrain.walkable pos home rest
  nodup : (pos :: rest).Nodup
  goal : rest ≠ [] → o.mover.follower.goal = some home
  unreachable : rest ≠ [] → o.mover.follower.unreachable = none
  ahead : rest ≠ [] → o.mover.follower.ahead = rest

namespace Homeward

variable {o : Outing} {plans : UInt64} {now : Nat} {home pos next : Tile} {rest : List Tile}

theorem deed {d : Scene.Deed} (h : Homeward home plans pos rest o) (hd : (o.perform (.deed d)).place? = o.place?) :
    Homeward home plans pos rest (o.perform (.deed d)) := by
  have hterrain : (o.perform (.deed d)).scene.terrain = o.scene.terrain := (o.scene.ground_perform d).2
  exact { h with
    place := hd.trans h.place
    route := by
      rw [hterrain]
      exact h.route }

/-- The entity of a mover on its way home is there. -/
theorem entity (h : Homeward home plans pos rest o) : ∃ e, o.scene.entity? o.mover.handle = some e ∧ e.pos = pos :=
  Option.map_eq_some_iff.mp h.place

theorem nextMode_eq (h : Homeward home plans pos rest o) :
    o.mover.nextMode o.scene pos = if pos = home then .patrol else .goHome := by
  unfold Mover.nextMode Mover.modeBy
  rw [h.home_eq]
  split
  · rename_i hfar
    -- the entity is away from home if it is beyond any distance
    rw [if_neg]
    rintro rfl
    rw [Tile.distance_self] at hfar
    exact Float.not_toFloat_lt_zero _ hfar
  · rw [h.mode]

/-- A mover that is due takes the next tile of its route. -/
theorem step (h : Homeward home plans pos (next :: rest) o) (hdue : o.isDue (.tick now) = true) :
    (o.mover.tick o.scene now).1 = some next ∧ Homeward home plans next rest (o.perform (.tick now)) := by
  obtain ⟨e, he, rfl⟩ := h.entity
  have hdue : o.mover.isDue (o.scene.referee.rules.cap e.speed) now = true := by
    simpa [Outing.isDue, he] using hdue
  have hmode : o.mover.nextMode o.scene e.pos = .goHome := by
    rw [h.nextMode_eq, if_neg (h.route.ne_of_nodup h.nodup)]
  have henter : o.mover.enter .goHome = o.mover := by rw [Mover.enter, if_pos h.mode]
  have hgoal := h.goal (List.cons_ne_nil _ _)
  have hreachable := h.unreachable (List.cons_ne_nil _ _)
  have hadvice : o.mover.advice o.scene e.pos home = (some next, { o.mover.follower with ahead := rest }) := by
    rw [Mover.advice, hmode, henter]
    exact Follower.next_underway _ _ hgoal hreachable (h.ahead (List.cons_ne_nil _ _)) h.route h.nodup
  have hwalk := h.route.2.1
  have hacts := Mover.acts_act he now
  rw [← Mover.tick_of_due he hdue] at hacts
  have haim : o.mover.aim o.scene e.pos = some home := h.home_eq ▸ Mover.aim_of_goHome hmode
  obtain ⟨hanswer, patrol, random, hmover, hscene⟩ := hacts.of_proposed haim hadvice hwalk
  refine ⟨hanswer, ?_⟩
  rw [hmode, henter] at hmover
  have hperform : o.perform (.tick now) = ⟨(o.mover.tick o.scene now).2.1, (o.mover.tick o.scene now).2.2⟩ := rfl
  rw [hperform, hmover, hscene]
  exact
    { home_eq := h.home_eq
      mode := h.mode
      place := Scene.place?_strode _
      plans := h.plans
      route := h.route.2.2
      nodup := h.nodup.tail
      goal := fun _ => hgoal
      unreachable := fun _ => hreachable
      ahead := fun _ => rfl }

/-- At home, a mover that is due goes on patrol. -/
theorem arrive (h : Homeward home plans pos [] o) (hdue : o.isDue (.tick now) = true) :
    (o.perform (.tick now)).mover.mode = .patrol := by
  obtain ⟨e, he, rfl⟩ := h.entity
  have hdue : o.mover.isDue (o.scene.referee.rules.cap e.speed) now = true := by
    simpa [Outing.isDue, he] using hdue
  have hmode : (o.mover.tick o.scene now).2.1.mode = o.mover.nextMode o.scene e.pos := by
    rw [Mover.tick_of_due he hdue]
    exact (Mover.acts_act he now).mode
  exact hmode.trans (h.nextMode_eq.trans (if_pos h.route))

end Homeward

/-- Nothing happens in a tick that is not due. -/
theorem Outing.tick_of_early {o : Outing} {now : Nat} (h : o.isDue (.tick now) = false) :
    o.mover.tick o.scene now = (none, o.mover, o.scene) := by
  unfold Mover.tick
  cases he : o.scene.entity? o.mover.handle with
  | none => rfl
  | some e =>
    have hearly : o.mover.isDue (o.scene.referee.rules.cap e.speed) now = false := by
      simpa [Outing.isDue, he] using h
    simp only [hearly, Bool.false_eq_true, if_false]

section

variable {o : Outing} {plans : UInt64} {home pos : Tile} {rest : List Tile}

/-- On the way home, each tick that is due takes one tile of the route, and the tick after the last one ends the way,
whatever happens in between. -/
theorem homeward_after (h : Homeward home plans pos rest o) (past : List Turn) (hpast : o.Undisturbed past) :
    (o.dueTicks past ≤ rest.length → o.strides past = rest.take (o.dueTicks past) ∧
      ∃ p, (pos :: rest.take (o.dueTicks past)).getLast? = some p ∧
        Homeward home plans p (rest.drop (o.dueTicks past)) (o.after past)) ∧
    (o.dueTicks past = rest.length + 1 → (o.after past).mover.mode = .patrol) := by
  induction past with
  | nil => exact ⟨fun _ => ⟨rfl, pos, rfl, h⟩, nofun⟩
  | cons turn past ih =>
    cases turn with
    | deed d =>
      obtain ⟨hbefore, hdeed⟩ := hpast
      obtain ⟨hway, hpatrol⟩ := ih hbefore
      refine ⟨fun hle => ?_, hpatrol⟩
      obtain ⟨hstrides, p, hlast, hhome⟩ := hway hle
      exact ⟨hstrides, p, hlast, hhome.deed hdeed⟩
    | tick now =>
      obtain ⟨hway, hpatrol⟩ := ih hpast
      cases hdue : (o.after past).isDue (.tick now) with
      | false =>
        have htick := Outing.tick_of_early hdue
        have hafter : o.after (.tick now :: past) = o.after past := by
          simp only [Outing.after, Outing.perform, htick]
        have hcount : o.dueTicks (.tick now :: past) = o.dueTicks past := by
          simp only [Outing.dueTicks, hdue, Bool.false_eq_true, if_false, Nat.add_zero]
        have hstrides : o.strides (.tick now :: past) = o.strides past := by
          simp only [Outing.strides, htick, Option.toList_none, List.append_nil]
        rw [hafter, hcount, hstrides]
        exact ⟨hway, hpatrol⟩
      | true =>
        have hcount : o.dueTicks (.tick now :: past) = o.dueTicks past + 1 := by
          simp only [Outing.dueTicks, hdue, if_true]
        rw [hcount]
        constructor
        · intro hle
          obtain ⟨hstrides, p, -, hhome⟩ := hway (by omega)
          rw [List.drop_eq_getElem_cons (by omega)] at hhome
          obtain ⟨hanswer, hhome⟩ := hhome.step hdue
          rw [Outing.strides, hstrides, hanswer, Option.toList_some, List.take_succ_eq_append_getElem (by omega)]
          exact ⟨rfl, _, by rw [← List.cons_append, List.getLast?_concat], hhome⟩
        · intro hend
          obtain ⟨-, p, -, hhome⟩ := hway (by omega)
          rw [List.drop_eq_nil_of_le (by omega)] at hhome
          exact hhome.arrive hdue

end

/-- The tick that sends a mover home makes a plan and takes the first step of it, unless the mover is at home. -/
theorem homeward_tick {o : Outing} {now : Nat} {e : Entity} {route : List Tile}
    (he : o.scene.entity? o.mover.handle = some e)
    (hdue : o.mover.isDue (o.scene.referee.rules.cap e.speed) now = true) (hmode : o.mover.mode ≠ .goHome)
    (hreturn : (o.mover.tick o.scene now).2.1.mode = .goHome)
    (hfound : e.pos ≠ o.mover.home →
      (o.scene.plan (o.mover.rules.algorithm .goHome) e.pos o.mover.home).found = true)
    (hroute : route = if e.pos = o.mover.home then [] else
      (o.scene.plan (o.mover.rules.algorithm .goHome) e.pos o.mover.home).path) :
    IsRoute o.scene.terrain.walkable e.pos o.mover.home route ∧
      (o.mover.tick o.scene now).1.toList = route.take 1 ∧
      ∃ pos, (e.pos :: route.take 1).getLast? = some pos ∧
        Homeward o.mover.home (o.mover.follower.plans + if e.pos = o.mover.home then 0 else 1) pos (route.drop 1)
          (o.perform (.tick now)) := by
  have hacts := Mover.acts_act he now
  rw [← Mover.tick_of_due he hdue] at hacts
  have hnext : o.mover.nextMode o.scene e.pos = .goHome := hacts.mode.symm.trans hreturn
  have haim := Mover.aim_of_goHome hnext
  have henter : o.mover.enter .goHome =
      { o.mover with mode := .goHome, follower := o.mover.follower.clear, patrolTarget := none } := by
    rw [Mover.enter, if_neg hmode]
  have hadvice : o.mover.advice o.scene e.pos o.mover.home = o.mover.follower.clear.next o.scene.terrain.walkable
      o.scene.limits (o.mover.rules.algorithm .goHome) e.pos o.mover.home := by
    rw [Mover.advice, hnext, henter]
  have hperform : o.perform (.tick now) = ⟨(o.mover.tick o.scene now).2.1, (o.mover.tick o.scene now).2.2⟩ := rfl
  rw [hperform]
  by_cases hhome : e.pos = o.mover.home
  · rw [if_pos hhome] at hroute ⊢
    subst hroute
    have hcall : o.mover.follower.clear.next o.scene.terrain.walkable o.scene.limits
        (o.mover.rules.algorithm .goHome) e.pos o.mover.home = (none, o.mover.follower.clear) := by
      rw [Follower.next, if_pos hhome]
      rfl
    obtain ⟨hanswer, g, patrol, random, hg, hmover, hscene⟩ := hacts.of_silent haim (hadvice.trans hcall)
    have hplans : g.plans = o.mover.follower.plans := by rcases hg with rfl | rfl <;> rfl
    have hplace : o.place? = some e.pos := by rw [Outing.place?, Scene.place?, he, Option.map_some]
    refine ⟨hhome, by rw [hanswer]; rfl, e.pos, rfl, ?_⟩
    rw [hmover, hscene, hnext, henter]
    exact
      { home_eq := rfl
        mode := rfl
        place := hplace
        plans := hplans.trans (UInt64.add_zero _).symm
        route := hhome
        nodup := List.nodup_singleton _
        goal := fun h => absurd rfl h
        unreachable := fun h => absurd rfl h
        ahead := fun h => absurd rfl h }
  · rw [if_neg hhome] at hroute ⊢
    obtain ⟨hleads, hnodup⟩ := plan_isRoute hhome (hfound hhome)
    obtain ⟨next, rest, hpath, hcall⟩ := (Follower.Blank.clear o.mover.follower).next_found hhome (hfound hhome)
    obtain rfl : route = next :: rest := hroute.trans hpath
    rw [hpath] at hleads hnodup
    obtain ⟨hanswer, patrol, random, hmover, hscene⟩ := hacts.of_proposed haim (hadvice.trans hcall) hleads.2.1
    refine ⟨hleads, by rw [hanswer]; rfl, next, rfl, ?_⟩
    rw [hmover, hscene, hnext, henter]
    exact
      { home_eq := rfl
        mode := rfl
        place := Scene.place?_strode _
        plans := rfl
        route := hleads.2.2
        nodup := hnodup.tail
        goal := fun _ => rfl
        unreachable := fun _ => rfl
        ahead := fun _ => rfl }

/-- **Coming home.** A tick that is due sends a mover home, and home can be reached within the budget of a best-first
search.  Then, whatever others do but move its entity, the mover walks one planned route, which is none at home itself:
one tile in each tick that is due, beginning with the first.  When the route is walked the mover is at home, and the
tick after that sends it on patrol. -/
theorem returns_home {o : Outing} {now : Nat} {e : Entity} (he : o.scene.entity? o.mover.handle = some e)
    (hdue : o.mover.isDue (o.scene.referee.rules.cap e.speed) now = true) (hmode : o.mover.mode ≠ .goHome)
    (hreturn : (o.mover.tick o.scene now).2.1.mode = .goHome) (halgorithm : o.mover.rules.homeAlgorithm = .bestFirst)
    (hwalk : o.scene.terrain.walkable e.pos = true) (hhome : o.mover.home ∈ region o.scene.terrain.walkable e.pos)
    (hbudget : (region o.scene.terrain.walkable e.pos).ncard ≤ o.scene.limits.expansions) (past : List Turn)
    (hpast : (o.perform (.tick now)).Undisturbed past) :
    let first := o.perform (.tick now)
    let last := first.after past
    let route := if e.pos = o.mover.home then [] else (o.scene.plan .bestFirst e.pos o.mover.home).path
    let due := first.dueTicks past + 1
    IsRoute o.scene.terrain.walkable e.pos o.mover.home route ∧
      (due ≤ max route.length 1 → last.mover.mode = .goHome ∧
        last.mover.follower.plans = o.mover.follower.plans + (if e.pos = o.mover.home then 0 else 1) ∧
        (o.mover.tick o.scene now).1.toList ++ first.strides past = route.take due ∧
        last.place? = (e.pos :: route.take due).getLast?) ∧
      (due = max route.length 1 → last.place? = some o.mover.home) ∧
      (due = max route.length 1 + 1 → last.mover.mode = .patrol) := by
  intro first last route due
  have hastar : o.mover.rules.algorithm .goHome = .bestFirst := halgorithm
  have hplanned : route = if e.pos = o.mover.home then [] else
      (o.scene.plan (o.mover.rules.algorithm .goHome) e.pos o.mover.home).path := by
    rw [hastar]
  obtain ⟨hroute, hanswer, pos, hpos, hway⟩ := homeward_tick he hdue hmode hreturn
    (fun hne => hastar ▸ plan_found hwalk hne hhome hbudget) hplanned
  obtain ⟨hthere, hpatrol⟩ := homeward_after hway past hpast
  generalize hcount : first.dueTicks past = count at hthere hpatrol
  have hlength : (route.drop 1).length = route.length - 1 := List.length_drop
  have hdueEq : due = 1 + count := by omega
  refine ⟨hroute, fun hle => ?_, fun hend => ?_, fun hend => hpatrol (by omega)⟩
  · obtain ⟨hstrides, p, hp, hhomeward⟩ := hthere (by omega)
    refine ⟨hhomeward.mode, hhomeward.plans, ?_, ?_⟩
    · rw [hanswer, hstrides, hdueEq, List.take_add]
    · rw [hhomeward.place, hdueEq, List.take_add, ← List.cons_append, List.getLast?_append, hpos, ← hp,
        ← List.singleton_append, List.getLast?_append, List.getLast?_singleton]
  · obtain ⟨-, p, -, hhomeward⟩ := hthere (by omega)
    have hrest := hhomeward.route
    rw [List.drop_eq_nil_of_le (by omega)] at hrest
    exact hhomeward.place.trans (congrArg some hrest)

/-- A bat that may not leave its home comes back over two tiles. -/
theorem returns_home_two :
    let bat : Handle := .pack .monster 0 1
    let s := (Scene.empty {} ⟨3, 1, .bitmap #[7]⟩ .disconnected).after [.join (.outside bat "bat" ⟨2, 0⟩ 4)]
    let o : Outing := ⟨.create bat ⟨0, 0⟩ { resetDistance := 0 }, s⟩
    ((o.perform (.tick 0)).after [.tick 300000000]).place? = some o.mover.home ∧
      ((o.perform (.tick 0)).after [.tick 600000000, .deed .flush, .tick 300000000]).mover.mode = .patrol := by
  intro bat s o
  have hwalk : o.scene.terrain.walkable ⟨2, 0⟩ = true := by decide +kernel
  have hhome : o.mover.home ∈ region o.scene.terrain.walkable ⟨2, 0⟩ :=
    ⟨[⟨1, 0⟩, ⟨0, 0⟩], by decide +kernel, by decide +kernel, by decide +kernel, by decide +kernel, rfl⟩
  have hbudget : (region o.scene.terrain.walkable ⟨2, 0⟩).ncard ≤ o.scene.limits.expansions :=
    (ncard_region_le o.scene.terrain hwalk).trans (by decide +kernel)
  have he : o.scene.entity? o.mover.handle = some ⟨bat, "bat", ⟨2, 0⟩, 4, some 1⟩ := by decide +kernel
  have hdue : o.mover.isDue (o.scene.referee.rules.cap 4) 0 = true := by decide +kernel
  have hway := returns_home he hdue (by decide) (by decide +kernel) rfl hwalk hhome hbudget
  have hlate : (o.perform (.tick 0)).Undisturbed [.tick 600000000, .deed .flush, .tick 300000000] :=
    ⟨trivial, by decide +kernel⟩
  exact ⟨(hway [.tick 300000000] trivial).2.2.1 (by decide +kernel), (hway _ hlate).2.2.2 (by decide +kernel)⟩

end TileRealm
