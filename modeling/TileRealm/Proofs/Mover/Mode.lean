import TileRealm.Proofs.Mover.Tick
import TileRealm.Proofs.Scene.Coherent

/-!
# What a mover decides

A mover looks for players among those that its entity sees.  In a range of two cells this is as good as looking at
everybody in the scene, by any distance within which all tiles are as few steps away.

- `leastBy_spec`, `leastBy_first`: of the values with the least key, the first one is chosen;
- `Tile.nearby_of_steps_le`: tiles as few steps apart as two cells are long are nearby;
- `Mover.Detects`, `Mover.Nearest`, `nearestRole_spec`: the player that is chosen, out of all who are registered;
- `Mover.Decides`, `decides_iff`: the decision, which all players in the scene lead to;
- `Mover.tickWith`, `tick_eq_tickWith`: a tick with any distance and any way to pursue a target;
- `Mover.Decided`, `decided_of_mode`: what the decision says of the mover after a tick;
- `mode_tick`: this is so of every tick in a scene with a history.
-/

set_option autoImplicit false

namespace TileRealm

/-! ## The first of the least -/

section

variable {α : Type} {key : α → Float}

/-- All values before the chosen one have larger keys, and none after it has a smaller one. -/
theorem leastBy_spec {l : List α} (hkey : ∀ a ∈ l, (key a).isNaN = false) {a : α} (h : leastBy key l = some a) :
    ∃ front back, l = front ++ a :: back ∧ (∀ b ∈ front, key a < key b) ∧ ∀ b ∈ back, ¬key b < key a := by
  obtain _ | ⟨first, rest⟩ := l
  · cases h
  simp only [leastBy, Option.some.injEq] at h
  -- the choice out of the rest, with the best one so far in front
  induction rest generalizing first with
  | nil =>
    obtain rfl : first = a := h
    exact ⟨[], [], rfl, List.forall_mem_nil _, List.forall_mem_nil _⟩
  | cons next rest ih =>
    rw [List.forall_mem_cons, List.forall_mem_cons] at hkey
    obtain ⟨hfirst, hnext, hrest⟩ := hkey
    rw [List.foldl_cons, lesser] at h
    split at h
    · rename_i hlt
      obtain ⟨front, back, heq, hfront, hback⟩ := ih next (List.forall_mem_cons.mpr ⟨hnext, hrest⟩) h
      refine ⟨first :: front, back, congrArg (first :: ·) heq, ?_, hback⟩
      rw [List.forall_mem_cons]
      refine ⟨?_, hfront⟩
      rcases List.cons_eq_append_iff.mp heq with ⟨-, hchosen⟩ | ⟨front', rfl, -⟩
      · cases hchosen
        exact hlt
      · exact Float.lt_trans (hfront next List.mem_cons_self) hlt
    · rename_i hge
      obtain ⟨front, back, heq, hfront, hback⟩ := ih first (List.forall_mem_cons.mpr ⟨hfirst, hrest⟩) h
      rcases List.cons_eq_append_iff.mp heq with ⟨-, hchosen⟩ | ⟨front', rfl, hrest'⟩
      · cases hchosen
        refine ⟨[], next :: rest, rfl, List.forall_mem_nil _, List.forall_mem_cons.mpr ⟨hge, hback⟩⟩
      · refine ⟨first :: next :: front', back, by rw [hrest']; rfl, ?_, hback⟩
        simp only [List.forall_mem_cons] at hfront ⊢
        -- the one that was passed over is not smaller than the first, and so it is larger than the chosen one
        exact ⟨hfront.1, (Float.lt_or_lt hnext hfront.1).resolve_right hge, hfront.2⟩

/-- In a list that is in order, no value with a key as small comes before the chosen one. -/
theorem leastBy_first {r : α → α → Prop} {l : List α} (hkey : ∀ a ∈ l, (key a).isNaN = false) (hl : l.Pairwise r)
    {a : α} (h : leastBy key l = some a) :
    a ∈ l ∧ ∀ b ∈ l, key a < key b ∨ ¬key b < key a ∧ (b = a ∨ r a b) := by
  obtain ⟨front, back, rfl, hfront, hback⟩ := leastBy_spec hkey h
  rw [List.pairwise_append, List.pairwise_cons] at hl
  refine ⟨List.mem_append_right front List.mem_cons_self, fun b hb => ?_⟩
  obtain hb | hb | hb := by simpa only [List.mem_append, List.mem_cons] using hb
  · exact .inl (hfront b hb)
  · subst hb
    exact .inr ⟨fun hlt => lt_irrefl _ (Float.lt_iff.mp hlt).2.2, .inl rfl⟩
  · exact .inr ⟨hback b hb, .inr (hl.2.1.1 b hb)⟩

end

/-- Tiles as few steps apart as two cells are long are nearby. -/
theorem Tile.nearby_of_steps_le {size : UInt32} {p q : Tile} (h : p.steps q ≤ 2 * (max size 1).toNat) :
    p.Nearby size q := by
  have hpos : 0 < (max size 1).toNat := by
    have hmax : max size 1 = if size ≤ 1 then 1 else size := rfl
    rw [hmax]
    split
    · decide
    · rename_i h
      rw [UInt32.le_iff_toNat_le, not_le] at h
      exact Nat.zero_lt_of_lt h
  have hdiv : ∀ {a b : Nat}, b ≤ a + 2 * (max size 1).toNat →
      b / (max size 1).toNat ≤ a / (max size 1).toNat + 2 := by
    intro a b hab
    rw [← Nat.add_mul_div_right a 2 hpos]
    exact Nat.div_le_div_right hab
  simp only [steps, dx, dy] at h
  simp only [Nearby, Cell.steps, cell, UInt32.toNat_div]
  have := @hdiv p.x.toNat q.x.toNat (by omega)
  have := @hdiv q.x.toNat p.x.toNat (by omega)
  have := @hdiv p.y.toNat q.y.toNat (by omega)
  have := @hdiv q.y.toNat p.y.toNat (by omega)
  omega

namespace Mover

variable {distance : Tile → Tile → Float} {m m' : Mover} {s : Scene} {pos : Tile} {role : Handle} {mode : Mode}
  {e : Entity} {size : UInt32}

/-! ## The nearest player -/

/-- A player who is registered and close enough; the mover's own entity does not count. -/
structure Detects (distance : Tile → Tile → Float) (m : Mover) (s : Scene) (pos : Tile) (role : Handle) (e : Entity) :
    Prop where
  ne : role ≠ m.handle
  isRole : role.isRole = true
  entity : s.entity? role = some e
  distance_le : distance pos e.pos ≤ m.rules.detectRange.toFloat

/-- The closest player that is detected, of several the one with the lowest handle. -/
def Nearest (distance : Tile → Tile → Float) (m : Mover) (s : Scene) (pos : Tile) (role : Handle) : Prop :=
  ∃ e, m.Detects distance s pos role e ∧ ∀ other f, m.Detects distance s pos other f →
    distance pos e.pos < distance pos f.pos ∨ ¬distance pos f.pos < distance pos e.pos ∧ role.raw ≤ other.raw

theorem Nearest.unique {role' : Handle} (h : m.Nearest distance s pos role) (h' : m.Nearest distance s pos role') :
    role = role' := by
  obtain ⟨e, he, hleast⟩ := h
  obtain ⟨e', he', hleast'⟩ := h'
  -- neither of the two is closer, and neither handle is lower
  rcases hleast role' e' he', hleast' role e he with ⟨hlt | ⟨hge, hle⟩, hlt' | ⟨hge', hle'⟩⟩
  · exact absurd (Float.lt_iff.mp hlt).2.2 (Float.lt_iff.mp hlt').2.2.asymm
  · exact absurd hlt hge'
  · exact absurd hlt' hge
  · obtain ⟨raw⟩ := role
    obtain ⟨raw'⟩ := role'
    exact congrArg Handle.mk (UInt64.le_antisymm hle hle')

theorem mem_toList_visible {v : Visibility} {h g : Handle} : g ∈ ((v.visible h).getD ∅).toList ↔ v.Sees h g := by
  rw [Std.ExtTreeSet.mem_toList]
  cases hseen : v.visible h with
  | none => simp [Visibility.Sees, hseen]
  | some seen => simp [Visibility.Sees, hseen]

/-- The players in range are listed in the order of their handles. -/
theorem ascending_rolesInRange (distance : Tile → Tile → Float) (m : Mover) (s : Scene) (pos : Tile) :
    (m.rolesInRange distance s pos).Pairwise fun a b => a.2.raw < b.2.raw := by
  rw [rolesInRange, List.pairwise_filterMap]
  refine ((HandleSet.ascending_toList _).filter _).imp ?_
  intro g h hlt p hp q hq
  simp only [Option.filter_eq_some_iff, Option.map_eq_some_iff] at hp hq
  obtain ⟨⟨_, _, rfl⟩, -⟩ := hp
  obtain ⟨⟨_, _, rfl⟩, -⟩ := hq
  exact hlt

/-! ## The decision -/

/-- What a mover is up to at a place, decided by all players in the scene. -/
inductive Decides (distance : Tile → Tile → Float) (m : Mover) (s : Scene) (pos : Tile) : Mode → Prop
  | tooFar : m.rules.resetDistance.toFloat < distance pos m.home → Decides distance m s pos .goHome
  | onward : distance pos m.home ≤ m.rules.resetDistance.toFloat → m.mode = .goHome → pos ≠ m.home →
      Decides distance m s pos .goHome
  | arrived : distance pos m.home ≤ m.rules.resetDistance.toFloat → m.mode = .goHome → pos = m.home →
      Decides distance m s pos .patrol
  | chase {role : Handle} : distance pos m.home ≤ m.rules.resetDistance.toFloat → m.mode ≠ .goHome →
      m.Nearest distance s pos role → Decides distance m s pos (.chase role)
  | lost {role : Handle} : distance pos m.home ≤ m.rules.resetDistance.toFloat → m.mode = .chase role →
      (∀ role f, ¬m.Detects distance s pos role f) → Decides distance m s pos .goHome
  | calm : distance pos m.home ≤ m.rules.resetDistance.toFloat → m.mode = .patrol →
      (∀ role f, ¬m.Detects distance s pos role f) → Decides distance m s pos .patrol

/-! ## What all players lead to -/

section

variable (hdistance : Tile.Measures distance) (hs : s.stage.Coherent size) (he : s.entity? m.handle = some e)
  (hrange : m.rules.detectRange.toNat ≤ 2 * (max size 1).toNat)

include hdistance hs he hrange

/-- The players in range are those that are detected: whoever is that close is in view. -/
theorem mem_rolesInRange {away : Float} : (away, role) ∈ m.rolesInRange distance s e.pos ↔
    ∃ f, m.Detects distance s e.pos role f ∧ away = distance e.pos f.pos := by
  have hseen : ∀ role, role ∈ ((s.visibility.visible m.handle).getD ∅).toList ↔
      role ≠ m.handle ∧ ∃ f, s.entity? role = some f ∧ e.pos.Nearby size f.pos := by
    intro role
    rw [mem_toList_visible]
    refine hs.sees_iff.trans (and_congr_right fun _ => ⟨?_, ?_⟩)
    · rintro ⟨e', f, he', hf, hnear⟩
      obtain rfl : e = e' := Option.some.inj (he.symm.trans he')
      exact ⟨f, hf, hnear⟩
    · rintro ⟨f, hf, hnear⟩
      exact ⟨e, f, he, hf, hnear⟩
  simp only [rolesInRange, List.mem_filterMap, List.mem_filter, hseen, Option.filter_eq_some_iff,
    Option.map_eq_some_iff, decide_eq_true_eq]
  constructor
  · rintro ⟨g, ⟨⟨hne, -⟩, hrole⟩, ⟨f, hf, heq⟩, hle⟩
    rw [Prod.mk.injEq] at heq
    obtain ⟨rfl, rfl⟩ := heq
    exact ⟨f, ⟨hne, hrole, hf, hle⟩, rfl⟩
  · rintro ⟨f, ⟨hne, hrole, hf, hle⟩, rfl⟩
    have hnear : e.pos.Nearby size f.pos := Tile.nearby_of_steps_le ((hdistance.steps_le hle).trans hrange)
    exact ⟨role, ⟨⟨hne, f, hf, hnear⟩, hrole⟩, ⟨f, hf, rfl⟩, hle⟩

theorem nearestRole_spec :
    (∀ role, m.nearestRole distance s e.pos = some role → m.Nearest distance s e.pos role) ∧
      (m.nearestRole distance s e.pos = none → ∀ role f, ¬m.Detects distance s e.pos role f) := by
  have hmem : ∀ away role, (away, role) ∈ m.rolesInRange distance s e.pos ↔
      ∃ f, m.Detects distance s e.pos role f ∧ away = distance e.pos f.pos :=
    fun _ _ => mem_rolesInRange hdistance hs he hrange
  have hascending := ascending_rolesInRange distance m s e.pos
  rw [nearestRole]
  generalize m.rolesInRange distance s e.pos = roles at hmem hascending
  have hkey : ∀ a ∈ roles, a.1.isNaN = false := by
    rintro ⟨away, role⟩ ha
    obtain ⟨f, -, rfl⟩ := (hmem away role).mp ha
    exact hdistance.isNaN _ _
  constructor
  · intro role hrole
    obtain ⟨⟨away, role'⟩, hleast, rfl⟩ := Option.map_eq_some_iff.mp hrole
    obtain ⟨hchosen, hfirst⟩ := leastBy_first hkey hascending hleast
    obtain ⟨f, hf, rfl⟩ := (hmem away role').mp hchosen
    refine ⟨f, hf, fun other g hg => ?_⟩
    rcases hfirst _ ((hmem (distance e.pos g.pos) other).mpr ⟨g, hg, rfl⟩) with hless | ⟨hge, heq | hlt⟩
    · exact .inl hless
    · rw [Prod.mk.injEq] at heq
      exact .inr ⟨hge, heq.2 ▸ UInt64.le_refl _⟩
    · exact .inr ⟨hge, UInt64.le_of_lt hlt⟩
  · intro hnone role f hf
    rw [Option.map_eq_none_iff, leastBy_eq_none_iff] at hnone
    have := (hmem _ role).mpr ⟨f, hf, rfl⟩
    rw [hnone] at this
    cases this

theorem decides_modeBy : m.Decides distance s e.pos (m.modeBy distance s e.pos) := by
  obtain ⟨hsome, hnone⟩ := nearestRole_spec hdistance hs he hrange
  unfold modeBy
  split
  · rename_i hfar
    exact .tooFar hfar
  · rename_i hwithin
    rw [Float.not_lt_iff_le (Float.isNaN_toFloat _) (hdistance.isNaN _ _)] at hwithin
    split
    · rename_i hmode
      split
      · rename_i hhome
        exact .arrived hwithin hmode hhome
      · rename_i haway
        exact .onward hwithin hmode haway
    · rename_i hmode
      split
      · rename_i role hrole
        exact .chase hwithin hmode (hsome role hrole)
      · rename_i hrole
        split
        · rename_i hpatrol
          exact .calm hwithin hpatrol (hnone hrole)
        · rename_i hpatrol
          cases hm : m.mode with
          | patrol => exact absurd hm hpatrol
          | goHome => exact absurd hm hmode
          | chase role => exact .lost hwithin hm (hnone hrole)

/-- The decision is the one that all players in the scene lead to. -/
theorem decides_iff : m.Decides distance s e.pos mode ↔ m.modeBy distance s e.pos = mode := by
  obtain ⟨hsome, hnone⟩ := nearestRole_spec hdistance hs he hrange
  have hnobody : (∀ role f, ¬m.Detects distance s e.pos role f) → m.nearestRole distance s e.pos = none := by
    intro hf
    rw [Option.eq_none_iff_forall_ne_some]
    intro role hrole
    obtain ⟨f, hdetects, -⟩ := hsome role hrole
    exact hf role f hdetects
  have hwithin : distance e.pos m.home ≤ m.rules.resetDistance.toFloat →
      ¬m.rules.resetDistance.toFloat < distance e.pos m.home :=
    (Float.not_lt_iff_le (Float.isNaN_toFloat _) (hdistance.isNaN _ _)).mpr
  refine ⟨fun h => ?_, fun h => h ▸ decides_modeBy hdistance hs he hrange⟩
  unfold modeBy
  cases h with
  | tooFar hfar => rw [if_pos hfar]
  | onward hle hmode haway => rw [if_neg (hwithin hle), hmode]; exact if_neg haway
  | arrived hle hmode hhome => rw [if_neg (hwithin hle), hmode]; exact if_pos hhome
  | @chase role hle hmode hnearest =>
    have hrole : m.nearestRole distance s e.pos = some role := by
      cases hother : m.nearestRole distance s e.pos with
      | none =>
        obtain ⟨f, hdetects, -⟩ := hnearest
        exact absurd hdetects (hnone hother role f)
      | some other => rw [(hsome other hother).unique hnearest]
    rw [if_neg (hwithin hle), hrole]
    cases hm : m.mode with
    | goHome => exact absurd hm hmode
    | patrol | chase => rfl
  | lost hle hmode hf => rw [if_neg (hwithin hle), hmode, hnobody hf]; rfl
  | calm hle hmode hf => rw [if_neg (hwithin hle), hmode, hnobody hf]; rfl

end

/-! ## Ticks -/

/-- A tick with any distance, and with any way to pursue a target. -/
def tickWith (distance : Tile → Tile → Float)
    (pursue : Mover → Scene → Nat → UInt32 → Tile → Tile → Option Tile × Mover × Scene) (m : Mover) (s : Scene)
    (now : Nat) : Option Tile × Mover × Scene :=
  match s.entity? m.handle with
  | none => (none, m, s)
  | some e =>
    let speed := s.referee.rules.cap e.speed
    if m.isDue speed now then
      match (m.enter (m.modeBy distance s e.pos)).target s e.pos with
      | (some target, m, s) => pursue m s now speed e.pos target
      | (none, m, s) => (none, m, s)
    else (none, m, s)

theorem tick_eq_tickWith (m : Mover) (s : Scene) (now : Nat) :
    m.tick s now = m.tickWith Tile.distance pursue s now := by
  unfold tick tickWith
  cases s.entity? m.handle <;> rfl

theorem mode_pursue (m : Mover) (s : Scene) (now : Nat) (speed : UInt32) (pos target : Tile) :
    (m.pursue s now speed pos target).2.1.mode = m.mode := by
  unfold pursue
  obtain ⟨next, follower⟩ := m.follower.next s.terrain.walkable s.limits (m.rules.algorithm m.mode) pos target
  cases next with
  | none =>
    dsimp only
    split <;> rfl
  | some next =>
    simp only [walk]
    split <;> rfl

/-- A mover changes its mode as it has decided, as long as it does not change it on the way. -/
theorem mode_tickWith {now : Nat} {pursue : Mover → Scene → Nat → UInt32 → Tile → Tile → Option Tile × Mover × Scene}
    (hpursue : ∀ m s now speed pos target, (pursue m s now speed pos target).2.1.mode = m.mode)
    (he : s.entity? m.handle = some e) (hdue : m.isDue (s.referee.rules.cap e.speed) now = true) :
    (m.tickWith distance pursue s now).2.1.mode = m.modeBy distance s e.pos := by
  obtain ⟨patrol, random, htarget⟩ := Scene.target_eq (m.enter (m.modeBy distance s e.pos)) s e.pos
  simp only [tickWith, he, hdue, if_true]
  rcases haim : (m.enter (m.modeBy distance s e.pos)).target s e.pos with ⟨target | target, both⟩
  all_goals
    rw [haim] at htarget
    obtain rfl : both = _ := htarget
  · exact mode_enter m _
  · exact (hpursue _ _ _ _ _ _).trans (mode_enter m _)

/-- What a mover has decided in a tick: its mode is the one that all players in the scene lead to; a player that it
chases is there when its place is looked up; and outside of its reset distance it does nothing but go home. -/
structure Decided (distance : Tile → Tile → Float) (m : Mover) (s : Scene) (e : Entity) (m' : Mover) : Prop where
  mode : ∀ mode, m'.mode = mode ↔ m.Decides distance s e.pos mode
  chased : ∀ role, m'.mode = .chase role →
    role.isRole = true ∧ ∃ f, s.entity? role = some f ∧ ((m.enter (.chase role)).target s e.pos).1 = some f.pos
  within : m'.mode ≠ .goHome → distance e.pos m.home ≤ m.rules.resetDistance.toFloat

theorem decided_of_mode (hdistance : Tile.Measures distance) (hs : s.stage.Coherent size)
    (he : s.entity? m.handle = some e) (hrange : m.rules.detectRange.toNat ≤ 2 * (max size 1).toNat)
    (hmode : m'.mode = m.modeBy distance s e.pos) : m.Decided distance s e m' := by
  have hdecides := decides_modeBy hdistance hs he hrange
  rw [← hmode] at hdecides
  refine ⟨fun mode => ?_, fun role hrole => ?_, fun hgo => ?_⟩
  · rw [hmode]
    exact (decides_iff hdistance hs he hrange).symm
  · rw [hrole] at hdecides
    cases hdecides with
    | chase _ _ hnearest =>
      obtain ⟨f, ⟨-, hisRole, hf, -⟩, -⟩ := hnearest
      refine ⟨hisRole, f, hf, ?_⟩
      rw [target, mode_enter]
      exact congrArg (Option.map (·.pos)) hf
  · generalize m'.mode = mode at hdecides hgo
    cases hdecides with
    | tooFar | onward | lost => exact absurd rfl hgo
    | arrived hle | chase hle | calm hle => exact hle

end Mover

/-- **What movers decide.** In a scene with any history, a mover whose step is due, and which looks no farther than two
cells, decides as if it knew all players in the scene.  This needs no more of the distance than that it is not smaller
than either difference, and nothing of the way in which targets are pursued.  Of the history only the stage matters,
which is the same whether an entity was moved or its report was accepted. -/
theorem mode_tick (setup : SceneSetup) (terrain : Terrain) (feed : PositionFeed) (past : List Scene.Deed) (m : Mover)
    (now : Nat) {s : Scene} {e : Entity} (hstage : s.stage = ((Scene.empty setup terrain feed).after past).stage)
    (hrange : m.rules.detectRange.toNat ≤ 2 * (max setup.cellSize 1).toNat) (he : s.entity? m.handle = some e)
    (hdue : m.isDue (s.referee.rules.cap e.speed) now = true) :
    m.Decided Tile.distance s e (m.tick s now).2.1 ∧
      ∀ (distance : Tile → Tile → Float)
        (pursue : Mover → Scene → Nat → UInt32 → Tile → Tile → Option Tile × Mover × Scene),
        (∀ a b : Tile, (UInt32.ofNat (a.dx b).natAbs).toFloat ≤ distance a b) →
        (∀ a b : Tile, (UInt32.ofNat (a.dy b).natAbs).toFloat ≤ distance a b) →
        (∀ m s now speed pos target, (pursue m s now speed pos target).2.1.mode = m.mode) →
          m.Decided distance s e (m.tickWith distance pursue s now).2.1 := by
  have hs : s.stage.Coherent setup.cellSize := hstage ▸ Scene.coherent_after setup terrain feed past
  refine ⟨?_, fun distance pursue hx hy hpursue => ?_⟩
  · rw [Mover.tick_eq_tickWith]
    exact Mover.decided_of_mode Tile.measures_distance hs he hrange (Mover.mode_tickWith Mover.mode_pursue he hdue)
  · exact Mover.decided_of_mode (Tile.measures_of_le hx hy) hs he hrange (Mover.mode_tickWith hpursue he hdue)

/-- A player next to a bat, in front of one who is as close and joined before; by the distance of the scene and by one
that counts the steps. -/
theorem decides_chase_lowest :
    let bat : Handle := .pack .monster 0 1
    let eve : Handle := .pack .role 0 1
    let ada : Handle := .pack .role 0 2
    let past : List Scene.Deed := [.join (.outside eve "eve" ⟨4, 5⟩ 4), .join (.outside ada "ada" ⟨5, 4⟩ 4),
      .join (.outside bat "bat" ⟨4, 4⟩ 4)]
    let s := (Scene.empty {} ⟨8, 8, .bitmap #[0xFFFFFFFFFFFFFFFF]⟩ .disconnected).after past
    let m := Mover.create bat ⟨4, 4⟩ {}
    m.Decides Tile.distance s ⟨4, 4⟩ (.chase eve) ∧ m.Decides Tile.stepDistance s ⟨4, 4⟩ (.chase eve) := by
  intro bat eve ada past s m
  obtain ⟨hdecided, hwith⟩ := mode_tick {} ⟨8, 8, .bitmap #[0xFFFFFFFFFFFFFFFF]⟩ .disconnected past m 0 (s := s)
    (e := ⟨bat, "bat", ⟨4, 4⟩, 4, some 1⟩) rfl (by decide) (by decide +kernel) (by decide +kernel)
  have hsteps := hwith Tile.stepDistance Mover.pursue (fun a b => Tile.le_stepDistance (Nat.le_max_left _ _))
    (fun a b => Tile.le_stepDistance (Nat.le_max_right _ _)) Mover.mode_pursue
  exact ⟨(hdecided.mode _).mp (by decide +kernel), (hsteps.mode _).mp (by decide +kernel)⟩

end TileRealm
