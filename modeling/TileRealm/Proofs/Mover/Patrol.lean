import TileRealm.Proofs.Mover.Outing
import TileRealm.Proofs.Terrain.Sampling
import TileRealm.Proofs.Tile.Pixel
import TileRealm.Proofs.World.Spawn

/-!
# Where patrols go

- `Mover.draws?`, `Outing.lastDraw`: the sampling that a tick makes to find a place for the patrol, and the latest one;
- `Mover.patrolTarget_tick`: a tick draws where the patrol goes, or it stays with it, or it forgets it;
- `Outing.place_lastDraw`, `Outing.exists_lastDraw_eq`: so a patrol always goes where the latest sampling ended, and
  this was one around the home it was made with;
- `Mover.near_of_mayDraw`: only tiles near home are looked at;
- `Scene.place_sampling`: the place is one of them, or the centre of the map;
- `Sampling.Around`, `Scene.around_sampling`: samplings among the tiles within a radius of home;
- `patrol_near_home`, `patrol_astray`: a patrol stays near home unless there was no tile to stand on.
-/

set_option autoImplicit false

namespace TileRealm

/-! ## What a tick draws -/

namespace Mover

variable {m : Mover} {s : Scene} {now : Nat} {pos p : Tile} {speed : UInt32}

/-- Whether a mover at a place needs a new place to go to on its patrol. -/
def Undirected (m : Mover) (pos : Tile) : Prop :=
  m.mode = .patrol ∧ m.patrolTarget.filter (· ≠ pos) = none

instance (m : Mover) (pos : Tile) : Decidable (m.Undirected pos) :=
  inferInstanceAs (Decidable (_ ∧ _))

/-- The sampling that a tick makes to find where the patrol goes. -/
def draws? (m : Mover) (s : Scene) (now : Nat) : Option Sampling := do
  let e ← s.entity? m.handle
  if m.isDue (s.referee.rules.cap e.speed) now ∧ (m.enter (m.nextMode s e.pos)).Undirected e.pos then
    some (s.sampling (some m.patrolArea))
  else none

theorem patrolArea_enter (m : Mover) (mode : Mode) : (m.enter mode).patrolArea = m.patrolArea := by
  obtain ⟨_, _, -, henter⟩ := m.enter_eq mode
  rw [henter]
  rfl

theorem patrolTarget_enter {mode : Mode} (h : (m.enter mode).patrolTarget = some p) : m.patrolTarget = some p := by
  unfold enter at h
  split at h
  · exact h
  · cases h

theorem patrolTarget_target (h : (m.target s pos).2.1.patrolTarget = some p) :
    m.Undirected pos ∧ (s.sampling (some m.patrolArea)).place = p ∨ ¬m.Undirected pos ∧ m.patrolTarget = some p := by
  unfold target at h
  split at h
  case h_1 hmode | h_2 hmode => exact .inr ⟨fun hm => (by cases hmode.symm.trans hm.1), h⟩
  case h_3 hmode =>
    unfold patrolTo at h
    dsimp only at h
    split at h
    · rename_i hkept
      exact .inr ⟨fun hm => (by cases hkept.symm.trans hm.2), h⟩
    · rename_i hnone
      exact .inl ⟨⟨hmode, hnone⟩, Option.some.inj h⟩

theorem patrolTarget_pursue {target : Tile} (h : (m.pursue s now speed pos target).2.1.patrolTarget = some p) :
    m.patrolTarget = some p := by
  unfold pursue at h
  dsimp only at h
  split at h
  · unfold walk at h
    split at h <;> exact h
  · split at h
    · cases h
    · exact h

/-- A tick draws where the patrol goes, or it stays with it, or it forgets it. -/
theorem patrolTarget_tick (h : (m.tick s now).2.1.patrolTarget = some p) :
    ((m.draws? s now).map Sampling.place).or m.patrolTarget = some p := by
  unfold tick at h
  unfold draws?
  cases he : s.entity? m.handle with
  | none =>
    rw [he] at h
    exact h
  | some e =>
    simp only [he, bind, Option.bind_some] at h ⊢
    split at h
    · rename_i hdue
      have htarget : ((m.enter (m.nextMode s e.pos)).target s e.pos).2.1.patrolTarget = some p := by
        unfold act at h
        dsimp only at h
        split at h
        · rename_i haim
          rw [haim]
          exact patrolTarget_pursue h
        · rename_i haim
          rw [haim]
          exact h
      rcases patrolTarget_target htarget with ⟨hundirected, hplace⟩ | ⟨hdirected, hkept⟩
      · rw [if_pos ⟨hdue, hundirected⟩, Option.map_some, Option.some_or, ← hplace, patrolArea_enter]
      · rw [if_neg fun hboth => hdirected hboth.2, Option.map_none, Option.none_or]
        exact patrolTarget_enter hkept
    · rename_i hearly
      rw [if_neg fun hboth => hearly hboth.1, Option.map_none, Option.none_or]
      exact h

theorem eq_of_draws? {x : Sampling} (h : m.draws? s now = some x) : x = s.sampling (some m.patrolArea) := by
  simp only [draws?, bind, Option.bind_eq_some_iff] at h
  obtain ⟨e, -, h⟩ := h
  split at h
  · exact (Option.some.inj h).symm
  · cases h

end Mover

/-! ## What a run draws -/

/-- A sampling depends on the ground and on the random numbers. -/
theorem Scene.sampling_congr {s s' : Scene} (hterrain : s.terrain = s'.terrain)
    (hattempts : s.spawnAttempts = s'.spawnAttempts) (hrandom : s.random = s'.random) (area : Option Area) :
    s.sampling area = s'.sampling area := by
  simp only [sampling, sample, hterrain, hattempts, hrandom]

namespace Outing

variable {first : Outing} {past : List Turn} {p : Tile} {x : Sampling}

/-- The latest sampling that was made to find where the patrol goes. -/
def lastDraw (o : Outing) : List Turn → Option Sampling
  | [] => none
  | .tick now :: past => ((o.after past).mover.draws? (o.after past).scene now).or (o.lastDraw past)
  | .deed _ :: past => o.lastDraw past

/-- A patrol goes where the latest sampling ended. -/
theorem place_lastDraw (hfirst : first.mover.patrolTarget = none)
    (h : (first.after past).mover.patrolTarget = some p) : (first.lastDraw past).map Sampling.place = some p := by
  induction past generalizing p with
  | nil => cases hfirst.symm.trans h
  | cons turn past ih =>
    cases turn with
    | deed d => exact ih h
    | tick now =>
      have htick := Mover.patrolTarget_tick h
      rw [lastDraw]
      cases hdraws : (first.after past).mover.draws? (first.after past).scene now with
      | some y =>
        rw [hdraws] at htick
        exact htick
      | none =>
        rw [hdraws] at htick
        exact ih htick

theorem spawnAttempts_after (first : Outing) (past : List Turn) :
    (first.after past).scene.spawnAttempts = first.scene.spawnAttempts := by
  induction past with
  | nil => rfl
  | cons turn past ih =>
    cases turn with
    | tick now => exact ((first.after past).scene.rest_perform (.drive (first.after past).mover now)).limits.2.trans ih
    | deed d => exact ((first.after past).scene.rest_perform d).limits.2.trans ih

/-- Every sampling is one of the first scene, around the same home, with the random numbers of its time. -/
theorem exists_lastDraw_eq (hlast : first.mover.lastStep = none)
    (hready : first.mover.follower.Ready first.scene.terrain.walkable) (h : first.lastDraw past = some x) :
    ∃ random, x = ({ first.scene with random := random } : Scene).sampling (some first.mover.patrolArea) := by
  induction past with
  | nil => cases h
  | cons turn past ih =>
    cases turn with
    | deed d => exact ih h
    | tick now =>
      rcases Option.or_eq_some_iff.mp h with hdraws | ⟨-, hbefore⟩
      · have hkept := kept_after hlast hready past
        have harea : (first.after past).mover.patrolArea = first.mover.patrolArea := by
          simp only [Mover.patrolArea, hkept.home, hkept.rules]
        refine ⟨(first.after past).scene.random, ?_⟩
        rw [Mover.eq_of_draws? hdraws, harea]
        exact @Scene.sampling_congr _ { first.scene with random := (first.after past).scene.random } hkept.terrain
          (spawnAttempts_after first past) rfl _
      · exact ih hbefore

end Outing

/-! ## Near home -/

namespace Terrain

variable {t : Terrain} {p : Tile} {size c r n : UInt32}

theorem Inside.sides_pos (h : t.Inside p) : 0 < t.width ∧ 0 < t.height := by
  obtain ⟨hx, hy⟩ := h
  simp only [UInt32.lt_iff_toNat_lt] at hx hy ⊢
  exact ⟨Nat.zero_lt_of_lt hx, Nat.zero_lt_of_lt hy⟩

section

variable (hr : r.toNat + 1 < 2 ^ 32)

include hr

/-- The span around a line, which ends at the edges of the plane. -/
theorem toNat_around (c : UInt32) : (c - min c r).toNat = c.toNat - min c.toNat r.toNat ∧
    (saturate (c.toNat + (r + 1).toNat)).toNat = min (c.toNat + (r.toNat + 1)) (2 ^ 32 - 1) := by
  constructor
  · rw [UInt32.toNat_sub_of_le _ _ (by rw [UInt32.le_iff_toNat_le, toNat_min]; omega), toNat_min]
  · rw [toNat_saturate, UInt32.toNat_add, UInt32.toNat_one, Nat.mod_eq_of_lt hr]
    rfl

theorem around_nonempty (hc : c < size) : c - min c r < saturate (c.toNat + (r + 1).toNat) := by
  obtain ⟨hlow, hhigh⟩ := toNat_around hr c
  have hsize := size.toNat_lt
  rw [UInt32.lt_iff_toNat_lt] at hc ⊢
  omega

/-- Around a line of the terrain only lines near it may be drawn. -/
theorem near_of_onSpan (hc : c < size) (hn : OnSpan size (c - min c r) (saturate (c.toNat + (r + 1).toNat)) n) :
    ((n.toNat : Int) - c.toNat).natAbs ≤ r.toNat := by
  obtain ⟨hlow, hhigh⟩ := toNat_around hr c
  rw [UInt32.lt_iff_toNat_lt] at hc
  unfold OnSpan at hn
  rw [if_pos (by rw [UInt32.lt_iff_toNat_lt]; omega)] at hn
  simp only [UInt32.le_iff_toNat_le, UInt32.lt_iff_toNat_lt] at hn
  omega

end

end Terrain

/-- Around a home in the terrain, only tiles within the radius are drawn. -/
theorem Mover.near_of_mayDraw (m : Mover) {t : Terrain} {p : Tile} (hhome : t.Inside m.home)
    (h : t.MayDraw (some m.patrolArea) p) : m.home.steps p ≤ m.rules.patrolRadius.toNat := by
  rcases Nat.lt_or_ge (m.rules.patrolRadius.toNat + 1) (2 ^ 32) with hr | hlargest
  · have hvalid : m.patrolArea.isValid = true :=
      decide_eq_true ⟨Terrain.around_nonempty hr hhome.1, Terrain.around_nonempty hr hhome.2⟩
    rw [Terrain.MayDraw, Option.filter_some_pos hvalid] at h
    exact Nat.max_le.mpr ⟨Terrain.near_of_onSpan hr hhome.1 h.1, Terrain.near_of_onSpan hr hhome.2 h.2⟩
  · -- no tile is farther away than the largest radius, wherever the area ends
    have := m.home.steps_lt p
    omega

theorem Scene.mayDraw_of_mem_proposals (s : Scene) {area : Option Area} {p q : Tile} (hinside : s.terrain.Inside q)
    (hp : p ∈ (s.sampling area).proposals) : s.terrain.MayDraw area p := by
  rw [sampling, Terrain.proposals_eq] at hp
  obtain ⟨hwidth, hheight⟩ := hinside.sides_pos
  exact Terrain.mayDraw_of_mem_draws hwidth hheight hp

/-- A sampling ends at a tile that it has looked at and that can be walked on, or all attempts were in vain. -/
theorem Scene.place_sampling (s : Scene) (area : Option Area) :
    (s.sampling area).place ∈ (s.sampling area).proposals ∧ s.terrain.walkable (s.sampling area).place = true ∨
      (s.sampling area).Missed s.terrain s.spawnAttempts.toNat := by
  have hplace : (s.sampling area).place =
      ((s.sampling area).proposals.find? s.terrain.walkable).getD s.terrain.centre := by
    rw [sampling, sample, Terrain.sample, Terrain.sampleIn_eq]
  cases hfind : (s.sampling area).proposals.find? s.terrain.walkable with
  | some q =>
    rw [hfind, Option.getD_some] at hplace
    rw [hplace]
    exact .inl ⟨List.mem_of_find?_eq_some hfind, List.find?_some hfind⟩
  | none =>
    refine .inr ((s.fair_sampling area).missed fun p hp => ?_)
    exact Bool.not_eq_true _ ▸ List.find?_eq_none.mp hfind p hp

/-! ## Samplings around a home -/

namespace Sampling

/-- A sampling among the tiles within a radius of home. -/
structure Around (t : Terrain) (home : Tile) (radius attempts : Nat) (x : Sampling) : Prop where
  near : ∀ p ∈ x.proposals, t.Inside p ∧ home.steps p ≤ radius
  ends : x.place ∈ x.proposals ∧ t.walkable x.place = true ∨ x.Missed t attempts

namespace Around

variable {t : Terrain} {home : Tile} {radius attempts : Nat} {x : Sampling}

theorem inside_place (hx : x.Around t home radius attempts) (hhome : t.Inside home) : t.Inside x.place := by
  rcases hx.ends with ⟨hmem, -⟩ | hmissed
  · exact (hx.near _ hmem).1
  · obtain ⟨hwidth, hheight⟩ := hhome.sides_pos
    rw [hmissed.place]
    exact Terrain.inside_centre hwidth hheight

/-- The place is within the radius if there was a tile to stand on, and otherwise if the centre of the map is. -/
theorem near_place_iff (hx : x.Around t home radius attempts) :
    home.steps x.place ≤ radius ↔ (∃ p ∈ x.proposals, t.walkable p = true) ∨ home.steps t.centre ≤ radius := by
  rcases hx.ends with ⟨hmem, hwalk⟩ | hmissed
  · exact iff_of_true (hx.near _ hmem).2 (.inl ⟨_, hmem, hwalk⟩)
  · have hnone : ¬∃ p ∈ x.proposals, t.walkable p = true := by
      rintro ⟨p, hp, hwalk⟩
      rw [hmissed.blocked p hp] at hwalk
      cases hwalk
    rw [or_iff_right hnone, hmissed.place]

/-- On open ground the first tile is taken. -/
theorem near_of_open (hx : x.Around t home radius attempts) (hattempts : 0 < attempts)
    (hopen : ∀ p, t.Inside p → home.steps p ≤ radius → t.walkable p = true) : home.steps x.place ≤ radius := by
  rcases hx.ends with ⟨hmem, -⟩ | hmissed
  · exact (hx.near _ hmem).2
  · obtain ⟨p, hp⟩ := List.exists_mem_of_length_pos (hmissed.spent ▸ hattempts)
    have hblocked := hmissed.blocked p hp
    rw [hopen p (hx.near p hp).1 (hx.near p hp).2] at hblocked
    cases hblocked

end Around

end Sampling

theorem Scene.around_sampling (s : Scene) (m : Mover) (hhome : s.terrain.Inside m.home) :
    (s.sampling (some m.patrolArea)).Around s.terrain m.home m.rules.patrolRadius.toNat s.spawnAttempts.toNat where
  near p hp := by
    have hmay := s.mayDraw_of_mem_proposals hhome hp
    exact ⟨Terrain.inside_of_mayDraw hmay, m.near_of_mayDraw hhome hmay⟩
  ends := s.place_sampling _

/-- **Patrols near home.** A new mover with a home in the terrain is sent out in any scene, and others do to the scene
what they like.  Wherever its patrol goes, it goes to a tile of the terrain, where the latest sampling ended.  Only
tiles within the radius of home are looked at, and the one that can be walked on is taken; so the patrol stays within
the radius, unless all attempts were in vain.  Then it goes to the centre of the map, wherever that is.  On open ground
around home no attempt is in vain. -/
theorem patrol_near_home (handle : Handle) (home : Tile) (rules : MoverRules) (s : Scene) (past : List Turn)
    {target : Tile} (hhome : s.terrain.Inside home)
    (htarget : ((⟨.create handle home rules, s⟩ : Outing).after past).mover.patrolTarget = some target) :
    s.terrain.Inside target ∧
      ∃ x, (⟨.create handle home rules, s⟩ : Outing).lastDraw past = some x ∧ x.place = target ∧
        (∀ p ∈ x.proposals, s.terrain.Inside p ∧ home.steps p ≤ rules.patrolRadius.toNat) ∧
        (target ∈ x.proposals ∧ s.terrain.walkable target = true ∨ x.Missed s.terrain s.spawnAttempts.toNat) ∧
        (home.steps target ≤ rules.patrolRadius.toNat ↔
          (∃ p ∈ x.proposals, s.terrain.walkable p = true) ∨
            home.steps s.terrain.centre ≤ rules.patrolRadius.toNat) ∧
        (0 < s.spawnAttempts →
          (∀ p, s.terrain.Inside p → home.steps p ≤ rules.patrolRadius.toNat → s.terrain.walkable p = true) →
            home.steps target ≤ rules.patrolRadius.toNat) := by
  have hplace := Outing.place_lastDraw rfl htarget
  obtain ⟨x, hx, rfl⟩ := Option.map_eq_some_iff.mp hplace
  have hready : (Follower.fresh rules.replanThreshold).Ready s.terrain.walkable := nofun
  obtain ⟨random, heq⟩ : ∃ random, x =
      ({ s with random := random } : Scene).sampling (some (Mover.create handle home rules).patrolArea) :=
    Outing.exists_lastDraw_eq rfl hready hx
  have haround : x.Around s.terrain home rules.patrolRadius.toNat s.spawnAttempts.toNat := by
    rw [heq]
    exact ({ s with random := random } : Scene).around_sampling (.create handle home rules) hhome
  exact ⟨haround.inside_place hhome, x, hx, rfl, haround.near, haround.ends, haround.near_place_iff,
    fun hattempts => haround.near_of_open (UInt32.lt_iff_toNat_lt.mp hattempts)⟩

/-- On open ground a bat goes to a tile near its home, as one that can be walked on was looked at. -/
theorem patrol_near_home_open :
    let bat := Handle.pack .monster 0 2
    let s := (Scene.empty {} ⟨8, 1, .dense (Array.replicate 8 true)⟩ .disconnected).after
      [.join (.outside bat "bat" ⟨0, 0⟩ 4)]
    let o : Outing := ⟨.create bat ⟨0, 0⟩ { patrolRadius := 2 }, s⟩
    (o.after [.tick 0]).mover.patrolTarget = some ⟨2, 0⟩ ∧
      ∃ x, o.lastDraw [.tick 0] = some x ∧ ∃ p ∈ x.proposals, s.terrain.walkable p = true := by
  intro bat s o
  have htarget : (o.after [.tick 0]).mover.patrolTarget = some ⟨2, 0⟩ := by decide +kernel
  obtain ⟨-, x, hx, -, -, -, hnear, -⟩ :=
    patrol_near_home bat ⟨0, 0⟩ { patrolRadius := 2 } s [.tick 0] (by decide +kernel) htarget
  exact ⟨htarget, x, hx, (hnear.mp (by decide)).resolve_right (by decide)⟩

/-- A bat whose home cannot be walked on, and which should not leave it, is sent to the centre of the map. -/
theorem patrol_astray :
    let bat := Handle.pack .monster 0 2
    let s := (Scene.empty {} ⟨8, 1, .dense #[false, true, true, true, true, true, true, true]⟩ .disconnected).after
      [.join (.outside bat "bat" ⟨0, 0⟩ 4)]
    let o := (⟨.create bat ⟨0, 0⟩ { patrolRadius := 0 }, s⟩ : Outing).after [.tick 0]
    s.terrain.Inside ⟨0, 0⟩ ∧ o.mover.mode = .patrol ∧ o.mover.patrolTarget = some ⟨4, 0⟩ ∧
      ¬Tile.steps ⟨0, 0⟩ ⟨4, 0⟩ ≤ 0 := by
  decide +kernel

end TileRealm
