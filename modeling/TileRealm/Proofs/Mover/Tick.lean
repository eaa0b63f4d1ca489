import TileRealm.Proofs.Route.Follower
import TileRealm.Proofs.Scene.Registry

/-!
# One tick of a mover

- `Mover.aim`, `Mover.advice`, `Mover.proposal`: where a mover wants to go, and the tile that its follower proposes;
- `Mover.Acts`, `Mover.acts_act`: all that a mover can do when it is due, with the reasons for it;
- `Mover.Ticks`, `Mover.ticks_tick`: all that a tick can do;
- `Mover.Acts.ready`, `Mover.Ticks.ready`: the follower stays on tiles that can be walked on;
- `Mover.Heir`, `Mover.heir_tick`: what a mover keeps and what it remembers.
-/

set_option autoImplicit false

namespace TileRealm

namespace Scene

variable {s : Scene} {h : Handle} {e : Entity} {pos : Tile}

theorem place?_strode (speed : UInt32) : (s.strode e h pos speed).place? h = some pos := by
  simp [place?, entity?, strode, shifted]

end Scene

namespace Mover

variable {m m' : Mover} {s s' : Scene} {now : Nat} {e : Entity} {answer : Option Tile}

/-! ## What is asked of the follower -/

theorem enter_eq (m : Mover) (mode : Mode) : ∃ follower patrol, (follower = m.follower ∨ follower = m.follower.clear) ∧
    m.enter mode = { m with mode := mode, follower := follower, patrolTarget := patrol } := by
  unfold enter
  split
  · rename_i hmode
    subst hmode
    exact ⟨m.follower, m.patrolTarget, .inl rfl, rfl⟩
  · exact ⟨m.follower.clear, none, .inr rfl, rfl⟩

theorem mode_enter (m : Mover) (mode : Mode) : (m.enter mode).mode = mode := by
  obtain ⟨_, _, -, henter⟩ := m.enter_eq mode
  rw [henter]

/-- Where a mover wants to go. -/
def aim (m : Mover) (s : Scene) (pos : Tile) : Option Tile :=
  ((m.enter (m.nextMode s pos)).target s pos).1

theorem aim_of_goHome {pos : Tile} (hmode : m.nextMode s pos = .goHome) : m.aim s pos = some m.home := by
  obtain ⟨_, _, -, henter⟩ := m.enter_eq .goHome
  rw [aim, hmode, henter, target]

/-- What the follower of a mover answers. -/
def advice (m : Mover) (s : Scene) (pos target : Tile) : Option Tile × Follower :=
  (m.enter (m.nextMode s pos)).follower.next s.terrain.walkable s.limits (m.rules.algorithm (m.nextMode s pos)) pos
    target

/-- The tile that the follower of a mover proposes when a step is due. -/
def proposal (m : Mover) (s : Scene) (now : Nat) : Option Tile := do
  let e ← s.entity? m.handle
  if m.isDue (s.referee.rules.cap e.speed) now then
    let target ← m.aim s e.pos
    (m.advice s e.pos target).1
  else none

/-! ## What a mover does -/

/-- All that a mover can do with its entity when a step is due, with the reasons for it. -/
inductive Acts (m : Mover) (s : Scene) (now : Nat) (e : Entity) : Option Tile → Mover → Scene → Prop
  /-- There is nowhere to go. -/
  | aimless {patrol : Option Tile} {random : Random.Stream} : m.aim s e.pos = none →
      Acts m s now e none { m.enter (m.nextMode s e.pos) with patrolTarget := patrol } { s with random := random }
  /-- The follower proposes nothing. -/
  | rest {target : Tile} {f g : Follower} {patrol : Option Tile} {random : Random.Stream} :
      m.aim s e.pos = some target → m.advice s e.pos target = (none, f) → g = f ∨ g = f.clear →
      Acts m s now e none { m.enter (m.nextMode s e.pos) with follower := g, patrolTarget := patrol }
        { s with random := random }
  /-- The scene refuses the tile that is proposed. -/
  | refused {target next : Tile} {f : Follower} {patrol : Option Tile} {random : Random.Stream} :
      m.aim s e.pos = some target → m.advice s e.pos target = (some next, f) → s.terrain.walkable next = false →
      Acts m s now e none { m.enter (m.nextMode s e.pos) with follower := f.clear, patrolTarget := patrol }
        { s with random := random }
  | step {target next : Tile} {f : Follower} {patrol : Option Tile} {random : Random.Stream} :
      m.aim s e.pos = some target → m.advice s e.pos target = (some next, f) → s.terrain.walkable next = true →
      Acts m s now e (some next)
        { m.enter (m.nextMode s e.pos) with follower := f, patrolTarget := patrol, lastStep := some now }
        (({ s with random := random } : Scene).strode e m.handle next (s.referee.rules.cap e.speed))

theorem acts_act (he : s.entity? m.handle = some e) (now : Nat) :
    Acts m s now e (m.act s now (s.referee.rules.cap e.speed) e.pos).1
      (m.act s now (s.referee.rules.cap e.speed) e.pos).2.1
      (m.act s now (s.referee.rules.cap e.speed) e.pos).2.2 := by
  obtain ⟨hhandle, hrules, hmode⟩ : (m.enter (m.nextMode s e.pos)).handle = m.handle ∧
      (m.enter (m.nextMode s e.pos)).rules = m.rules ∧ (m.enter (m.nextMode s e.pos)).mode = m.nextMode s e.pos := by
    obtain ⟨_, _, -, henter⟩ := m.enter_eq (m.nextMode s e.pos)
    rw [henter]
    exact ⟨rfl, rfl, rfl⟩
  obtain ⟨patrol, random, htarget⟩ := Scene.target_eq (m.enter (m.nextMode s e.pos)) s e.pos
  rcases haim : (m.enter (m.nextMode s e.pos)).target s e.pos with ⟨aim, both⟩
  rw [haim] at htarget
  obtain rfl : both = _ := htarget
  unfold act
  simp only [haim]
  have haim : m.aim s e.pos = aim := congrArg Prod.fst haim
  cases aim with
  | none => exact .aimless haim
  | some target =>
    have hadvice : (m.enter (m.nextMode s e.pos)).follower.next s.terrain.walkable s.limits
        ((m.enter (m.nextMode s e.pos)).rules.algorithm (m.enter (m.nextMode s e.pos)).mode) e.pos target =
          m.advice s e.pos target := by
      rw [hrules, hmode, advice]
    have hplain : ({ s with random := random } : Scene).terrain = s.terrain := rfl
    simp only [pursue, hplain, hadvice]
    rcases hcall : m.advice s e.pos target with ⟨_ | next, f⟩
    · dsimp only
      split
      · exact .rest haim hcall (.inr rfl)
      · exact .rest haim hcall (.inl rfl)
    · have hsame : ({ s with random := random } : Scene).step (m.enter (m.nextMode s e.pos)).handle next
          (s.referee.rules.cap e.speed) =
            ({ s with random := random } : Scene).step m.handle next (s.referee.rules.cap e.speed) := by
        rw [hhandle]
      rcases ({ s with random := random } : Scene).step_cases m.handle next (s.referee.rules.cap e.speed) with
        ⟨e', he', hwalk, hstep⟩ | ⟨reason, hreason, hstep⟩ <;> rw [← hsame] at hstep
      · obtain rfl : e = e' := Option.some.inj (he.symm.trans he')
        simp only [walk, hstep]
        exact .step haim hcall hwalk
      · -- the entity is there, so it is the tile that the scene refuses
        have hwalk : s.terrain.walkable next = false :=
          Bool.eq_false_iff.mpr fun hwalk => Scene.not_immovable (s := { s with random := random }) he hwalk hreason
        simp only [walk, hstep]
        exact .refused haim hcall hwalk

namespace Acts

variable {target next : Tile} {f : Follower}

/-- A tile that is proposed and can be walked on is stepped to. -/
theorem of_proposed (h : Acts m s now e answer m' s') (haim : m.aim s e.pos = some target)
    (hadvice : m.advice s e.pos target = (some next, f)) (hwalk : s.terrain.walkable next = true) :
    answer = some next ∧ ∃ patrol random, m' = { m.enter (m.nextMode s e.pos) with
        follower := f, patrolTarget := patrol, lastStep := some now } ∧
      s' = ({ s with random := random } : Scene).strode e m.handle next (s.referee.rules.cap e.speed) := by
  cases h with
  | aimless haim' => simp [haim] at haim'
  | rest haim' hadvice' =>
    obtain rfl := Option.some.inj (haim.symm.trans haim')
    simp [hadvice] at hadvice'
  | refused haim' hadvice' hwalk' =>
    obtain rfl := Option.some.inj (haim.symm.trans haim')
    obtain ⟨⟨⟩, -⟩ := Prod.mk.inj (hadvice.symm.trans hadvice')
    simp [hwalk] at hwalk'
  | step haim' hadvice' =>
    obtain rfl := Option.some.inj (haim.symm.trans haim')
    obtain ⟨⟨⟩, rfl⟩ := Prod.mk.inj (hadvice.symm.trans hadvice')
    exact ⟨rfl, _, _, rfl, rfl⟩

/-- Where nothing is proposed, the entity stays. -/
theorem of_silent (h : Acts m s now e answer m' s') (haim : m.aim s e.pos = some target)
    (hadvice : m.advice s e.pos target = (none, f)) :
    answer = none ∧ ∃ g patrol random, (g = f ∨ g = f.clear) ∧
      m' = { m.enter (m.nextMode s e.pos) with follower := g, patrolTarget := patrol } ∧
      s' = { s with random := random } := by
  cases h with
  | aimless haim' => simp [haim] at haim'
  | rest haim' hadvice' hg =>
    obtain rfl := Option.some.inj (haim.symm.trans haim')
    obtain ⟨-, rfl⟩ := Prod.mk.inj (hadvice.symm.trans hadvice')
    exact ⟨rfl, _, _, _, hg, rfl, rfl⟩
  | refused haim' hadvice' | step haim' hadvice' =>
    obtain rfl := Option.some.inj (haim.symm.trans haim')
    simp [hadvice] at hadvice'

end Acts

theorem tick_of_due (he : s.entity? m.handle = some e) (hdue : m.isDue (s.referee.rules.cap e.speed) now = true) :
    m.tick s now = m.act s now (s.referee.rules.cap e.speed) e.pos := by
  simp only [tick, he, hdue, if_true]

/-- All that a tick can do. -/
inductive Ticks (m : Mover) (s : Scene) (now : Nat) : Option Tile → Mover → Scene → Prop
  | absent : s.entity? m.handle = none → Ticks m s now none m s
  | early {e : Entity} : s.entity? m.handle = some e → m.isDue (s.referee.rules.cap e.speed) now = false →
      Ticks m s now none m s
  | due {e : Entity} {answer : Option Tile} {m' : Mover} {s' : Scene} : s.entity? m.handle = some e →
      m.isDue (s.referee.rules.cap e.speed) now = true → Acts m s now e answer m' s' → Ticks m s now answer m' s'

theorem ticks_tick (m : Mover) (s : Scene) (now : Nat) :
    Ticks m s now (m.tick s now).1 (m.tick s now).2.1 (m.tick s now).2.2 := by
  unfold tick
  cases he : s.entity? m.handle with
  | none => exact .absent he
  | some e =>
    dsimp only
    cases hdue : m.isDue (s.referee.rules.cap e.speed) now with
    | false => exact .early he hdue
    | true => exact .due he hdue (acts_act he now)

/-! ## What a mover keeps -/

theorem ready_enter {walk : Tile → Bool} (hm : m.follower.Ready walk) (mode : Mode) :
    (m.enter mode).follower.Ready walk := by
  obtain ⟨follower, _, hfollower, henter⟩ := m.enter_eq mode
  rw [henter]
  rcases hfollower with rfl | rfl
  · exact hm
  · exact Follower.ready_clear walk m.follower

/-- The tile that is proposed is a neighbour that can be walked on. -/
theorem advice_spec (hm : m.follower.Ready s.terrain.walkable) (pos target : Tile) :
    (m.advice s pos target).2.Ready s.terrain.walkable ∧ ∀ next, (m.advice s pos target).1 = some next →
      pos.adjacent next = true ∧ s.terrain.walkable next = true :=
  Follower.next_spec (ready_enter hm _) s.limits _ pos target

theorem Acts.ready (h : Acts m s now e answer m' s') (hm : m.follower.Ready s.terrain.walkable) :
    m'.follower.Ready s.terrain.walkable := by
  cases h with
  | aimless => exact ready_enter hm _
  | @rest target f g _ _ _ hcall hg =>
    have hf := (advice_spec hm e.pos target).1
    rw [hcall] at hf
    rcases hg with rfl | rfl
    · exact hf
    · exact Follower.ready_clear _ f
  | @refused _ _ f => exact Follower.ready_clear _ f
  | @step target _ _ _ _ _ hcall =>
    have hf := (advice_spec hm e.pos target).1
    rwa [hcall] at hf

/-- The follower stays on tiles that can be walked on. -/
theorem Ticks.ready (h : Ticks m s now answer m' s') (hm : m.follower.Ready s.terrain.walkable) :
    m'.follower.Ready s.terrain.walkable := by
  cases h with
  | absent => exact hm
  | early => exact hm
  | due _ _ hacts => exact hacts.ready hm

/-- A mover changes its mode as it has decided. -/
theorem Acts.mode (h : Acts m s now e answer m' s') : m'.mode = m.nextMode s e.pos := by
  cases h <;> exact mode_enter m _

/-- A mover keeps what it was made with and remembers the time of its step. -/
structure Heir (now : Nat) (m : Mover) (answer : Option Tile) (m' : Mover) : Prop where
  handle : m'.handle = m.handle
  home : m'.home = m.home
  rules : m'.rules = m.rules
  lastStep : m'.lastStep = if answer.isSome then some now else m.lastStep

theorem Acts.heir (h : Acts m s now e answer m' s') : Heir now m answer m' := by
  obtain ⟨_, _, -, henter⟩ := m.enter_eq (m.nextMode s e.pos)
  cases h <;> rw [henter] <;> exact ⟨rfl, rfl, rfl, rfl⟩

theorem heir_tick (m : Mover) (s : Scene) (now : Nat) : Heir now m (m.tick s now).1 (m.tick s now).2.1 := by
  have h := m.ticks_tick s now
  generalize (m.tick s now).1 = answer at h ⊢
  generalize (m.tick s now).2.1 = m' at h ⊢
  generalize (m.tick s now).2.2 = s' at h
  cases h with
  | absent => exact ⟨rfl, rfl, rfl, rfl⟩
  | early => exact ⟨rfl, rfl, rfl, rfl⟩
  | due _ _ hacts => exact hacts.heir

end Mover

end TileRealm
