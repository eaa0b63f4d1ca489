import TileRealm.Proofs.Mover.Tick

/-!
# Outings

A mover and its scene, in which others do what they like between its ticks.

- `Turn`, `Outing`, `Outing.after`: what can happen, and the state after a history of turns, the latest first;
- `Outing.lastStride`: the time of the latest step;
- `Outing.Kept`, `Kept.deed`, `Kept.tick`, `kept_after`: what each turn keeps, and so every history;
- `Mover.Outcome`, `outcome_after`: a tick changes nothing, or it makes the one step that the follower proposes.
-/

set_option autoImplicit false

namespace TileRealm

/-- A tick of the mover, or what anybody else does to the scene. -/
inductive Turn where
  | tick (now : Nat)
  | deed (d : Scene.Deed)

/-- A mover and its scene. -/
structure Outing where
  mover : Mover
  scene : Scene

namespace Outing

/-- What a turn makes of an outing. -/
def perform (o : Outing) : Turn → Outing
  | .tick now =>
    let (_, mover, scene) := o.mover.tick o.scene now
    ⟨mover, scene⟩
  | .deed d => { o with scene := o.scene.perform d }

/-- The outing after a history of turns, the latest first. -/
def after (o : Outing) : List Turn → Outing
  | [] => o
  | turn :: past => (o.after past).perform turn

/-- The time of the latest step that the mover made. -/
def lastStride (o : Outing) : List Turn → Option Nat
  | [] => none
  | .tick now :: past =>
    if ((o.after past).mover.tick (o.after past).scene now).1.isSome then some now else o.lastStride past
  | .deed _ :: past => o.lastStride past

/-! ## What turns keep -/

variable {first o : Outing} {last : Option Nat}

/-- What a mover and the ground keep in every turn; the last step was made at the given time. -/
structure Kept (first : Outing) (last : Option Nat) (o : Outing) : Prop where
  handle : o.mover.handle = first.mover.handle
  home : o.mover.home = first.mover.home
  rules : o.mover.rules = first.mover.rules
  lastStep : o.mover.lastStep = last
  terrain : o.scene.terrain = first.scene.terrain
  ready : o.mover.follower.Ready first.scene.terrain.walkable

theorem Kept.deed (h : Kept first last o) (d : Scene.Deed) : Kept first last (o.perform (.deed d)) :=
  { h with terrain := (o.scene.ground_perform d).2.trans h.terrain }

theorem Kept.tick (h : Kept first last o) (now : Nat) :
    Kept first (if (o.mover.tick o.scene now).1.isSome then some now else last) (o.perform (.tick now)) := by
  have hheir := o.mover.heir_tick o.scene now
  have hready := (o.mover.ticks_tick o.scene now).ready (h.terrain ▸ h.ready)
  exact
    { handle := hheir.handle.trans h.handle
      home := hheir.home.trans h.home
      rules := hheir.rules.trans h.rules
      lastStep := h.lastStep ▸ hheir.lastStep
      terrain := (o.scene.ground_perform (.drive o.mover now)).2.trans h.terrain
      ready := h.terrain ▸ hready }

theorem kept_after (hlast : first.mover.lastStep = none)
    (hready : first.mover.follower.Ready first.scene.terrain.walkable) (past : List Turn) :
    Kept first (first.lastStride past) (first.after past) := by
  induction past with
  | nil => exact ⟨rfl, rfl, rfl, hlast, rfl, hready⟩
  | cons turn past ih =>
    cases turn with
    | tick now => exact ih.tick now
    | deed d => exact ih.deed d

end Outing

/-! ## What is seen of a tick -/

namespace Mover

variable {m m' : Mover} {s s' : Scene} {now : Nat} {e : Entity} {answer : Option Tile}

/-- What is seen of a tick: nothing, or one step to a walkable neighbour that everybody is told of, and not before its
time. -/
inductive Outcome (s : Scene) (h : Handle) (last : Option Nat) (now : Nat) : Option Tile → Scene → Prop
  /-- Random numbers may be drawn. -/
  | rest {random : Random.Stream} : Outcome s h last now none { s with random := random }
  | step {e : Entity} {next : Tile} {random : Random.Stream} : s.entity? h = some e → e.pos.steps next = 1 →
      s.terrain.walkable next = true →
      (∀ time, last = some time → interval (s.referee.rules.cap e.speed) ≤ now - time) →
      Outcome s h last now (some next)
        (({ s with random := random } : Scene).strode e h next (s.referee.rules.cap e.speed))

theorem isDue_iff {speed : UInt32} :
    m.isDue speed now = true ↔ ∀ time, m.lastStep = some time → interval speed ≤ now - time := by
  unfold isDue
  cases m.lastStep with
  | none => simp
  | some last => simp

theorem Ticks.outcome (h : Ticks m s now answer m' s') (hready : m.follower.Ready s.terrain.walkable) :
    Outcome s m.handle m.lastStep now answer s' ∧ answer = m.proposal s now := by
  cases h with
  | absent he => exact ⟨.rest, by simp [proposal, he]⟩
  | early he hearly => exact ⟨.rest, by simp [proposal, he, hearly]⟩
  | @due e _ _ _ he hdue hacts =>
    have hproposal : m.proposal s now = (m.aim s e.pos).bind fun target => (m.advice s e.pos target).1 := by
      simp only [proposal, he, hdue, bind, Option.bind_some, if_true]
    rw [hproposal]
    cases hacts with
    | aimless haim => exact ⟨.rest, by rw [haim, Option.bind_none]⟩
    | rest haim hcall => exact ⟨.rest, by rw [haim, Option.bind_some, hcall]⟩
    | @refused target next f _ _ haim hcall hwalk =>
      -- the follower proposes no tile that is refused
      have hnext := ((advice_spec hready e.pos target).2 next (congrArg Prod.fst hcall)).2
      rw [hwalk] at hnext
      cases hnext
    | @step target next f _ _ haim hcall hwalk =>
      have hadjacent := ((advice_spec hready e.pos target).2 next (congrArg Prod.fst hcall)).1
      exact ⟨.step he (Tile.adjacent_iff.mp hadjacent) hwalk (isDue_iff.mp hdue), by rw [haim, Option.bind_some, hcall]⟩

end Mover

/-- **What movers do.** A new mover is sent out in any scene, and others do to the scene what they like.  Then every
tick leaves the scene as it is but for random numbers, or it makes one step to a walkable neighbour, which everybody is
told of, and only when enough time has passed since its step before.  No step that is proposed is ever refused, and
nothing happens while the entity is not there. -/
theorem outcome_after (handle : Handle) (home : Tile) (rules : MoverRules) (s : Scene) (past : List Turn) (now : Nat) :
    let first : Outing := ⟨.create handle home rules, s⟩
    let o := first.after past
    Mover.Outcome o.scene handle (first.lastStride past) now (o.mover.tick o.scene now).1
        (o.mover.tick o.scene now).2.2 ∧
      (o.mover.tick o.scene now).1 = o.mover.proposal o.scene now ∧
      (o.scene.entity? handle = none → o.mover.tick o.scene now = (none, o.mover, o.scene)) := by
  intro first o
  have hready : first.mover.follower.Ready first.scene.terrain.walkable := nofun
  have hkept : Outing.Kept first (first.lastStride past) o := Outing.kept_after rfl hready past
  have hhandle : o.mover.handle = handle := hkept.handle
  obtain ⟨houtcome, hproposal⟩ := (o.mover.ticks_tick o.scene now).outcome (hkept.terrain ▸ hkept.ready)
  rw [hhandle, hkept.lastStep] at houtcome
  refine ⟨houtcome, hproposal, fun habsent => ?_⟩
  rw [Mover.tick, hhandle, habsent]

end TileRealm
