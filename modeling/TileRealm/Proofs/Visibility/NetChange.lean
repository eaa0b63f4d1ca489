import TileRealm.Proofs.Visibility.Owed

/-!
# Reports of net changes

Calls come in any order, removals with or without a refresh of those that the removed entity saw.  What an entity is
told next depends on what it saw when it was told last and on what it sees now, and not on the way between.

- `Call`, `after`: the calls, and the state after a history of them, the latest call first;
- `lastTold`: what an entity saw when it was last told of its changes;
- `owes_lastTold`: the invariant of all histories;
- `report_eq_difference`: reports are the differences of the two end points.
-/

set_option autoImplicit false

namespace TileRealm.Visibility

variable {size : UInt32} {h : Handle}

/-! ## Histories -/

/-- What can be asked of a visibility. -/
inductive Call where
  | add (h : Handle) (pos : Tile)
  | move (h : Handle) (pos : Tile)
  | remove (h : Handle)
  | refresh (h : Handle)
  | consume (h : Handle)
  | drain

/-- What a call does. -/
def perform (v : Visibility) : Call → Visibility
  | .add h pos => v.add h pos
  | .move h pos => v.move h pos
  | .remove h => (v.remove h).2
  | .refresh h => v.refresh h
  | .consume h => (v.consume h).2
  | .drain => v.drain.2

/-- The state after a history of calls, the latest first. -/
def after (size : UInt32) : List Call → Visibility
  | [] => .empty size
  | call :: past => (after size past).perform call

/-- What an entity saw when it was last told of its changes; nothing if it was not told since it came. -/
def lastTold (size : UInt32) : List Call → Handle → HandleSet
  | [], _ => ∅
  | .consume g :: past, h =>
    if h = g then ((after size past).visible h).getD ∅ else lastTold size past h
  | .drain :: past, h => ((after size past).visible h).getD ∅
  | .remove g :: past, h => if h = g then ∅ else lastTold size past h
  | _ :: past, h => lastTold size past h

/-! ## The invariant -/

/-- Who is not there was told of nothing since it came. -/
theorem lastTold_of_absent (past : List Call) (hp : (after size past).position h = none) :
    lastTold size past h = ∅ := by
  have hnone : ∀ v : Visibility, v.position h = none → (v.visible h).getD ∅ = ∅ := by
    intro v hv
    have : v.visible h = none := by simpa [visible, position] using hv
    rw [this, Option.getD_none]
  induction past with
  | nil => rfl
  | cons call past ih =>
    cases call with
    | add g pos =>
      apply ih
      simp only [after, perform, position_add] at hp
      split at hp
      · cases hp
      · exact hp
    | move g pos =>
      apply ih
      simp only [after, perform, position_move] at hp
      split at hp
      · rename_i e
        subst e
        simpa using hp
      · exact hp
    | remove g =>
      simp only [after, perform, position_remove] at hp
      simp only [lastTold]
      split
      · rfl
      · rename_i e
        exact ih (by rwa [if_neg e] at hp)
    | refresh g => exact ih (by rwa [after, perform, (refresh_ground _ g).2.2] at hp)
    | consume g =>
      rw [after, perform, (consume_sameSight _ g).1.2.2 h] at hp
      simp only [lastTold]
      split
      · exact hnone _ hp
      · exact ih hp
    | drain =>
      rw [after, perform, (drain_sameSight _).1.2.2 h] at hp
      exact hnone _ hp

/-- Every watcher owes itself the difference to what it was last told. -/
theorem owes_lastTold (size : UInt32) (past : List Call) :
    (after size past).All fun h w => w.Owes (lastTold size past h) := by
  induction past with
  | nil =>
    intro h w hw
    simp [after, empty] at hw
  | cons call past ih =>
    have hlasting := lasting_owes (lastTold size past)
    cases call with
    | add g pos =>
      apply ih.add hlasting
      intro hp
      rw [lastTold_of_absent past hp]
      exact Watcher.owes_newcomer pos
    | move g pos => exact ih.move hlasting g pos
    | refresh g => exact ih.refresh hlasting g
    | remove g =>
      intro h w hw
      have hh : h ≠ g := by
        rintro rfl
        have hp : (after size past |>.remove h).2.position h = none := by simp [position_remove]
        have : position (after size (.remove h :: past)) h = some w.pos := by simp [position, hw]
        exact absurd (hp.symm.trans this) (by simp)
      simp only [lastTold, if_neg hh]
      exact ih.remove g h w hw
    | consume g =>
      intro h w hw
      simp only [after, perform, getElem?_consume] at hw
      simp only [lastTold]
      split at hw
      · rename_i e
        obtain ⟨x, hx, rfl⟩ := Option.map_eq_some_iff.mp hw
        rw [if_pos e, visible, hx, Option.map_some, Option.getD_some]
        exact Watcher.owes_told x
      · rename_i e
        rw [if_neg e]
        exact ih h w hw
    | drain =>
      intro h w hw
      rw [after, perform, getElem?_drain, Option.map_eq_some_iff] at hw
      obtain ⟨x, hx, rfl⟩ := hw
      simp only [lastTold, visible, hx, Option.map_some, Option.getD_some]
      exact Watcher.owes_told x

/-! ## Reports -/

/-- The report of what lies between two sets of peers. -/
def difference (told seen : HandleSet) : Changes :=
  ⟨seen \ told, told \ seen⟩

/-- Both lists of a report are strictly ascending, so that nobody is in one of them twice. -/
def Ascending (c : Changes) : Prop :=
  c.entered.toList.Pairwise (fun a b => a.raw < b.raw) ∧ c.left.toList.Pairwise (fun a b => a.raw < b.raw)

/-- **Reports are the differences of the end points.** After any calls, the next report for an entity, on its own or in
a drain, is the difference between what it saw when it was last told and what it sees now; a drain leaves out those for
whom this is empty; and reporting changes nothing of what is seen, of the places and of the lists. -/
theorem report_eq_difference (size : UInt32) (past : List Call) :
    let v := after size past
    let told := lastTold size past
    (∀ h seen, v.visible h = some seen →
      (v.consume h).1 = difference (told h) seen ∧
      (∀ c, (h, c) ∈ v.drain.1 ↔ c = difference (told h) seen ∧ ¬(c.entered = ∅ ∧ c.left = ∅)) ∧
      (h ∉ v.drain.1.map (·.1) ↔ seen \ told h = ∅ ∧ told h \ seen = ∅)) ∧
    (∀ h c, (h, c) ∈ v.drain.1 → v.contains h = true ∧ Ascending c) ∧
    (∀ h, Ascending (v.consume h).1) ∧
    (v.drain.1.map (·.1)).Pairwise (fun a b => a.raw < b.raw) ∧
    SameSight v v.drain.2 ∧ ∀ h, SameSight v (v.consume h).2 := by
  intro v told
  have howes := owes_lastTold size past
  have hchanges : ∀ h w, v.watchers[h]? = some w → w.changes = difference (told h) w.visible := by
    intro h w hw
    obtain ⟨he, hl⟩ := howes h w hw
    simp only [Watcher.changes, he, hl, difference, told]
  have hmem : ∀ h w, v.watchers[h]? = some w → ∀ c, (h, c) ∈ v.drain.1 ↔
      c = difference (told h) w.visible ∧ ¬(c.entered = ∅ ∧ c.left = ∅) := by
    intro h w hw c
    rw [drain, mem_pending, ← hchanges h w hw]
    constructor
    · rintro ⟨x, hx, rfl, hne⟩
      obtain rfl := Option.some.inj (hw.symm.trans hx)
      exact ⟨rfl, hne⟩
    · rintro ⟨rfl, hne⟩
      exact ⟨w, hw, rfl, hne⟩
  have hascending : ∀ c : Changes, Ascending c := fun c => ⟨c.entered.ascending_toList, c.left.ascending_toList⟩
  refine ⟨?_, ?_, fun h => hascending _, ascending_pending v, drain_sameSight v, consume_sameSight v⟩
  · intro h seen hs
    obtain ⟨w, hw, rfl⟩ := Option.map_eq_some_iff.mp hs
    refine ⟨?_, hmem h w hw, ?_⟩
    · rw [consume_eq hw]
      exact hchanges h w hw
    · simp only [List.mem_map, Prod.exists, exists_and_right, exists_eq_right, hmem h w hw, not_exists]
      constructor
      · intro hno
        have := hno (difference (told h) w.visible)
        simpa [difference] using this
      · rintro ⟨hentered, hleft⟩ c ⟨rfl, hne⟩
        exact hne ⟨hentered, hleft⟩
  · intro h c hc
    obtain ⟨w, hw, _⟩ := mem_pending.mp hc
    exact ⟨contains_iff_watcher.mpr ⟨w, hw⟩, hascending c⟩

/-- One who goes out of view and comes back between two drains is not reported. -/
example : (after 10 [.move ⟨2⟩ ⟨3, 0⟩, .move ⟨2⟩ ⟨90, 0⟩, .drain, .add ⟨2⟩ ⟨5, 0⟩, .add ⟨1⟩ ⟨0, 0⟩]).drain.1 = [] := by
  decide +kernel

end TileRealm.Visibility
