import TileRealm.Proofs.Movement.Reach
import TileRealm.Proofs.Scene.Run

/-!
# Scenes as bouts

The referee of a scene oversees its stage.  Whatever is done to the scene is a change of the stage, a session that
begins or ends, or a report.

- `bout`, `calls`, `bout_after`: every history of a scene is one of its bout;
- `Unmoved`, `synced_of_unmoved`: an entity that nobody but its client has moved is where its session has it.
-/

set_option autoImplicit false

namespace TileRealm

namespace Scene

variable {s : Scene} {d : Deed} {h : Handle}

/-! ## Calls -/

/-- The referee and the stage that it oversees. -/
def bout (s : Scene) : Bout Stage :=
  ⟨s.referee, s.stage⟩

/-- What a deed is to the bout, the latest first. -/
def deedCalls (s : Scene) : Deed → List (Bout.Call Stage)
  -- sessions begin and end after the stage has changed: a newcomer is there when its session begins
  | .join e => if s.contains e.handle then [] else [.bind e.handle e.pos, .change (s.entered e)]
  | .leave h => if s.contains h then [.unbind h, .change (s.left h)] else []
  | .report now h report => [.report now h report]
  | d => [.change (s.perform d).stage]

/-- What a history is to the bout. -/
def calls (s : Scene) : List Deed → List (Bout.Call Stage)
  | [] => []
  | d :: past => (s.after past).deedCalls d ++ s.calls past

/-- The scene answers as its referee does. -/
theorem report_eq (s : Scene) (now : Nat) (h : Handle) (report : Report) :
    (s.report now h report).1.isOk = s.bout.accepts now h report ∧
      (s.report now h report).2.bout = s.bout.perform (.report now h report) := by
  rw [Bout.perform, Bout.accepts, bout, Referee.report]
  dsimp only
  cases hc : s.referee.check s.stage now h report with
  | error refusal =>
    rw [report_of_check_error hc, resync_eq]
    exact ⟨rfl, rfl⟩
  | ok =>
    obtain ⟨e, -, hplace, hr⟩ := report_of_check_ok hc
    rw [hr, hplace]
    exact ⟨rfl, rfl⟩

theorem referee_foldl_inform (todo : List (Handle × Changes)) (count : FlushCount) (s : Scene) :
    (todo.foldl (fun (count, s) (h, changes) => s.inform count h changes) (count, s)).2.referee = s.referee := by
  induction todo generalizing count s with
  | nil => rfl
  | cons p todo ih => exact (ih _ _).trans rfl

/-- Sessions begin with joins, end with leaves and are kept up by reports. -/
theorem referee_perform (s : Scene) (d : Deed) (hjoin : ∀ e, d ≠ .join e) (hleave : ∀ h, d ≠ .leave h)
    (hreport : ∀ now h report, d ≠ .report now h report) : (s.perform d).referee = s.referee := by
  cases d with
  | join e => exact absurd rfl (hjoin e)
  | leave h => exact absurd rfl (hleave h)
  | report now h report => exact absurd rfl (hreport now h report)
  | move h pos => rcases s.move_cases h pos with ⟨_, -, -, hm⟩ | ⟨_, -, hm⟩ <;> rw [perform, hm]
  | step h pos speed =>
    rcases s.step_cases h pos speed with ⟨_, -, -, hs⟩ | ⟨_, -, hs⟩ <;> rw [perform, hs]
    rfl
  | drive m now =>
    obtain ⟨random, ht⟩ := strides_tick m s now
    rw [perform]
    generalize (m.tick s now).2.2 = s' at ht ⊢
    cases ht <;> rfl
  | flush => exact referee_foldl_inform _ _ _
  | sample | drain | takeRefused => rfl

/-- A deed is a call of the bout, or two. -/
theorem bout_perform (s : Scene) (d : Deed) : (s.perform d).bout = s.bout.after (s.deedCalls d) := by
  have hquiet : (s.perform d).referee = s.referee →
      (s.perform d).bout = s.bout.after [.change (s.perform d).stage] := by
    intro hreferee
    rw [bout, hreferee]
    rfl
  cases d with
  | join e =>
    rw [perform_join, deedCalls]
    split <;> rfl
  | leave h =>
    rw [perform_leave, deedCalls]
    split <;> rfl
  | report now h report => exact (s.report_eq now h report).2
  | move | step | drive | sample | flush | drain | takeRefused =>
    exact hquiet (referee_perform s _ nofun nofun nofun)

/-- A history of a scene is one of its bout. -/
theorem bout_after (s : Scene) (past : List Deed) : (s.after past).bout = s.bout.after (s.calls past) := by
  induction past with
  | nil => rfl
  | cons d past ih => rw [after, bout_perform, ih, calls, Bout.after_append]

/-! ## Entities that nobody moves -/

/-- Where an entity is. -/
def place? (s : Scene) (h : Handle) : Option Tile :=
  (s.entity? h).map (·.pos)

/-- Whether a deed is the join of `h` or a report of `h` that is accepted. -/
def renews (s : Scene) (h : Handle) : Deed → Bool
  | .join e => decide (e.handle = h) && !s.contains h
  | .report now g report => decide (g = h) && (s.report now g report).1.isOk
  | _ => false

/-- Since its latest join or accepted report, no deed has moved `h`. -/
def Unmoved (s : Scene) (h : Handle) : List Deed → Prop
  | [] => True
  | d :: past => (s.after past).renews h d = true ∨
    ((s.after past).perform d).place? h = (s.after past).place? h ∧ s.Unmoved h past

/-- A stage stores the places that are reported to it, or stays as it is. -/
theorem carries_stage (st : Stage) (h g : Handle) (report : Report) : Bout.Carries st h g report := by
  intro answer st' hplace
  have hplace' : st.place g report.target = (answer, st') := hplace
  unfold Stage.place Stage.move at hplace'
  by_cases hw : (!st.terrain.walkable report.target) = true
  · rw [if_pos hw] at hplace'
    cases hplace'
    rw [if_neg fun hok => nomatch hok.2]
  · rw [if_neg hw] at hplace'
    cases he : st.entities[g]? with
    | none =>
      simp only [he] at hplace'
      cases hplace'
      rw [if_neg fun hok => nomatch hok.2]
    | some e =>
      simp only [he] at hplace'
      cases hplace'
      have hget : (st.entities.insert g { e with pos := report.target })[h]? =
          if h = g then some { e with pos := report.target } else st.entities[h]? := Roster.getElem?_insert
      simp only [Arena.position, hget]
      by_cases hg : g = h
      · rw [if_pos hg.symm, if_pos ⟨hg, rfl⟩]
        rfl
      · rw [if_neg (Ne.symm hg), if_neg fun hok => hg hok.1]

theorem undisturbed_deedCalls {b : Bout Stage} {cs : List (Bout.Call Stage)} (hb : b.after cs = s.bout)
    (hd : s.renews h d = true ∨ (s.perform d).place? h = s.place? h ∧ b.Undisturbed h cs) :
    b.Undisturbed h (s.deedCalls d ++ cs) := by
  have harena : (b.after cs).arena = s.stage := congrArg Bout.arena hb
  have hchange : ∀ {st : Stage}, (s.perform d).stage = st → (s.perform d).place? h = s.place? h →
      Arena.position st h = Arena.position (b.after cs).arena h := by
    rintro st rfl hplace
    rw [harena]
    exact hplace
  cases d with
  | join e =>
    rw [deedCalls]
    cases hc : s.contains e.handle with
    | true =>
      have hrenews : s.renews h (.join e) = false := by
        simp only [renews, Bool.and_eq_false_imp, decide_eq_true_eq]
        rintro rfl
        rw [hc]
        rfl
      rw [hrenews] at hd
      exact (hd.resolve_left Bool.false_ne_true).2
    | false =>
      have hp := perform_join s e
      rw [hc, if_neg Bool.false_ne_true] at hp
      -- the session of the newcomer begins where it has entered; for the others the stage has changed elsewhere
      show (if e.handle = h then _ else _)
      by_cases hh : e.handle = h
      · rw [if_pos hh]
        have hget : (s.entered e).entities[h]? = if h = e.handle then some { e with scene := some s.stage.id }
            else s.stage.entities[h]? := Roster.getElem?_insert
        have hpos : Arena.position (s.entered e) h = some e.pos := by
          simp only [Arena.position, hget, if_pos hh.symm, Option.map_some]
        exact hpos
      · rw [if_neg hh]
        have hrenews : s.renews h (.join e) = false := by simp [renews, hh]
        rw [hrenews] at hd
        obtain ⟨hplace, hu⟩ := hd.resolve_left Bool.false_ne_true
        exact ⟨hchange (by rw [hp]) hplace, hu⟩
  | leave g =>
    rw [deedCalls]
    obtain ⟨hplace, hu⟩ := hd.resolve_left Bool.false_ne_true
    have hp := perform_leave s g
    cases hc : s.contains g with
    | false => exact hu
    | true =>
      rw [if_pos hc] at hp
      exact Or.inr ⟨hchange (by rw [hp]) hplace, hu⟩
  | report now g report =>
    refine ⟨carries_stage _ h g report, ?_⟩
    rcases hd with hrenews | ⟨-, hu⟩
    · simp only [renews, Bool.and_eq_true, decide_eq_true_eq] at hrenews
      obtain ⟨hg, haccepts⟩ := hrenews
      rw [(s.report_eq now g report).1, ← hb] at haccepts
      exact Or.inl ⟨hg, haccepts⟩
    · exact Or.inr hu
  | move | step | drive | sample | flush | drain | takeRefused =>
    obtain ⟨hplace, hu⟩ := hd.resolve_left Bool.false_ne_true
    exact ⟨hchange rfl hplace, hu⟩

theorem undisturbed_of_unmoved {past : List Deed} (hu : s.Unmoved h past) : s.bout.Undisturbed h (s.calls past) := by
  induction past with
  | nil => trivial
  | cons d past ih =>
    apply undisturbed_deedCalls (s.bout_after past).symm
    rcases hu with hrenews | ⟨hplace, hu⟩
    · exact Or.inl hrenews
    · exact Or.inr ⟨hplace, ih hu⟩

/-- The session of an entity that nobody but its client has moved knows where the entity is. -/
theorem synced_of_unmoved {setup : SceneSetup} {terrain : Terrain} {feed : PositionFeed} {past : List Deed}
    (hu : (empty setup terrain feed).Unmoved h past) : ((empty setup terrain feed).after past).bout.Synced h := by
  rw [bout_after]
  exact Bout.synced_after setup.rules _ h _ (undisturbed_of_unmoved hu)

end Scene

end TileRealm
