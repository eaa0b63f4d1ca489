import TileRealm.Proofs.Router

/-!
# What a line should get

What is for an entity in a batch is due on its line once the batch is taken.  What was written there is the first part
of it, and the rest is still to be written, as long as the client is there.

- `Router.Balanced`: so much was written, and so much is still to be written; one lemma for each kind of deed;
- `Router.alike_undisturbed`: what happens at the ends of other lines is nothing to a line.
-/

set_option autoImplicit false

namespace TileRealm

/-- Whether a delivery is for an entity: it goes to the whole scene, or to this entity. -/
def Delivery.reaches (d : Delivery) (h : Handle) : Bool :=
  match d.recipient with
  | .scene => true
  | .entity g => decide (g = h)

namespace Router

variable {g h : Handle} {line : LineId} {past : List Deed} {deed : Deed} {d : Delivery}

/-! ## What a line should get -/

/-- What a line should get for an entity: all that is for it in the batches that were taken while the line was that of
the entity. -/
def due (h : Handle) (line : LineId) : List Deed → List Delivery
  | [] => []
  | .take batch :: past => due h line past ++ if listens h line past then batch.filter (·.reaches h) else []
  | _ :: past => due h line past

theorem lt_of_attended (hattended : attended line past = true) : line < connects past := by
  induction past with
  | nil => cases hattended
  | cons deed past ih =>
    cases deed with
    | connect =>
      rw [attended, Bool.or_eq_true, beq_iff_eq] at hattended
      rcases hattended with rfl | hattended
      · exact Nat.lt_succ_self _
      · exact Nat.lt_succ_of_lt (ih hattended)
    | close l => exact ih (Bool.and_eq_true_iff.mp hattended).2
    | hangUp l => exact ih (Bool.and_eq_true_iff.mp hattended).2
    | _ => exact ih hattended

/-- A line that was opened is attended only if it was so before. -/
theorem attended_of_cons (hline : line < connects past) (hattended : attended line (deed :: past) = true) :
    attended line past = true := by
  cases deed with
  | connect =>
    rw [attended, Bool.or_eq_true, beq_iff_eq] at hattended
    exact hattended.resolve_left (Nat.ne_of_lt hline)
  | close l => exact (Bool.and_eq_true_iff.mp hattended).2
  | hangUp l => exact (Bool.and_eq_true_iff.mp hattended).2
  | _ => exact hattended

theorem listens_eq_false (hline : connects past ≤ line) (h : Handle) : listens h line past = false := by
  rw [Bool.eq_false_iff]
  intro hlistens
  exact Nat.not_lt_of_le hline (lt_of_attended (listens_iff.mp hlistens).2)

/-- A line that was not opened yet got nothing and should not. -/
theorem told_of_connects_le (hline : connects past ≤ line) : told line past = [] ∧ ∀ h, due h line past = [] := by
  induction past with
  | nil => exact ⟨rfl, fun _ => rfl⟩
  | cons deed past ih =>
    cases deed with
    | connect => exact ih (Nat.le_of_succ_le hline)
    | take batch =>
      obtain ⟨htold, hdue⟩ := ih hline
      refine ⟨htold, fun h => ?_⟩
      have hnot : listens h line past = false := listens_eq_false hline h
      rw [due, hdue, hnot]
      rfl
    | tell g d =>
      obtain ⟨htold, hdue⟩ := ih hline
      refine ⟨?_, hdue⟩
      have hnot : listens g line past = false := listens_eq_false hline g
      rw [told, htold, hnot]
      rfl
    | _ => exact ih hline

theorem toldTo_tell (past : List Deed) : toldTo h line (.tell g d :: past) =
    toldTo h line past ++ if listens h line past then (if g = h then [d] else []) else [] := by
  rw [toldTo, told, List.filter_append, List.map_append, ← toldTo]
  by_cases hg : g = h
  · subst hg
    cases listens g line past <;> simp
  · cases listens g line past <;> simp [hg]

/-- Between what a line should get for an entity and what was written there, there is what is still to be written. -/
structure Balanced (h : Handle) (line : LineId) (past : List Deed) (pending : List Delivery) : Prop where
  begins : toldTo h line past <+: due h line past
  rest : attended line past = true →
    toldTo h line past ++ (if lineOf h past = some line then pending else []) = due h line past

namespace Balanced

variable {pending : List Delivery}

theorem of_listens {pending' : List Delivery} (hb : Balanced h line past pending)
    (hpending : listens h line past = true → pending = pending') : Balanced h line past pending' := by
  refine ⟨hb.begins, fun hattended => ?_⟩
  rw [← hb.rest hattended]
  split
  · rename_i hline
    rw [hpending (by simp [listens, hline, hattended])]
  · rfl

theorem same {past' : List Deed} (hb : Balanced h line past pending) (htold : toldTo h line past' = toldTo h line past)
    (hdue : due h line past' = due h line past) (hline : lineOf h past' = lineOf h past)
    (hattended : attended line past' = true → attended line past = true) : Balanced h line past' pending := by
  refine ⟨?_, fun h => ?_⟩
  · rw [htold, hdue]
    exact hb.begins
  · rw [htold, hdue, hline]
    exact hb.rest (hattended h)

/-- Whose line it is may change while nothing is still to be written. -/
theorem relined {past' : List Deed} (hb : Balanced h line past []) (htold : toldTo h line past' = toldTo h line past)
    (hdue : due h line past' = due h line past) (hattended : attended line past' = attended line past) :
    Balanced h line past' [] := by
  refine ⟨?_, fun h => ?_⟩
  · rw [htold, hdue]
    exact hb.begins
  · have hrest := hb.rest (hattended ▸ h)
    rw [ite_self] at hrest ⊢
    rw [htold, hdue, hrest]

theorem connect (hb : Balanced h line past pending) (hlegal : Legal past) :
    Balanced h line (.connect :: past) pending := by
  by_cases hnew : line = connects past
  · obtain ⟨htold, hdue⟩ := told_of_connects_le (Nat.le_of_eq hnew.symm)
    have htoldTo : toldTo h line (.connect :: past) = [] := by
      have hsame : told line (.connect :: past) = told line past := rfl
      rw [toldTo, hsame, htold]
      rfl
    have hline : lineOf h (.connect :: past) ≠ some line := by
      intro hline
      have hlt : line < connects past := lineOf_lt hlegal hline
      exact Nat.ne_of_lt hlt hnew
    refine ⟨?_, fun _ => ?_⟩
    · rw [htoldTo]
      exact List.nil_prefix
    · rw [htoldTo, if_neg hline]
      exact (hdue h).symm
  · refine hb.same rfl rfl rfl fun hattended => ?_
    rwa [attended, beq_eq_false_iff_ne.mpr hnew, Bool.false_or] at hattended

/-- What is for an entity in a batch that is taken is still to be written. -/
theorem take (hb : Balanced h line past []) (batch : List Delivery) :
    Balanced h line (.take batch :: past) (batch.filter (·.reaches h)) := by
  have htold : toldTo h line (.take batch :: past) = toldTo h line past := rfl
  refine ⟨?_, fun hattended => ?_⟩
  · rw [htold, due]
    exact hb.begins.trans (List.prefix_append _ _)
  · have hrest := hb.rest hattended
    have hline : lineOf h (.take batch :: past) = lineOf h past := rfl
    have hlistens : listens h line past = (lineOf h past == some line) := by
      rw [listens, show attended line past = true from hattended, Bool.and_true]
    rw [ite_self, List.append_nil] at hrest
    rw [htold, hrest, due, hlistens, hline]
    by_cases h : lineOf h past = some line <;> simp [h]

/-- What is written is no longer to be written. -/
theorem tell (hb : Balanced h line past ((if g = h then [d] else []) ++ pending)) :
    Balanced h line (.tell g d :: past) pending := by
  have hdue : due h line (.tell g d :: past) = due h line past := rfl
  have hline : lineOf h (.tell g d :: past) = lineOf h past := rfl
  by_cases hlistens : lineOf h past = some line ∧ attended line past = true
  · obtain ⟨hown, hattended⟩ := hlistens
    have hrest := hb.rest hattended
    rw [if_pos hown, ← List.append_assoc] at hrest
    have htold : toldTo h line (.tell g d :: past) = toldTo h line past ++ if g = h then [d] else [] := by
      rw [toldTo_tell, listens, hown, hattended]
      simp
    refine ⟨?_, fun _ => ?_⟩
    · rw [htold, hdue, ← hrest]
      exact List.prefix_append _ _
    · rw [htold, hdue, hline, if_pos hown, hrest]
  · have htold : toldTo h line (.tell g d :: past) = toldTo h line past := by
      have hfalse : listens h line past = false := by
        rw [Bool.eq_false_iff, Ne, listens_iff]
        exact hlistens
      rw [toldTo_tell, hfalse]
      exact List.append_nil _
    refine ⟨?_, fun hattended => ?_⟩
    · rw [htold, hdue]
      exact hb.begins
    · have hother : lineOf h past ≠ some line := fun hown => hlistens ⟨hown, hattended⟩
      have hrest := hb.rest hattended
      rw [if_neg hother] at hrest
      rw [htold, hdue, hline, if_neg hother, hrest]

end Balanced

/-! ## Clients who leave other lines -/

/-- Whether a deed is that of a client who ends another line. -/
def endsOther (line : LineId) : Deed → Bool
  | .close l => l != line
  | .hangUp l => l != line
  | _ => false

/-- A history without the deeds of clients who ended another line. -/
def undisturbed (line : LineId) (past : List Deed) : List Deed :=
  past.filter (!endsOther line ·)

/-- Two histories in which the same happened for a line. -/
structure Alike (line : LineId) (past past' : List Deed) : Prop where
  connects : connects past = connects past'
  attended : attended line past = attended line past'
  lineOf : ∀ h, lineOf h past = lineOf h past'
  told : told line past = told line past'
  due : ∀ h, due h line past = due h line past'

theorem Alike.listens {past' : List Deed} (ha : Alike line past past') (h : Handle) :
    listens h line past = listens h line past' := by
  rw [Router.listens, Router.listens, ha.lineOf, ha.attended]

theorem Alike.cons {past' : List Deed} (ha : Alike line past past') (deed : Deed) :
    Alike line (deed :: past) (deed :: past') := by
  obtain ⟨hconnects, hattended, hline, htold, hdue⟩ := id ha
  constructor <;> try intro h
  all_goals cases deed <;>
    simp only [Router.connects, Router.attended, Router.lineOf, Router.told, Router.due, hconnects, hattended, hline,
      htold, hdue, ha.listens]

theorem alike_of_endsOther (past : List Deed) (hends : endsOther line deed = true) :
    Alike line (deed :: past) past := by
  cases deed with
  | close l => exact ⟨rfl, congrArg (· && Router.attended line past) hends, fun _ => rfl, rfl, fun _ => rfl⟩
  | hangUp l => exact ⟨rfl, congrArg (· && Router.attended line past) hends, fun _ => rfl, rfl, fun _ => rfl⟩
  | _ => cases hends

/-- What other clients do at the ends of their lines is nothing to a line. -/
theorem alike_undisturbed (line : LineId) (past : List Deed) : Alike line (undisturbed line past) past := by
  induction past with
  | nil => exact ⟨rfl, rfl, fun _ => rfl, rfl, fun _ => rfl⟩
  | cons deed past ih =>
    cases hends : endsOther line deed with
    | true =>
      have hpast : undisturbed line (deed :: past) = undisturbed line past := List.filter_cons_of_neg (by simp [hends])
      obtain ⟨hconnects, hattended, hline, htold, hdue⟩ := alike_of_endsOther past hends
      rw [hpast]
      exact ⟨ih.1.trans hconnects.symm, ih.2.trans hattended.symm, fun h => (ih.3 h).trans (hline h).symm,
        ih.4.trans htold.symm, fun h => (ih.5 h).trans (hdue h).symm⟩
    | false =>
      have hpast : undisturbed line (deed :: past) = deed :: undisturbed line past :=
        List.filter_cons_of_pos (by simp [hends])
      rw [hpast]
      exact ih.cons deed

end Router

end TileRealm
