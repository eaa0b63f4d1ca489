import Mathlib.Data.List.Basic
import TileRealm.Proofs.Router.Served

/-!
# An entity with a new line

A departure and a registration go through different queues, so a departure that was sent first may be taken last, and
then it takes the new line away.  What counts for a batch is what the router had taken by then.

- `Router.stands`: an entity was registered with a line, and did not depart since;
- `Exchange.reconnect_after`: a new line gets all of a batch that is for its entity, or nothing of it;
- `Exchange.reconnect_lost`: a new line that gets nothing.
-/

set_option autoImplicit false

namespace TileRealm

open Router (Deed)

namespace Router

variable {h : Handle} {line : LineId} {past : List Deed}

/-- Whether an entity was registered with a line and did not depart since. -/
def stands (h : Handle) (line : LineId) : List Deed → Bool
  | [] => false
  | .register g l :: past => (g == h && l == line) || stands h line past
  | .unregister g :: past => g != h && stands h line past
  | _ :: past => stands h line past

theorem mem_of_stands (hstands : stands h line past = true) : .register h line ∈ past := by
  induction past with
  | nil => cases hstands
  | cons deed past ih =>
    cases deed with
    | register g l =>
      rw [stands, Bool.or_eq_true, Bool.and_eq_true, beq_iff_eq, beq_iff_eq] at hstands
      obtain ⟨rfl, rfl⟩ | hstands := hstands
      · exact List.mem_cons_self
      · exact List.mem_cons_of_mem _ (ih hstands)
    | unregister g =>
      rw [stands, Bool.and_eq_true] at hstands
      exact List.mem_cons_of_mem _ (ih hstands.2)
    | _ => exact List.mem_cons_of_mem _ (ih hstands)

/-- A registration that no other one follows holds until the entity departs. -/
theorem lineOf_iff_stands (hgoing : .shut ∉ past)
    (hlast : ∀ later earlier, past = later ++ .register h line :: earlier → ∀ l, .register h l ∉ later) :
    lineOf h past = some line ↔ stands h line past = true := by
  induction past with
  | nil => exact ⟨nofun, nofun⟩
  | cons deed past ih =>
    have hrest : lineOf h past = some line ↔ stands h line past = true := by
      apply ih (List.not_mem_of_not_mem_cons hgoing)
      intro later earlier hpast l
      exact List.not_mem_of_not_mem_cons (hlast (deed :: later) earlier (congrArg _ hpast) l)
    cases deed with
    | register g l =>
      rw [lineOf, stands]
      by_cases hg : g = h
      · subst hg
        have hfollowed : stands g line past = false := by
          rw [Bool.eq_false_iff]
          intro hstands
          obtain ⟨later, earlier, hpast⟩ := List.append_of_mem (mem_of_stands hstands)
          exact hlast (.register g l :: later) earlier (congrArg _ hpast) l List.mem_cons_self
        simp [hfollowed]
      · simp [hg, hrest]
    | unregister g => by_cases hg : g = h <;> simp [lineOf, stands, hg, hrest]
    | shut => exact absurd List.mem_cons_self hgoing
    | _ => exact hrest

theorem received_append (later earlier : List Deed) :
    received (later ++ earlier) = received earlier ++ received later := by
  rw [received, List.reverse_append, List.filterMap_append]
  rfl

theorem mem_received {deed : Deed} {message : Message} (hdeed : deed ∈ past) (hmessage : deed.message? = some message) :
    message ∈ received past :=
  List.mem_filterMap.mpr ⟨deed, List.mem_reverse.mpr hdeed, hmessage⟩

end Router

namespace Exchange

variable {scale : Scale} {h : Handle} {line : LineId} {past working : List Move} {batch : List Delivery}

/-- An entity got a new line, and nobody sent another registration for it since. -/
def Reconnects (scale : Scale) (h : Handle) (line : LineId) (past : List Move) : Prop :=
  ∃ before after, sent scale past = before ++ .registration h line :: after ∧ .registration h line ∉ before ∧
    ∀ l, .registration h l ∉ after

theorem stopped_of_shut (hshut : .shut ∈ ledger scale past) : (after scale past).stopped = true := by
  induction past with
  | nil => cases hshut
  | cons move past ih =>
    rw [after]
    by_cases hmove : move = .stop
    · subst hmove
      rw [perform]
      split
      · rfl
      · rename_i hstop
        rw [ledger, deed?, if_neg hstop] at hshut
        exact ih hshut
    · rw [stopped_perform hmove]
      apply ih
      rw [ledger, List.mem_append] at hshut
      refine hshut.resolve_left fun hdeed => ?_
      exact hmove (stop_of_deed? (Option.mem_toList.mp hdeed))

/-- The new line is that of the entity iff its registration was taken and no departure since. -/
theorem Reconnects.lineOf_iff (hnew : Reconnects scale h line past) (hgoing : (after scale past).stopped = false) :
    Router.lineOf h (ledger scale past) = some line ↔ Router.stands h line (ledger scale past) = true := by
  apply Router.lineOf_iff_stands
  · intro hshut
    rw [stopped_of_shut hshut] at hgoing
    cases hgoing
  · intro later earlier hledger l hl
    obtain ⟨before, after, hsent, hbefore, hafter⟩ := hnew
    -- the registration was sent once, so what was taken after it is the start of what was sent after it
    have hsplit : (Router.received later).filter (·.queue = .registrations) ++
        (Exchange.after scale past).board.messages .registrations = after.filter (·.queue = .registrations) := by
      have hfifo := fifo_after scale past .registrations
      have hqueue : (Message.registration h line).queue = .registrations := rfl
      rw [hledger, hsent, Router.received_append, Router.received_cons] at hfifo
      simp only [Deed.message?, Option.toList_some, List.filter_append, List.append_assoc, List.filter_cons,
        hqueue, decide_true, if_true, List.cons_append, List.nil_append] at hfifo
      have hinj := (List.append_cons_inj_of_notMem (fun hm => hbefore (List.mem_filter.mp hm).1)
        (fun hm => hafter line (List.mem_filter.mp hm).1)).mp hfifo.symm
      exact hinj.2.2.symm
    have hreceived : Message.registration h l ∈ (Router.received later).filter (·.queue = .registrations) :=
      List.mem_filter.mpr ⟨Router.mem_received hl rfl, rfl⟩
    have hmem := List.mem_append_left ((Exchange.after scale past).board.messages .registrations) hreceived
    rw [hsplit] at hmem
    exact hafter l (List.mem_filter.mp hmem).1

theorem connects_ledger_append_le (scale : Scale) (working past : List Move) :
    Router.connects (ledger scale past) ≤ Router.connects (ledger scale (working ++ past)) := by
  induction working with
  | nil => exact Nat.le_refl _
  | cons move working ih => exact Nat.le_trans ih (connects_ledger_le scale move (working ++ past))

/-- A client that is still there was there before, since its line was opened. -/
theorem attended_of_append (hline : line < Router.connects (ledger scale past))
    (hattended : Router.attended line (ledger scale (working ++ past)) = true) :
    Router.attended line (ledger scale past) = true := by
  induction working with
  | nil => exact hattended
  | cons move working ih =>
    apply ih
    rw [List.cons_append, ledger] at hattended
    cases hdeed : (after scale (working ++ past)).deed? move with
    | none => rwa [hdeed] at hattended
    | some deed =>
      rw [hdeed] at hattended
      exact Router.attended_of_cons (Nat.lt_of_lt_of_le hline (connects_ledger_append_le scale working past)) hattended

/-- Nothing more is due as long as no batch is taken. -/
theorem due_append (hworking : .serve .batches ∉ working) :
    Router.due h line (ledger scale (working ++ past)) = Router.due h line (ledger scale past) := by
  induction working with
  | nil => rfl
  | cons move working ih =>
    rw [← ih fun hmem => hworking (List.mem_cons_of_mem _ hmem), List.cons_append, ledger]
    cases hdeed : (after scale (working ++ past)).deed? move with
    | none => rfl
    | some deed =>
      cases deed with
      | take batch =>
        obtain ⟨rfl, -⟩ := serve_of_deed? hdeed rfl
        exact absurd List.mem_cons_self hworking
      | _ => rfl

/-- What is for an entity in a batch is written on its new line, or nothing of it is. -/
theorem toldTo_append (hnew : Reconnects scale h line past)
    (htake : (after scale past).deed? (.serve .batches) = some (.take batch)) (hworking : .serve .batches ∉ working)
    (hrest : (after scale (working ++ .serve .batches :: past)).atRest = true)
    (hopen : Router.attended line (ledger scale (working ++ .serve .batches :: past)) = true) :
    Router.toldTo h line (ledger scale (working ++ .serve .batches :: past)) =
      Router.toldTo h line (ledger scale past) ++
        if Router.stands h line (ledger scale past) then batch.filter (·.reaches h) else [] := by
  have htaken : ledger scale (.serve .batches :: past) = .take batch :: ledger scale past := by
    rw [ledger, htake]
    rfl
  -- when the batch was taken, nothing was in hand, the router was at work and the client was there
  obtain ⟨-, hidle, hwaits⟩ := serve_of_deed? htake rfl
  have hgoing : (after scale past).stopped = false := by
    rw [Bool.eq_false_iff]
    intro hstopped
    rw [((done_of_stopped hstopped).2 _).2] at hwaits
    cases hwaits
  have hattended : Router.attended line (ledger scale past) = true := by
    obtain ⟨before, later, hsent, -⟩ := hnew
    have hline : line < Router.connects (ledger scale past) :=
      lt_of_mem_sent (h := h) (hsent ▸ List.mem_append_right _ List.mem_cons_self)
    have hlater : Router.attended line (ledger scale ((working ++ [.serve .batches]) ++ past)) = true := by
      rwa [List.append_assoc]
    exact attended_of_append hline hlater
  have hlistens : Router.listens h line (ledger scale past) = Router.stands h line (ledger scale past) := by
    rw [Bool.eq_iff_iff, ← hnew.lineOf_iff hgoing, Router.listens, hattended, Bool.and_true, beq_iff_eq]
  have hbefore := (balanced_after scale h line past).rest hattended
  have hafter := (balanced_after scale h line (working ++ .serve .batches :: past)).rest hopen
  rw [pending_of_atRest hidle, ite_self, List.append_nil] at hbefore
  rw [pending_of_atRest hrest, ite_self, List.append_nil] at hafter
  rw [hafter, due_append hworking, htaken, Router.due, hlistens, hbefore]

theorem ledger_append (scale : Scale) (working past : List Move) :
    ∃ later, ledger scale (working ++ past) = later ++ ledger scale past := by
  induction working with
  | nil => exact ⟨[], rfl⟩
  | cons move working ih =>
    obtain ⟨later, hlater⟩ := ih
    exact ⟨((after scale (working ++ past)).deed? move).toList ++ later, by
      rw [List.cons_append, ledger, hlater, List.append_assoc]⟩

/-- **A new line gets all of a batch or nothing.** An entity got a new line, whatever departure of it was sent before,
and the router takes a batch and works it off, with the client there to the end.  If the registration was taken before
the batch and no departure of the entity between the two, all that is for the entity or for the scene in the batch is
written on the line, in its order and once; else nothing of it is.  If the line is that of no other entity, it gets just
this. -/
theorem reconnect_after (hnew : Reconnects scale h line past)
    (htake : (after scale past).deed? (.serve .batches) = some (.take batch)) (hworking : .serve .batches ∉ working)
    (hrest : (after scale (working ++ .serve .batches :: past)).atRest = true)
    (hopen : Router.attended line (ledger scale (working ++ .serve .batches :: past)) = true) :
    let news := if Router.stands h line (ledger scale past) then batch.filter (·.reaches h) else []
    Router.toldTo h line (ledger scale (working ++ .serve .batches :: past)) =
        Router.toldTo h line (ledger scale past) ++ news ∧
      ((∀ g, .register g line ∈ ledger scale (working ++ .serve .batches :: past) → g = h) →
        got scale line (working ++ .serve .batches :: past) =
          got scale line past ++ news.map fun d => Wire.text scale d.event) := by
  intro news
  have htold := toldTo_append hnew htake hworking hrest hopen
  refine ⟨htold, fun hown => ?_⟩
  have hbefore : ∀ g, .register g line ∈ ledger scale past → g = h := by
    intro g hg
    obtain ⟨later, hlater⟩ := ledger_append scale (working ++ [.serve .batches]) past
    apply hown g
    rw [List.append_assoc] at hlater
    exact hlater ▸ List.mem_append_right later hg
  rw [own_after hown, own_after hbefore, htold, List.map_append]

/-- A departure and a registration that are taken in the order in which they were sent. -/
theorem reconnect_in_order :
    let h : Handle := ⟨72057594037927937⟩
    let batch : List Delivery := [⟨1, .entity h, .disappear ⟨7⟩⟩, ⟨1, .scene, .disappear ⟨8⟩⟩]
    let past : List Move := [.serve .registrations, .serve .departures, .send (.batch batch),
      .send (.registration h 1), .connect, .send (.departure h), .serve .registrations,
      .send (.registration h 0), .connect]
    let working : List Move := [.tell, .begin [h], .tell, .begin [h]]
    got ⟨32⟩ 1 (working ++ .serve .batches :: past) = batch.map fun d => Wire.text ⟨32⟩ d.event := by
  intro h batch past working
  have hnew : Reconnects ⟨32⟩ h 1 past :=
    ⟨[.registration h 0, .departure h], [.batch batch], by decide +kernel, by decide +kernel, nofun⟩
  have hstands : Router.stands h 1 (ledger ⟨32⟩ past) = true := by decide +kernel
  have hnothing : got ⟨32⟩ 1 past = [] := by decide +kernel
  have hall : batch.filter (·.reaches h) = batch := by decide +kernel
  have hledger : ledger ⟨32⟩ (working ++ .serve .batches :: past) = [.tell h ⟨1, .scene, .disappear ⟨8⟩⟩,
      .tell h ⟨1, .entity h, .disappear ⟨7⟩⟩, .take batch, .register h 1, .unregister h, .connect, .register h 0,
      .connect] := by
    decide +kernel
  have htake : (after ⟨32⟩ past).deed? (.serve .batches) = some (.take batch) := by decide +kernel
  have hworking : .serve .batches ∉ working := by decide +kernel
  obtain ⟨-, hgot⟩ := reconnect_after hnew htake hworking (by decide +kernel) (by decide +kernel)
  rw [hgot, hnothing, if_pos hstands, hall]
  · rfl
  · intro g hg
    simpa [hledger] using hg

/-- **A new line that gets nothing.** An entity has a line, departs, and is registered with a new line, then a batch is
sent with something for the entity and something for the scene, all in this order.  The router takes the new
registration before the departure, and the new line, though its client is there, gets nothing. -/
theorem reconnect_lost :
    let h : Handle := ⟨72057594037927937⟩
    let batch : List Delivery := [⟨1, .entity h, .disappear ⟨7⟩⟩, ⟨1, .scene, .disappear ⟨8⟩⟩]
    let past : List Move := [.begin [], .tell, .begin [h], .serve .batches, .serve .departures,
      .serve .registrations, .send (.batch batch), .send (.registration h 1), .connect, .send (.departure h),
      .serve .registrations, .send (.registration h 0), .connect]
    sent ⟨32⟩ past = [.registration h 0, .departure h, .registration h 1, .batch batch] ∧
      (∀ queue, (after ⟨32⟩ past).board.messages queue = []) ∧ (after ⟨32⟩ past).atRest = true ∧
      (after ⟨32⟩ past).board.router.isOpen 1 = true ∧ batch.filter (·.reaches h) = batch ∧
      got ⟨32⟩ 1 past = [] := by
  refine ⟨by decide +kernel, fun queue => by cases queue <;> decide +kernel, by decide +kernel, by decide +kernel,
    by decide +kernel, by decide +kernel⟩

end Exchange

end TileRealm
