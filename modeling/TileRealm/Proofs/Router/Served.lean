import TileRealm.Proofs.Router.Due
import TileRealm.Proofs.Router.Exchange
import TileRealm.Proofs.Router.Order

/-!
# What every line gets

Clients, senders and the router do what they like, in any order.  Each line gets what is for it while it is registered
and open, in order and once, and nothing that was sent before the queues were closed is left over.

- `Exchange.balanced_after`: what was written for an entity, and what is still to be written;
- `Exchange.done_of_stopped`: a router that stopped has nothing to do, and nothing can come;
- `Exchange.board_of_writes`: a batch comes to the same, in whatever order it is written;
- `Exchange.served_after`: all of this.
-/

set_option autoImplicit false

namespace TileRealm

open Router (Deed)
open Switchboard (Queue)

namespace Exchange

variable {scale : Scale} {s : Exchange} {move : Move} {past : List Move}

/-! ## What is in hand -/

/-- What of the batch in hand is still to be written for an entity. -/
def pending (s : Exchange) (h : Handle) : List Delivery :=
  (s.errands.filter (·.1 = h)).map (·.2) ++ s.batch.filter (·.reaches h)

theorem atRest_iff : s.atRest = true ↔ s.batch = [] ∧ s.errands = [] := by
  rw [atRest, Bool.and_eq_true, List.isEmpty_iff, List.isEmpty_iff]

theorem pending_of_atRest (hrest : s.atRest = true) (h : Handle) : s.pending h = [] := by
  obtain ⟨hbatch, herrands⟩ := atRest_iff.mp hrest
  rw [pending, hbatch, herrands]
  rfl

theorem filter_map_pair (order : List Handle) (h : Handle) (d : Delivery) :
    ((order.map (·, d)).filter (·.1 = h)).map (·.2) = List.replicate (order.count h) d := by
  induction order with
  | nil => rfl
  | cons g order ih =>
    by_cases hg : g = h
    · simp [hg, ih, List.replicate_succ]
    · simp [hg, ih]

/-- A delivery is begun once for an entity with a line that it is for, and for no other one. -/
theorem filter_errands {r : Router} {d : Delivery} {order : List Handle} {h : Handle}
    (horder : r.admits d order = true) (hknown : h ∈ r.writers) :
    ((order.map (·, d)).filter (·.1 = h)).map (·.2) = [d].filter (·.reaches h) := by
  rw [filter_map_pair]
  rw [Router.admits] at horder
  cases hd : d.recipient with
  | scene =>
    rw [hd] at horder
    have hperm := List.isPerm_iff.mp horder
    have hnodup : order.Nodup := hperm.nodup_iff.mpr Std.ExtTreeMap.nodup_keys
    have hmem : h ∈ order := hperm.mem_iff.mpr (Std.ExtTreeMap.mem_keys.mpr hknown)
    rw [hnodup.count, if_pos hmem]
    simp [Delivery.reaches, hd]
  | entity g =>
    rw [hd] at horder
    rw [beq_iff_eq.mp horder]
    by_cases hg : g = h <;> simp [Delivery.reaches, hd, hg]

theorem reaches_of_admits {r : Router} {d : Delivery} {order : List Handle} {h : Handle}
    (horder : r.admits d order = true) (hmem : h ∈ order) : d.reaches h = true := by
  rw [Router.admits] at horder
  rw [Delivery.reaches]
  cases hd : d.recipient with
  | scene => rfl
  | entity g =>
    rw [hd] at horder
    rw [beq_iff_eq.mp horder, List.mem_singleton] at hmem
    simp [hmem]

/-- What comes in hand was in hand before, or is begun for an entity that it is for. -/
theorem errands_perform {h : Handle} {d : Delivery} (herrand : (h, d) ∈ (s.perform move).errands) :
    (h, d) ∈ s.errands ∨ d.reaches h = true := by
  cases move with
  | send message =>
    rw [perform] at herrand
    split at herrand <;> exact Or.inl herrand
  | serve queue =>
    rw [perform] at herrand
    split at herrand
    · obtain ⟨-, hserve⟩ | ⟨message, rest, -, -, hserves⟩ := serve_cases s queue
      · exact Or.inl (hserve ▸ herrand)
      · exact Or.inl (hserves.errands ▸ herrand)
    · exact Or.inl herrand
  | begin order =>
    rw [perform] at herrand
    split at herrand
    · split at herrand
      · rename_i horder
        obtain ⟨g, hg, hpair⟩ := List.mem_map.mp herrand
        cases hpair
        exact Or.inr (reaches_of_admits horder hg)
      · exact Or.inl herrand
    · exact Or.inl herrand
  | tell =>
    rw [perform] at herrand
    split at herrand
    · rename_i herrands
      exact Or.inl (herrands ▸ List.mem_cons_of_mem _ herrand)
    · exact Or.inl herrand
  | stop =>
    rw [perform] at herrand
    split at herrand <;> exact Or.inl herrand
  | _ => exact Or.inl herrand

/-- What is in hand is for the entity for which it is written. -/
theorem reaches_of_mem_errands {h : Handle} {d : Delivery} (herrand : (h, d) ∈ (after scale past).errands) :
    d.reaches h = true := by
  induction past with
  | nil => cases herrand
  | cons move past ih =>
    obtain hbefore | hreaches := errands_perform herrand
    · exact ih hbefore
    · exact hreaches

/-- A move keeps what was written and what is still to be written in balance. -/
theorem balanced_perform {h : Handle} {line : LineId} {deeds : List Deed} (hlegal : Router.Legal deeds)
    (hrouter : s.board.router = Router.after scale deeds) (hb : Router.Balanced h line deeds (s.pending h))
    (move : Move) : Router.Balanced h line ((s.deed? move).toList ++ deeds) ((s.perform move).pending h) := by
  cases move with
  | connect => exact hb.connect hlegal
  | close l => exact hb.same rfl rfl rfl fun hattended => (Bool.and_eq_true_iff.mp hattended).2
  | hangUp l => exact hb.same rfl rfl rfl fun hattended => (Bool.and_eq_true_iff.mp hattended).2
  | read l => exact hb.same rfl rfl rfl id
  | send message =>
    rw [perform]
    split <;> exact hb
  | finish queue => exact hb
  | serve queue =>
    rw [perform, deed?]
    by_cases hrest : s.atRest = true
    · rw [if_pos hrest, if_pos hrest]
      obtain ⟨hnil, hserve⟩ | ⟨message, rest, hcons, -, hserves⟩ := serve_cases s queue
      · rw [hnil, hserve]
        exact hb
      · rw [pending_of_atRest hrest] at hb
        obtain ⟨hbatch, herrands⟩ := atRest_iff.mp hrest
        rw [hcons, pending, hserves.batch, hserves.errands, herrands]
        cases message with
        | registration g l =>
          rw [hbatch]
          exact hb.relined rfl rfl rfl
        | departure g =>
          rw [hbatch]
          exact hb.relined rfl rfl rfl
        | batch deliveries => exact hb.take deliveries
    · rw [if_neg hrest, if_neg hrest]
      exact hb
  | begin order =>
    rw [perform]
    split
    · rename_i d batch herrands hbatch
      split
      · rename_i horder
        refine hb.of_listens fun hlistens => ?_
        have hknown : h ∈ s.board.router.writers := by
          rw [Std.ExtTreeMap.mem_iff_isSome_getElem?, hrouter, ((Router.writers_iff_listens hlegal).mpr hlistens).1]
          rfl
        rw [pending, pending, herrands, hbatch, filter_errands horder hknown]
        exact List.filter_append (p := (·.reaches h)) [d] batch
      · exact hb
    · exact hb
  | tell =>
    rw [perform, deed?]
    cases herrands : s.errands with
    | nil => exact hb
    | cons errand errands =>
      obtain ⟨g, d⟩ := errand
      apply Router.Balanced.tell
      rw [pending, herrands] at hb
      by_cases hg : g = h
      · simpa [pending, withRouter, hg] using hb
      · simpa [pending, withRouter, hg] using hb
  | stop =>
    rw [perform, deed?]
    split
    · rename_i hstop
      have hpending := pending_of_atRest (Bool.and_eq_true_iff.mp hstop).1 h
      rw [hpending] at hb
      change Router.Balanced h line (.shut :: deeds) (s.pending h)
      rw [hpending]
      exact hb.relined rfl rfl rfl
    · exact hb

theorem balanced_after (scale : Scale) (h : Handle) (line : LineId) (past : List Move) :
    Router.Balanced h line (ledger scale past) ((after scale past).pending h) := by
  induction past with
  | nil =>
    constructor
    · exact List.nil_prefix
    · intro h
      cases h
  | cons move past ih => exact balanced_perform (legal_after scale past) (router_after scale past) ih move

/-- What was written on a line is for an entity for which the line was registered. -/
theorem addressed_after {line : LineId} {t : Handle × Delivery} (ht : t ∈ Router.told line (ledger scale past)) :
    t.2.reaches t.1 = true ∧ .register t.1 line ∈ ledger scale past := by
  induction past with
  | nil => cases ht
  | cons move past ih =>
    have hlater : t ∈ Router.told line (ledger scale past) →
        t.2.reaches t.1 = true ∧ .register t.1 line ∈ ledger scale (move :: past) := by
      intro ht
      exact ⟨(ih ht).1, List.mem_append_right _ (ih ht).2⟩
    rw [ledger] at ht
    cases hdeed : (after scale past).deed? move with
    | none => exact hlater (by rwa [hdeed] at ht)
    | some deed =>
      rw [hdeed] at ht
      cases deed with
      | tell g d =>
        rw [Option.toList_some, List.singleton_append, Router.told, List.mem_append] at ht
        obtain ht | ht := ht
        · exact hlater ht
        · split at ht
          · rename_i hlistens
            obtain rfl := List.mem_singleton.mp ht
            refine ⟨reaches_of_mem_errands (mem_errands_of_deed? hdeed), ?_⟩
            obtain ⟨hline, -⟩ := Router.listens_iff.mp hlistens
            exact List.mem_append_right _ (List.mem_of_find?_eq_some (Router.lineOf_eq_some_iff.mp hline))
          · cases ht
      | _ => exact hlater ht

/-- A line that was registered for one entity only got what was written for this one. -/
theorem own_after {h : Handle} {line : LineId} (hown : ∀ g, .register g line ∈ ledger scale past → g = h) :
    got scale line past = (Router.toldTo h line (ledger scale past)).map fun d => Wire.text scale d.event := by
  rw [texts_after, Router.toldTo, List.map_map, List.filter_eq_self.mpr]
  · rfl
  · intro t ht
    exact decide_eq_true (hown t.1 (addressed_after ht).2)

/-! ## The end -/

theorem isRunning_eq_false_iff {board : Switchboard} :
    board.isRunning = false ↔ ∀ q, board.isClosed q = true ∧ board.messages q = [] := by
  have hall : ∀ p : Queue → Prop, (∀ q, p q) ↔ p .registrations ∧ p .departures ∧ p .batches := by
    intro p
    exact ⟨fun h => ⟨h _, h _, h _⟩, fun h q => by cases q <;> simp [h]⟩
  rw [hall]
  simp only [Switchboard.isRunning, Switchboard.waiting, Switchboard.isClosed, Switchboard.messages, Bool.not_eq_false',
    Bool.and_eq_true, beq_iff_eq, Channel.toList, List.map_eq_nil_iff, Array.toList_eq_nil_iff,
    Nat.add_eq_zero_iff, Array.size_eq_zero_iff]
  tauto

/-- Whether there is nothing to do and nothing can come. -/
def Done (s : Exchange) : Prop :=
  s.atRest = true ∧ ∀ q, s.board.isClosed q = true ∧ s.board.messages q = []

theorem Done.perform (hs : s.Done) (move : Move) : (s.perform move).Done := by
  obtain ⟨hrest, hqueues⟩ := hs
  obtain ⟨hbatch, herrands⟩ := atRest_iff.mp hrest
  -- whatever the router becomes
  have hrouter : ∀ r, (s.withRouter r).Done := by
    intro r
    refine ⟨hrest, fun q => ?_⟩
    have hq := hqueues q
    cases q <;> exact hq
  cases move with
  | send message =>
    have hrefused : ¬s.accepts message = true := by
      intro haccepts
      have hclosed := (hqueues message.queue).1
      rw [accepts_isClosed haccepts] at hclosed
      cases hclosed
    rw [Exchange.perform, if_neg hrefused]
    exact ⟨hrest, hqueues⟩
  | finish queue =>
    refine ⟨hrest, fun q => ⟨?_, ?_⟩⟩
    · have hclosed := (hqueues q).1
      cases queue <;> cases q <;> first | rfl | exact hclosed
    · exact (Switchboard.messages_closeQueue q).trans (hqueues q).2
  | serve queue =>
    obtain ⟨-, hserve⟩ | ⟨message, rest, hcons, -, -⟩ := serve_cases s queue
    · rw [Exchange.perform, if_pos hrest, hserve]
      exact ⟨hrest, hqueues⟩
    · rw [(hqueues queue).2] at hcons
      cases hcons
  | begin order =>
    have hsame : s.perform (.begin order) = s := by
      rw [Exchange.perform, herrands, hbatch]
    rw [hsame]
    exact ⟨hrest, hqueues⟩
  | tell =>
    have hsame : s.perform .tell = s := by
      rw [Exchange.perform, herrands]
    rw [hsame]
    exact ⟨hrest, hqueues⟩
  | stop =>
    rw [Exchange.perform]
    split
    · exact hrouter _
    · exact ⟨hrest, hqueues⟩
  | _ => exact hrouter _

theorem stopped_perform (hmove : move ≠ .stop) : (s.perform move).stopped = s.stopped := by
  cases move with
  | send message =>
    rw [perform]
    split <;> rfl
  | serve queue =>
    rw [perform]
    split
    · obtain ⟨-, hserve⟩ | ⟨message, rest, -, -, hserves⟩ := serve_cases s queue
      · rw [hserve]
      · exact hserves.stopped
    · rfl
  | begin order =>
    rw [perform]
    split
    · split <;> rfl
    · rfl
  | tell =>
    rw [perform]
    split <;> rfl
  | stop => exact absurd rfl hmove
  | _ => rfl

/-- A router that stopped has nothing to do, and nothing can come. -/
theorem done_of_stopped (hstopped : (after scale past).stopped = true) : (after scale past).Done := by
  induction past with
  | nil => cases hstopped
  | cons move past ih =>
    rw [after] at hstopped ⊢
    by_cases hmove : move = .stop
    · subst hmove
      by_cases hstop : ((after scale past).atRest && !(after scale past).board.isRunning) = true
      · obtain ⟨hrest, hrunning⟩ := Bool.and_eq_true_iff.mp hstop
        exact Done.perform ⟨hrest, isRunning_eq_false_iff.mp (by simpa using hrunning)⟩ _
      · rw [perform, if_neg hstop] at hstopped ⊢
        exact ih hstopped
    · rw [stopped_perform hmove] at hstopped
      exact (ih hstopped).perform move

/-! ## Without disturbance -/

/-- Whether the router writes something of what is in hand. -/
def Move.writes : Move → Bool
  | .begin _ => true
  | .tell => true
  | _ => false

/-- The router with its queues once all in hand is written, if nobody does anything else before. -/
def outcome (s : Exchange) : Switchboard :=
  { s.board with
    router :=
      (s.errands.foldl (fun r errand => r.perform (.tell errand.1 errand.2)) s.board.router).deliverAll s.batch }

theorem outcome_perform (hwrites : move.writes = true) : (s.perform move).outcome = s.outcome := by
  cases move with
  | begin order =>
    rw [perform]
    split
    · rename_i d batch herrands hbatch
      split
      · rename_i horder
        rw [outcome, outcome, herrands, hbatch, List.foldl_map, Router.foldl_perform_of_admits horder]
        rfl
      · rfl
    · rfl
  | tell =>
    rw [perform]
    split
    · rename_i h d errands herrands
      rw [outcome, outcome, herrands]
      rfl
    · rfl
  | _ => cases hwrites

theorem outcome_of_atRest (hrest : s.atRest = true) : s.outcome = s.board := by
  obtain ⟨hbatch, herrands⟩ := atRest_iff.mp hrest
  rw [outcome, hbatch, herrands]
  rfl

/-- A batch that is taken and then written is served. -/
theorem outcome_serve {board : Switchboard} (hrest : s.atRest = true) (hserve : s.board.serve? .batches = some board) :
    (s.perform (.serve .batches)).outcome = board := by
  obtain ⟨-, herrands⟩ := atRest_iff.mp hrest
  rw [Switchboard.serve?, Option.map_eq_some_iff] at hserve
  obtain ⟨batch, hreceive, rfl⟩ := hserve
  rw [perform, if_pos hrest, serve, hreceive, outcome, herrands]
  rfl

/-- In whatever order a batch is written, the outcome is the same. -/
theorem board_of_writes {board : Switchboard} {moves : List Move} (hrest : (after scale past).atRest = true)
    (hserve : (after scale past).board.serve? .batches = some board) (hwrites : ∀ move ∈ moves, move.writes = true)
    (hdone : (after scale (moves ++ .serve .batches :: past)).atRest = true) :
    (after scale (moves ++ .serve .batches :: past)).board = board := by
  rw [← outcome_of_atRest hdone]
  clear hdone
  induction moves with
  | nil => exact outcome_serve hrest hserve
  | cons move moves ih =>
    exact (outcome_perform (hwrites move List.mem_cons_self)).trans
      (ih fun move hmove => hwrites move (List.mem_cons_of_mem _ hmove))

/-! ## What every line gets -/

/-- What is true after every history of moves. -/
structure Served (scale : Scale) (past : List Move) : Prop where
  /-- The router is as its deeds and those of its clients left it. -/
  router : (after scale past).board.router = Router.after scale (ledger scale past)
  /-- Each queue hands over what was sent on it, in the order in which it was sent. -/
  fifo : ∀ queue,
    (Router.received (ledger scale past)).filter (·.queue = queue) ++ (after scale past).board.messages queue =
      (sent scale past).filter (·.queue = queue)
  /-- A line got the texts of what was written on it while it was the open line of the entity for which it was written,
  in this order and each once. -/
  texts : ∀ line, got scale line past = (Router.told line (ledger scale past)).map fun t => Wire.text scale t.2.event
  /-- All of it is for an entity for which the line was registered: for the scene or for this entity alone. -/
  addressed : ∀ line, ∀ t ∈ Router.told line (ledger scale past),
    t.2.reaches t.1 = true ∧ .register t.1 line ∈ ledger scale past
  /-- A line that was registered for one entity only got what was written for this one. -/
  own : ∀ h line, (∀ g, .register g line ∈ ledger scale past → g = h) →
    got scale line past = (Router.toldTo h line (ledger scale past)).map fun d => Wire.text scale d.event
  /-- What was written for an entity is the first part of all that was for it in the batches that were taken while the
  line was its open one; as long as the client is there, only what is in hand is missing. -/
  balanced : ∀ h line, Router.Balanced h line (ledger scale past) ((after scale past).pending h)
  /-- What clients do at the ends of other lines changes nothing. -/
  undisturbed : ∀ line, Router.Alike line (Router.undisturbed line (ledger scale past)) (ledger scale past)
  /-- A closed line is dropped by what would be written there, and that is all. -/
  dropped : ∀ h line d, (after scale past).board.router.writers[h]? = some line →
    (after scale past).board.router.isOpen line = false →
    (after scale past).board.router.perform (.tell h d) = (after scale past).board.router.unregister h
  /-- A batch comes to the same, in whatever order its deliveries are written for the entities. -/
  orders : ∀ board moves, (after scale past).atRest = true → (after scale past).board.serve? .batches = some board →
    (∀ move ∈ moves, move.writes = true) → (after scale (moves ++ .serve .batches :: past)).atRest = true →
    (after scale (moves ++ .serve .batches :: past)).board = board
  /-- Once the router stopped, the queues are closed and empty, all that was sent on them was taken, and a line whose
  client is there got all that it should. -/
  stopped : (after scale past).stopped = true → (after scale past).Done ∧
    (∀ queue, (Router.received (ledger scale past)).filter (·.queue = queue) =
      (sent scale past).filter (·.queue = queue)) ∧
    ∀ h line, Router.attended line (ledger scale past) = true →
      Router.toldTo h line (ledger scale past) = Router.due h line (ledger scale past)

/-- **Every line gets what is for it.** Whatever clients, senders and the router do, in whatever order, and whenever a
line is closed. -/
theorem served_after (scale : Scale) (past : List Move) : Served scale past where
  router := router_after scale past
  fifo := fifo_after scale past
  texts line := texts_after scale line past
  addressed _ _ := addressed_after
  own _ _ := own_after
  balanced h line := balanced_after scale h line past
  undisturbed line := Router.alike_undisturbed line (ledger scale past)
  dropped _ _ _ := Router.tell_of_closed
  orders _ _ := board_of_writes
  stopped hstopped := by
    have hdone := done_of_stopped hstopped
    refine ⟨hdone, fun queue => ?_, fun h line hattended => ?_⟩
    · rw [← fifo_after, (hdone.2 queue).2, List.append_nil]
    · have hrest := (balanced_after scale h line past).rest hattended
      rwa [pending_of_atRest hdone.1, ite_self, List.append_nil] at hrest

end Exchange

end TileRealm
