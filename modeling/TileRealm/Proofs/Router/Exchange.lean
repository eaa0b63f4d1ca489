import TileRealm.Proofs.Router
import TileRealm.Router.Switchboard

/-!
# The router among its senders and clients

Senders put messages into the three queues, clients come, read and go, and the router takes one message after the
other, from whichever queue it likes; a batch is written one line at a time, and anything can happen in between.

- `Exchange.Move`, `Exchange.after`: what anybody does, and the state after a history of moves, the latest first;
- `Exchange.ledger`: what the router and its clients did in a history;
- `Exchange.sent`, `Exchange.got`: the messages that were sent, and the texts that a line got;
- `Exchange.fifo_after`: each queue hands over what was sent on it, in order;
- `Exchange.texts_after`: a line got what was written on it.
-/

set_option autoImplicit false

namespace TileRealm

open Router (Deed)
open Switchboard (Queue)

/-! ## Messages -/

/-- Something that is sent to the router. -/
inductive Message where
  | registration (h : Handle) (line : LineId)
  | departure (h : Handle)
  | batch (deliveries : List Delivery)
deriving DecidableEq

/-- The queue on which a message is sent. -/
def Message.queue : Message → Queue
  | registration _ _ => .registrations
  | departure _ => .departures
  | batch _ => .batches

/-- What the router does when it takes a message. -/
def Message.deed : Message → Deed
  | registration h line => .register h line
  | departure h => .unregister h
  | batch deliveries => .take deliveries

namespace Switchboard

/-- The messages that wait in a queue. -/
def messages (s : Switchboard) : Queue → List Message
  | .registrations => s.registrations.toList.map fun (h, line) => .registration h line
  | .departures => s.departures.toList.map .departure
  | .batches => s.batches.toList.map .batch

/-- A message is sent, unless its queue is closed. -/
def send? (s : Switchboard) : Message → Option Switchboard
  | .registration h line => s.register? h line
  | .departure h => s.unregister? h
  | .batch deliveries => s.post? deliveries

/-- A queue takes no more messages. -/
def closeQueue (s : Switchboard) : Queue → Switchboard
  | .registrations => { s with registrations := s.registrations.close }
  | .departures => { s with departures := s.departures.close }
  | .batches => { s with batches := s.batches.close }

/-- Whether a queue takes no more messages. -/
def isClosed (s : Switchboard) : Queue → Bool
  | .registrations => s.registrations.closed
  | .departures => s.departures.closed
  | .batches => s.batches.closed

end Switchboard

/-! ## The machine -/

/-- A router at work, with its queues. -/
structure Exchange where
  board : Switchboard
  /-- The deliveries of the batch in hand that were not begun. -/
  batch : List Delivery
  /-- For whom the delivery that was begun has still to be written. -/
  errands : List (Handle × Delivery)
  stopped : Bool

namespace Exchange

/-- What anybody does.  A move that is not possible changes nothing. -/
inductive Move where
  /-- A client opens a new line. -/
  | connect
  /-- A client takes nothing more on a line, but can still read what waits there. -/
  | close (line : LineId)
  /-- A client goes away. -/
  | hangUp (line : LineId)
  /-- A client reads all that waits on a line. -/
  | read (line : LineId)
  /-- A message is sent; a line must have been opened to be registered. -/
  | send (message : Message)
  /-- The senders of a queue are done. -/
  | finish (queue : Queue)
  /-- The router takes the first message of a queue, once the batch in hand is worked off. -/
  | serve (queue : Queue)
  /-- The router begins with the next delivery of the batch in hand, for these entities in this order. -/
  | begin (order : List Handle)
  /-- The router writes the delivery for the next entity. -/
  | tell
  /-- The router stops, if nothing waits and nothing can come. -/
  | stop
deriving DecidableEq

/-- Whether a message can be sent. -/
def accepts (s : Exchange) (message : Message) : Bool :=
  !s.board.isClosed message.queue &&
    match message with
    | .registration _ line => line < s.board.router.lines.size
    | _ => true

/-- Whether no batch is in hand. -/
def atRest (s : Exchange) : Bool :=
  s.batch.isEmpty && s.errands.isEmpty

/-- The same with another router. -/
def withRouter (s : Exchange) (r : Router) : Exchange :=
  { s with board := { s.board with router := r } }

/-- The router takes the first message of a queue.  A batch is only taken in hand. -/
def serve (s : Exchange) : Queue → Exchange
  | .batches =>
    match s.board.batches.receive.1 with
    | some batch => { s with board := { s.board with batches := s.board.batches.receive.2 }, batch := batch }
    | none => s
  | queue =>
    match s.board.serve? queue with
    | some board => { s with board := board }
    | none => s

/-- The state after a move. -/
def perform (s : Exchange) : Move → Exchange
  | .connect => s.withRouter (s.board.router.perform .connect)
  | .close line => s.withRouter (s.board.router.perform (.close line))
  | .hangUp line => s.withRouter (s.board.router.perform (.hangUp line))
  | .read line => s.withRouter (s.board.router.perform (.read line))
  | .send message =>
    if s.accepts message then { s with board := (s.board.send? message).getD s.board } else s
  | .finish queue => { s with board := s.board.closeQueue queue }
  | .serve queue => if s.atRest then s.serve queue else s
  | .begin order =>
    match s.errands, s.batch with
    | [], d :: batch =>
      if s.board.router.admits d order then { s with batch := batch, errands := order.map (·, d) } else s
    | _, _ => s
  | .tell =>
    match s.errands with
    | (h, d) :: errands => { s.withRouter (s.board.router.perform (.tell h d)) with errands := errands }
    | [] => s
  | .stop =>
    if s.atRest && !s.board.isRunning then
      { s.withRouter (s.board.router.perform .shut) with stopped := true }
    else s

/-- What a move means for the router and its clients. -/
def deed? (s : Exchange) : Move → Option Deed
  | .connect => some .connect
  | .close line => some (.close line)
  | .hangUp line => some (.hangUp line)
  | .read line => some (.read line)
  | .serve queue => if s.atRest then (s.board.messages queue).head?.map Message.deed else none
  | .tell => s.errands.head?.map fun (h, d) => .tell h d
  | .stop => if s.atRest && !s.board.isRunning then some .shut else none
  | _ => none

/-- The message that is sent by a move. -/
def sent? (s : Exchange) : Move → Option Message
  | .send message => if s.accepts message then some message else none
  | _ => none

/-! ## Histories -/

variable (scale : Scale)

/-- The state after a history of moves, the latest first. -/
def after : List Move → Exchange
  | [] => ⟨.idle scale, [], [], false⟩
  | move :: past => (after past).perform move

/-- What the router and its clients did, the latest first. -/
def ledger : List Move → List Deed
  | [] => []
  | move :: past => ((after scale past).deed? move).toList ++ ledger past

/-- The messages that were sent, the first one first. -/
def sent : List Move → List Message
  | [] => []
  | move :: past => sent past ++ ((after scale past).sent? move).toList

/-- The texts that a line got: those that were read, or lost with its client, and those that wait there. -/
def got (line : LineId) (past : List Move) : List String :=
  Router.taken scale line (ledger scale past) ++ (after scale past).board.router.waiting line

end Exchange

/-- The message that a deed was, if it was one. -/
def Router.Deed.message? : Deed → Option Message
  | .register h line => some (.registration h line)
  | .unregister h => some (.departure h)
  | .take batch => some (.batch batch)
  | _ => none

/-- The messages that were taken, the first one first. -/
def Router.received (past : List Deed) : List Message :=
  past.reverse.filterMap Deed.message?

/-! ## The queues -/

@[simp]
theorem Message.message?_deed (message : Message) : message.deed.message? = some message := by
  cases message <;> rfl

theorem Router.received_cons (deed : Deed) (past : List Deed) :
    received (deed :: past) = received past ++ deed.message?.toList := by
  rw [received, List.reverse_cons, List.filterMap_append]
  cases h : deed.message? <;> simp [received, h]

namespace Switchboard

variable {s s' : Switchboard} {message : Message} {queue : Queue}

theorem send?_eq_some (hopen : s.isClosed message.queue = false) : ∃ s', s.send? message = some s' ∧
    s'.router = s.router ∧ ∀ q, s'.messages q = s.messages q ++ if message.queue = q then [message] else [] := by
  cases message with
  | registration h line =>
    have hsend : s.registrations.send? (h, line) = some _ := if_neg (Bool.eq_false_iff.mp hopen)
    refine ⟨_, congrArg (Option.map _) hsend, rfl, fun q => ?_⟩
    cases q <;> simp [messages, Message.queue, Channel.toList]
  | departure h =>
    have hsend : s.departures.send? h = some _ := if_neg (Bool.eq_false_iff.mp hopen)
    refine ⟨_, congrArg (Option.map _) hsend, rfl, fun q => ?_⟩
    cases q <;> simp [messages, Message.queue, Channel.toList]
  | batch deliveries =>
    have hsend : s.batches.send? deliveries = some _ := if_neg (Bool.eq_false_iff.mp hopen)
    refine ⟨_, congrArg (Option.map _) hsend, rfl, fun q => ?_⟩
    cases q <;> simp [messages, Message.queue, Channel.toList]

theorem messages_closeQueue (q : Queue) : (s.closeQueue queue).messages q = s.messages q := by
  cases queue <;> cases q <;> rfl

end Switchboard

namespace Exchange

variable {scale : Scale} {s : Exchange} {move : Move} {past : List Move}

/-- What serving a queue does: nothing if it is empty, else what its first message asks for. -/
structure Serves (s s' : Exchange) (message : Message) (rest : List Message) : Prop where
  messages : ∀ q, s'.board.messages q = if q = message.queue then rest else s.board.messages q
  router : s'.board.router = s.board.router.perform message.deed
  isClosed : ∀ q, s'.board.isClosed q = s.board.isClosed q
  batch : s'.batch = match message with
    | .batch deliveries => deliveries
    | _ => s.batch
  errands : s'.errands = s.errands
  stopped : s'.stopped = s.stopped

theorem serve_cases (s : Exchange) (queue : Queue) : (s.board.messages queue = [] ∧ s.serve queue = s) ∨
    ∃ message rest, s.board.messages queue = message :: rest ∧ message.queue = queue ∧
      Serves s (s.serve queue) message rest := by
  cases queue with
  | registrations =>
    cases hw : s.board.registrations.toList with
    | nil => exact Or.inl (by simp [Switchboard.messages, serve, Switchboard.serve?, Channel.head?_receive, hw])
    | cons first rest =>
      refine Or.inr ⟨.registration first.1 first.2, rest.map fun (h, line) => .registration h line,
        by simp [Switchboard.messages, hw], rfl, ?_⟩
      have hserve : s.serve .registrations = { s with board := { s.board with
          router := s.board.router.register first.1 first.2, registrations := s.board.registrations.receive.2 } } := by
        simp [serve, Switchboard.serve?, Channel.head?_receive, hw]
      rw [hserve]
      refine ⟨fun q => ?_, rfl, fun q => ?_, rfl, rfl, rfl⟩
      · cases q <;> simp [Switchboard.messages, Message.queue, Channel.toList_receive, hw]
      · cases q <;> rfl
  | departures =>
    cases hw : s.board.departures.toList with
    | nil => exact Or.inl (by simp [Switchboard.messages, serve, Switchboard.serve?, Channel.head?_receive, hw])
    | cons first rest =>
      refine Or.inr ⟨.departure first, rest.map .departure, by simp [Switchboard.messages, hw], rfl, ?_⟩
      have hserve : s.serve .departures = { s with board := { s.board with
          router := s.board.router.unregister first, departures := s.board.departures.receive.2 } } := by
        simp [serve, Switchboard.serve?, Channel.head?_receive, hw]
      rw [hserve]
      refine ⟨fun q => ?_, rfl, fun q => ?_, rfl, rfl, rfl⟩
      · cases q <;> simp [Switchboard.messages, Message.queue, Channel.toList_receive, hw]
      · cases q <;> rfl
  | batches =>
    cases hw : s.board.batches.toList with
    | nil => exact Or.inl (by simp [Switchboard.messages, serve, Channel.head?_receive, hw])
    | cons first rest =>
      refine Or.inr ⟨.batch first, rest.map .batch, by simp [Switchboard.messages, hw], rfl, ?_⟩
      have hserve : s.serve .batches =
          { s with board := { s.board with batches := s.board.batches.receive.2 }, batch := first } := by
        simp [serve, Channel.head?_receive, hw]
      rw [hserve]
      refine ⟨fun q => ?_, rfl, fun q => ?_, rfl, rfl, rfl⟩
      · cases q <;> simp [Switchboard.messages, Message.queue, Channel.toList_receive, hw]
      · cases q <;> rfl

theorem accepts_isClosed {message : Message} (h : s.accepts message = true) :
    s.board.isClosed message.queue = false := by
  unfold accepts at h
  simpa using (Bool.and_eq_true_iff.mp h).1

/-- The router does what a move means for it, and nothing else. -/
theorem router_perform (s : Exchange) (move : Move) :
    (s.perform move).board.router = (s.deed? move).elim s.board.router s.board.router.perform := by
  cases move with
  | send message =>
    rw [perform]
    split
    · rename_i haccepts
      obtain ⟨board, hsend, hrouter, -⟩ := Switchboard.send?_eq_some (accepts_isClosed haccepts)
      rw [hsend]
      exact hrouter
    · rfl
  | finish queue => cases queue <;> rfl
  | serve queue =>
    rw [perform, deed?]
    split
    · obtain ⟨hnil, hserve⟩ | ⟨message, rest, hcons, -, hserves⟩ := serve_cases s queue
      · rw [hnil, hserve]
        rfl
      · rw [hcons]
        exact hserves.router
    · rfl
  | begin order =>
    rw [perform]
    split
    · split <;> rfl
    · rfl
  | tell =>
    rw [perform, deed?]
    cases s.errands <;> rfl
  | stop =>
    rw [perform, deed?]
    split <;> rfl
  | _ => rfl

theorem router_after (scale : Scale) (past : List Move) :
    (after scale past).board.router = Router.after scale (ledger scale past) := by
  induction past with
  | nil => rfl
  | cons move past ih =>
    rw [after, ledger, router_perform, ih]
    cases (after scale past).deed? move <;> rfl

@[simp]
theorem messages_withRouter (s : Exchange) (r : Router) (queue : Queue) :
    (s.withRouter r).board.messages queue = s.board.messages queue := by
  cases queue <;> rfl

/-- What waits after a move: a message that is sent is put behind, and one that is taken was in front. -/
theorem messages_perform (s : Exchange) (move : Move) (queue : Queue) :
    ((s.deed? move).bind Deed.message?).toList.filter (·.queue = queue) ++ (s.perform move).board.messages queue =
      s.board.messages queue ++ (s.sent? move).toList.filter (·.queue = queue) := by
  cases move with
  | send message =>
    simp only [perform, deed?, sent?]
    split
    · rename_i haccepts
      obtain ⟨board, hsend, -, hmessages⟩ := Switchboard.send?_eq_some (accepts_isClosed haccepts)
      rw [hsend, Option.getD_some, hmessages]
      by_cases hqueue : message.queue = queue <;> simp [hqueue]
    · simp
  | finish q => simp [deed?, sent?, perform, Switchboard.messages_closeQueue]
  | serve q =>
    simp only [perform, deed?, sent?]
    split
    · obtain ⟨hnil, hserve⟩ | ⟨message, rest, hcons, hqueue, hserves⟩ := serve_cases s q
      · simp [hnil, hserve]
      · rw [hcons, hserves.messages, hqueue]
        by_cases hq : queue = q
        · simp [hq, hcons, hqueue]
        · simp [hq, hqueue, Ne.symm hq]
    · simp
  | begin order =>
    have hboard : (s.perform (.begin order)).board = s.board := by
      rw [perform]
      split
      · split <;> rfl
      · rfl
    simp [hboard, deed?, sent?]
  | tell =>
    have hmessages : (s.perform .tell).board.messages queue = s.board.messages queue := by
      rw [perform]
      split
      · exact messages_withRouter s _ queue
      · rfl
    cases herrands : s.errands <;> simp [hmessages, deed?, sent?, herrands, Deed.message?]
  | stop =>
    simp only [perform, deed?, sent?]
    split
    · exact (messages_withRouter s (s.board.router.perform .shut) queue).trans (List.append_nil _).symm
    · simp
  | _ => simp [deed?, sent?, perform, Deed.message?]

/-- **First come, first served.** Each queue hands over what was sent on it, in the order in which it was sent. -/
theorem fifo_after (scale : Scale) (past : List Move) (queue : Queue) :
    (Router.received (ledger scale past)).filter (·.queue = queue) ++ (after scale past).board.messages queue =
      (sent scale past).filter (·.queue = queue) := by
  induction past with
  | nil => cases queue <;> rfl
  | cons move past ih =>
    have hreceived : Router.received (ledger scale (move :: past)) = Router.received (ledger scale past) ++
        (((after scale past).deed? move).bind Deed.message?).toList := by
      rw [ledger]
      cases (after scale past).deed? move <;> simp [Router.received_cons]
    rw [hreceived, List.filter_append, List.append_assoc, after, messages_perform, ← List.append_assoc, ih, sent,
      List.filter_append]

/-! ## What is registered -/

/-- Where a deed comes from: a message that is taken, what is in hand, the end, or a client. -/
theorem deed?_cases {deed : Deed} (hdeed : s.deed? move = some deed) :
    (∃ message, deed = message.deed ∧ move = .serve message.queue ∧ s.atRest = true ∧
      message ∈ s.board.messages message.queue) ∨
    (∃ h d, deed = .tell h d ∧ move = .tell ∧ (h, d) ∈ s.errands) ∨
    (deed = .shut ∧ move = .stop) ∨
    deed = .connect ∨ ∃ line, deed = .close line ∨ deed = .hangUp line ∨ deed = .read line := by
  cases move with
  | serve queue =>
    rw [deed?] at hdeed
    split at hdeed
    · rename_i hrest
      obtain ⟨hnil, -⟩ | ⟨message, rest, hcons, rfl, -⟩ := serve_cases s queue
      · rw [hnil] at hdeed
        cases hdeed
      · rw [hcons] at hdeed
        cases hdeed
        exact Or.inl ⟨message, rfl, rfl, hrest, hcons ▸ List.mem_cons_self⟩
    · cases hdeed
  | tell =>
    obtain ⟨errand, hhead, rfl⟩ := Option.map_eq_some_iff.mp hdeed
    exact Or.inr (Or.inl ⟨_, _, rfl, rfl, List.mem_of_head? hhead⟩)
  | stop =>
    rw [deed?] at hdeed
    split at hdeed <;> cases hdeed
    exact Or.inr (Or.inr (Or.inl ⟨rfl, rfl⟩))
  | _ => cases hdeed <;> simp

/-- A message is only taken from its queue, and with nothing in hand. -/
theorem serve_of_deed? {deed : Deed} {message : Message} (hdeed : s.deed? move = some deed)
    (hmessage : deed.message? = some message) :
    move = .serve message.queue ∧ s.atRest = true ∧ message ∈ s.board.messages message.queue := by
  obtain ⟨taken, rfl, hserve⟩ | ⟨h, d, rfl, -⟩ | ⟨rfl, -⟩ | rfl | ⟨line, rfl | rfl | rfl⟩ := deed?_cases hdeed
  · rw [Message.message?_deed, Option.some.injEq] at hmessage
    exact hmessage ▸ hserve
  all_goals cases hmessage

/-- Only what is in hand is written. -/
theorem mem_errands_of_deed? {h : Handle} {d : Delivery} (hdeed : s.deed? move = some (.tell h d)) :
    (h, d) ∈ s.errands := by
  obtain ⟨message, hmessage, -⟩ | ⟨g, e, htell, -, herrand⟩ | ⟨hshut, -⟩ | hconnect | ⟨line, hline | hline | hline⟩ :=
    deed?_cases hdeed
  · cases message <;> cases hmessage
  · cases htell
    exact herrand
  · cases hshut
  · cases hconnect
  all_goals cases hline

/-- Only a router that stops drops all lines. -/
theorem stop_of_deed? (hdeed : s.deed? move = some .shut) : move = .stop := by
  obtain ⟨message, hmessage, -⟩ | ⟨g, e, htell, -⟩ | ⟨-, hstop⟩ | hconnect | ⟨line, hline | hline | hline⟩ :=
    deed?_cases hdeed
  · cases message <;> cases hmessage
  · cases htell
  · exact hstop
  · cases hconnect
  all_goals cases hline

theorem connects_ledger_le (scale : Scale) (move : Move) (past : List Move) :
    Router.connects (ledger scale past) ≤ Router.connects (ledger scale (move :: past)) := by
  rw [ledger]
  cases (after scale past).deed? move with
  | none => exact Nat.le_refl _
  | some deed =>
    cases deed with
    | connect => exact Nat.le_succ _
    | _ => exact Nat.le_refl _

/-- Only lines that were opened are registered. -/
theorem lt_of_mem_sent {h : Handle} {line : LineId} (hsent : .registration h line ∈ sent scale past) :
    line < Router.connects (ledger scale past) := by
  induction past with
  | nil => cases hsent
  | cons move past ih =>
    apply Nat.lt_of_lt_of_le _ (connects_ledger_le scale move past)
    rw [sent, List.mem_append] at hsent
    obtain hsent | hsent := hsent
    · exact ih hsent
    · cases move with
      | send message =>
        rw [sent?] at hsent
        split at hsent
        · rename_i haccepts
          obtain rfl : message = .registration h line := by simpa [eq_comm] using hsent
          have hlt : line < (after scale past).board.router.lines.size := by
            simpa using (Bool.and_eq_true_iff.mp haccepts).2
          rwa [router_after, (Router.numbered_after _ _).1] at hlt
        · cases hsent
      | _ => cases hsent

theorem legal_after (scale : Scale) (past : List Move) : Router.Legal (ledger scale past) := by
  induction past with
  | nil => trivial
  | cons move past ih =>
    rw [ledger]
    cases hdeed : (after scale past).deed? move with
    | none => exact ih
    | some deed =>
      cases deed with
      | register h line =>
        refine ⟨?_, ih⟩
        have hwaits := (serve_of_deed? hdeed rfl).2.2
        have hsent : Message.registration h line ∈ (sent scale past).filter (·.queue = .registrations) := by
          rw [← fifo_after]
          exact List.mem_append_right _ hwaits
        exact lt_of_mem_sent (List.mem_filter.mp hsent).1
      | _ => exact ih

theorem texts_after (scale : Scale) (line : LineId) (past : List Move) :
    got scale line past = (Router.told line (ledger scale past)).map fun t => Wire.text scale t.2.event := by
  rw [got, router_after]
  exact Router.texts_after (legal_after scale past)

end Exchange

end TileRealm
