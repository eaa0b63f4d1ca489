import Mathlib.Algebra.Group.Nat.Defs
import TileRealm.Proofs.Ticker.Batch
import TileRealm.Service

/-!
# Why a server stops

A thread ticks until the last tick is made or a shutdown is under way, and then gives the tick limit as the reason.
Others give reasons at any moment, also between any two steps of the thread.

- `after`: a service after a history of moves, the latest first;
- `triggers`, `answers`: the reasons that were given, and who of those who gave them started the shutdown;
- `reason_after`, `getElem?_answers_after`: the first reason is recorded, and only the first call starts the shutdown;
- `steady_after`: the invariant of all histories, which ties the step at which the thread is to the ticks that it made;
- `cause_after`: the tick limit is the reason only of a shutdown after exactly so many ticks.
-/

set_option autoImplicit false

namespace TileRealm

/-! ## Ticks of a run -/

namespace Ticker

variable {t : Ticker} {clock : Nat → Nat} {stop : Nat → Bool}

theorem rules_obey (now : Nat) (t : Ticker) (c : Command) : (obey now t c).rules = t.rules := by
  cases c with
  | join | leave | report => rfl
  | attach m =>
    unfold obey
    dsimp only
    split <;> rfl

theorem rules_worked (t : Ticker) (now : Nat) : (t.worked now).rules = t.rules := by
  have hobeyed : (t.obeyed now).rules = t.rules :=
    List.foldlRecOn (motive := fun u : Ticker => u.rules = t.rules) t.mailbox.drain.1 (obey now) rfl fun u hu c _ =>
      (rules_obey now u c).trans hu
  exact List.foldlRecOn (motive := fun u : Ticker => u.rules = t.rules) (t.obeyed now).movers.values (drive now) hobeyed
    fun _ hu _ _ => hu

theorem rules_step (t : Ticker) (now : Nat) : (t.step now).2.rules = t.rules := by
  rw [step_eq]
  exact t.rules_worked now

theorem current_step (t : Ticker) (now : Nat) : (t.step now).2.current = t.current + 1 := by
  rw [step_eq]

theorem rules_after (t : Ticker) (beats : List Beat) : (t.after beats).rules = t.rules := by
  induction beats with
  | nil => rfl
  | cons b beats ih => exact (rules_step _ b.now).trans ih

theorem add_ofNat_zero (n : UInt64) : n + .ofNat 0 = n :=
  UInt64.add_zero n

theorem add_ofNat_succ (n : UInt64) (k : Nat) : n + .ofNat (k + 1) = n + 1 + .ofNat k := by
  rw [Nat.add_comm, UInt64.ofNat_add, ← UInt64.add_assoc]
  rfl

theorem current_after (t : Ticker) (beats : List Beat) : (t.after beats).current = t.current + .ofNat beats.length := by
  induction beats with
  | nil => exact (add_ofNat_zero _).symm
  | cons b beats ih =>
    have hmail : ((t.after beats).mail b.commands).current = (t.after beats).current := rfl
    rw [after, beat, current_step, hmail, ih, List.length_cons, add_ofNat_succ, UInt64.add_assoc, UInt64.add_assoc,
      UInt64.add_comm 1]

/-- A run makes `n` ticks if it is then over, and was not over before. -/
theorem current_runFrom {n asked turns : Nat} (hturns : n < turns)
    (hgo : ∀ k < n, t.rules.reached (t.current + .ofNat k) = false ∧ stop (asked + k) = false)
    (hover : t.rules.reached (t.current + .ofNat n) = true ∨ stop (asked + n) = true) :
    (runFrom clock stop turns asked t).2.current = t.current + .ofNat n := by
  induction n generalizing t asked turns with
  | zero =>
    obtain ⟨turns, rfl⟩ := Nat.exists_eq_succ_of_ne_zero (Nat.ne_of_gt hturns)
    rw [add_ofNat_zero, Nat.add_zero] at hover
    rw [runFrom, add_ofNat_zero]
    by_cases hlast : t.rules.reached t.current = true
    · rw [if_pos hlast]
    · rw [if_neg hlast, if_pos (hover.resolve_left hlast)]
  | succ n ih =>
    obtain ⟨turns, rfl⟩ := Nat.exists_eq_succ_of_ne_zero (Nat.ne_of_gt (Nat.zero_lt_of_lt hturns))
    obtain ⟨hlast, hstop⟩ := hgo 0 n.succ_pos
    rw [add_ofNat_zero] at hlast
    rw [Nat.add_zero] at hstop
    have hshift : ∀ k : Nat, asked + 1 + k = asked + (k + 1) := fun k => by omega
    have hnext := @ih (t.step (clock asked)).2 (asked + 1) turns (by omega)
    rw [rules_step, current_step] at hnext
    simp only [← add_ofNat_succ, hshift] at hnext
    rw [runFrom, if_neg (by simp [hlast]), if_neg (by simp [hstop])]
    exact hnext (fun k hk => hgo (k + 1) (by omega)) hover

end Ticker

/-! ## A thread that ticks -/

namespace Service

open Ticker (Beat)

/-- The service after a history of moves, the latest first. -/
def after (s : Service) : List Move → Service
  | [] => s
  | m :: past => (s.after past).perform m

/-- The reason that a move gives, if it gives one. -/
def given? (s : Service) : Move → Option StopReason
  | .trigger reason => some reason
  | .advance _ => if s.stage = .leaving then some .tickLimit else none

/-- All reasons that were given, the first one first. -/
def triggers (s : Service) : List Move → List StopReason
  | [] => []
  | m :: past => s.triggers past ++ ((s.after past).given? m).toList

/-- What those who gave the reasons were told: whether they started the shutdown. -/
def answers (s : Service) : List Move → List Bool
  | [] => []
  | m :: past => s.answers past ++
      ((s.after past).given? m).toList.map fun reason => ((s.after past).shutdown.trigger reason).1

/-- The ticks that were made, the latest first. -/
def beats (s : Service) : List Move → List Beat
  | [] => []
  | .trigger _ :: past => s.beats past
  | .advance b :: past => if (s.after past).stage = .ticking then b :: s.beats past else s.beats past

/-- What the thread was told each time it asked whether a shutdown is under way. -/
def replies (s : Service) : List Move → List Bool
  | [] => []
  | .trigger _ :: past => s.replies past
  | .advance _ :: past =>
    if (s.after past).stage = .asking then s.replies past ++ [(s.after past).shutdown.isDown] else s.replies past

variable {s : Service} {t : Ticker} {m : Move} {past : List Move} {reason : StopReason}

theorem after_append (s : Service) (later earlier : List Move) :
    s.after (later ++ earlier) = (s.after earlier).after later := by
  induction later with
  | nil => rfl
  | cons m later ih => rw [List.cons_append, after, after, ih]

/-! ## The recorded reason -/

/-- A move records the reason that it gives, unless there is one already. -/
theorem reason_perform (s : Service) (m : Move) :
    (s.perform m).shutdown.reason = s.shutdown.reason.or (s.given? m) := by
  cases m with
  | trigger reason => exact s.shutdown.reason_trigger reason
  | advance b =>
    cases hstage : s.stage with
    | leaving =>
      simp only [perform, advance, hstage, given?, if_true]
      exact s.shutdown.reason_trigger .tickLimit
    | counting | asking | ticking | gone => simp [perform, advance, hstage, given?]

/-- A recorded reason stays. -/
theorem reason_stays (hr : s.shutdown.reason = some reason) (later : List Move) :
    (s.after later).shutdown.reason = some reason := by
  induction later with
  | nil => exact hr
  | cons m later ih => rw [after, reason_perform, ih, Option.some_or]

/-- The recorded reason is the first that was given. -/
theorem reason_after (hs : s.shutdown.reason = none) (past : List Move) :
    (s.after past).shutdown.reason = (s.triggers past).head? := by
  induction past with
  | nil => exact hs
  | cons m past ih =>
    rw [after, reason_perform, ih, triggers, List.head?_append]
    cases (s.after past).given? m <;> rfl

/-- Who gives the first reason starts the shutdown, and nobody else does. -/
theorem getElem?_answers_after (hs : s.shutdown.reason = none) (past : List Move) (i : Nat) :
    (s.answers past)[i]? = (s.triggers past)[i]?.map fun _ => decide (i = 0) := by
  have hlength : ∀ past, (s.answers past).length = (s.triggers past).length := by
    intro past
    induction past with
    | nil => rfl
    | cons m past ih => simp [answers, triggers, ih]
  induction past with
  | nil => rfl
  | cons m past ih =>
    rw [answers, triggers, List.getElem?_append, List.getElem?_append, hlength]
    split
    · exact ih
    · rename_i hi
      rw [List.getElem?_map]
      cases hlast : ((s.after past).given? m).toList[i - (s.triggers past).length]? with
      | none => rfl
      | some reason =>
        have hzero : i = (s.triggers past).length := by
          have hlt := (List.getElem?_eq_some_iff.mp hlast).1
          cases hgiven : (s.after past).given? m <;> simp [hgiven] at hlt
          omega
        rw [Option.map_some, Option.map_some, Option.some.injEq, Bool.eq_iff_iff, Shutdown.trigger_eq_true_iff,
          reason_after hs, List.head?_eq_none_iff, decide_eq_true_eq, hzero, List.length_eq_zero_iff]

/-- A reason is given by somebody, or it is the tick limit and given by the thread as it leaves. -/
theorem mem_triggers (hr : reason ∈ s.triggers past) :
    .trigger reason ∈ past ∨ reason = .tickLimit ∧ (s.after past).stage = .gone := by
  induction past with
  | nil => cases hr
  | cons m past ih =>
    rw [triggers, List.mem_append, Option.mem_toList] at hr
    rcases hr with hr | hr
    · rcases ih hr with hsome | ⟨rfl, hgone⟩
      · exact Or.inl (List.mem_cons_of_mem m hsome)
      · refine Or.inr ⟨rfl, ?_⟩
        cases m with
        | trigger => exact hgone
        | advance b => simp [after, perform, advance, hgone]
    · cases m with
      | trigger reason' =>
        obtain rfl : reason' = reason := by simpa [given?] using hr
        exact Or.inl List.mem_cons_self
      | advance b =>
        simp only [given?] at hr
        split at hr
        · rename_i hleaving
          obtain rfl : StopReason.tickLimit = reason := by simpa using hr
          exact Or.inr ⟨rfl, by simp [after, perform, advance, hleaving]⟩
        · cases hr

/-! ## Where the thread is -/

/-- Somebody gave the reason for which a shutdown is under way. -/
def Down (s : Service) (past : List Move) : Prop :=
  ∃ reason, .trigger reason ∈ past ∧ (s.after past).shutdown.reason = some reason

theorem Down.cons (hd : s.Down past) (m : Move) : s.Down (m :: past) := by
  obtain ⟨reason, hmem, hr⟩ := hd
  exact ⟨reason, List.mem_cons_of_mem m hmem, reason_stays hr [m]⟩

/-- What the step at which the thread is says of the ticks that it made and of the replies that it got.  The ticks are
over because the last one was made, or because a shutdown was under way. -/
def Fits (rules : TickRules) (ticks : Nat) (replies : List Bool) (down : Prop) : Stage → Prop
  | .counting => replies = List.replicate ticks false
  | .asking => replies = List.replicate ticks false ∧ rules.reached (.ofNat ticks) = false
  | .ticking => replies = List.replicate (ticks + 1) false ∧ rules.reached (.ofNat ticks) = false
  | .leaving | .gone => replies = List.replicate ticks false ∧ rules.reached (.ofNat ticks) = true ∨
      replies = List.replicate ticks false ++ [true] ∧ down

/-- What is true of a service after every history of its moves, if its ticker did not tick before. -/
structure Steady (t : Ticker) (past : List Move) : Prop where
  ticker : ((start t).after past).ticker = t.after ((start t).beats past)
  /-- No tick was made after the last one. -/
  going : ∀ k < ((start t).beats past).length, t.rules.reached (.ofNat k) = false
  fits : Fits t.rules ((start t).beats past).length ((start t).replies past) ((start t).Down past)
    ((start t).after past).stage

/-- A move that is no tick only changes where the thread is. -/
theorem Steady.still (hs : Steady t past)
    (hticker : ((start t).after (m :: past)).ticker = ((start t).after past).ticker)
    (hbeats : (start t).beats (m :: past) = (start t).beats past)
    (hfits : Fits t.rules ((start t).beats past).length ((start t).replies (m :: past)) ((start t).Down (m :: past))
      ((start t).after (m :: past)).stage) : Steady t (m :: past) :=
  ⟨by rw [hticker, hbeats, hs.ticker], hbeats ▸ hs.going, hbeats ▸ hfits⟩

theorem Steady.trigger (hs : Steady t past) (reason : StopReason) : Steady t (.trigger reason :: past) := by
  refine hs.still rfl rfl ?_
  have hfits := hs.fits
  have hstage : ((start t).after (.trigger reason :: past)).stage = ((start t).after past).stage := rfl
  rw [hstage]
  cases hat : ((start t).after past).stage <;> rw [hat] at hfits
  case leaving | gone => exact hfits.imp_right fun h => ⟨h.1, h.2.cons _⟩
  all_goals exact hfits

theorem Steady.advance (ht : t.current = 0) (hs : Steady t past) (b : Beat) : Steady t (.advance b :: past) := by
  have hfits := hs.fits
  have hafter : (start t).after (.advance b :: past) = ((start t).after past).advance b := rfl
  cases hat : ((start t).after past).stage with
  | counting =>
    have hcurrent : ((start t).after past).ticker.current = .ofNat ((start t).beats past).length := by
      rw [hs.ticker, Ticker.current_after, ht, UInt64.zero_add]
    have hrules : ((start t).after past).ticker.rules = t.rules := by rw [hs.ticker, Ticker.rules_after]
    rw [Service.advance, hat, hrules, hcurrent] at hafter
    refine hs.still (by rw [hafter]) (by simp [beats, hat]) ?_
    rw [hat] at hfits
    rw [hafter, replies, hat, if_neg (by decide)]
    cases hlast : t.rules.reached (.ofNat ((start t).beats past).length) with
    | false => exact ⟨hfits, hlast⟩
    | true => exact Or.inl ⟨hfits, hlast⟩
  | asking =>
    rw [Service.advance, hat] at hafter
    refine hs.still (by rw [hafter]) (by simp [beats, hat]) ?_
    rw [hat] at hfits
    rw [hafter, replies, hat, if_pos rfl, hfits.1]
    cases hdown : ((start t).after past).shutdown.isDown with
    | false => exact ⟨List.replicate_succ'.symm, hfits.2⟩
    | true =>
      -- the thread did not leave yet, so it is not the thread that gave the reason
      obtain ⟨reason, hreason⟩ := Option.isSome_iff_exists.mp hdown
      have hmem : reason ∈ (start t).triggers past := by
        rw [reason_after (s := start t) rfl] at hreason
        exact List.mem_of_mem_head? hreason
      rcases mem_triggers hmem with hsome | ⟨-, hgone⟩
      · exact Or.inr ⟨rfl, Down.cons ⟨reason, hsome, hreason⟩ _⟩
      · rw [hat] at hgone
        cases hgone
  | ticking =>
    rw [Service.advance, hat] at hafter
    have hbeats : (start t).beats (.advance b :: past) = b :: (start t).beats past := by simp [beats, hat]
    rw [hat] at hfits
    refine ⟨?_, ?_, ?_⟩
    · rw [hafter, hbeats, hs.ticker]
      rfl
    · intro k hk
      rw [hbeats, List.length_cons] at hk
      rcases Nat.lt_succ_iff_lt_or_eq.mp hk with hk | rfl
      · exact hs.going k hk
      · exact hfits.2
    · rw [hafter, hbeats, replies, hat, if_neg (by decide)]
      exact hfits.1
  | leaving =>
    rw [Service.advance, hat] at hafter
    refine hs.still (by rw [hafter]) (by simp [beats, hat]) ?_
    rw [hat] at hfits
    have hgone : ((start t).after (.advance b :: past)).stage = .gone := by rw [hafter]
    rw [hgone, replies, hat, if_neg (by decide)]
    exact hfits.imp_right fun h => ⟨h.1, h.2.cons _⟩
  | gone =>
    rw [Service.advance, hat] at hafter
    refine hs.still (by rw [hafter]) (by simp [beats, hat]) ?_
    rw [hafter, replies, hat, if_neg (by decide)]
    rw [hat] at hfits
    exact hfits.imp_right fun h => ⟨h.1, h.2.cons _⟩

theorem steady_after (ht : t.current = 0) (past : List Move) : Steady t past := by
  induction past with
  | nil => exact ⟨rfl, fun k hk => absurd hk k.not_lt_zero, rfl⟩
  | cons m past ih =>
    cases m with
    | trigger reason => exact ih.trigger reason
    | advance b => exact ih.advance ht b

/-! ## What ends the ticks -/

/-- Ticks are over because the last one was made, or because somebody gave a reason. -/
theorem Steady.over (hs : Steady t past) (hover : ((start t).after past).isOver = true) :
    (start t).replies past = List.replicate ((start t).beats past).length false ∧
        t.rules.reached (.ofNat ((start t).beats past).length) = true ∨
      (start t).replies past = List.replicate ((start t).beats past).length false ++ [true] ∧ (start t).Down past := by
  have hfits := hs.fits
  rw [isOver] at hover
  cases hat : ((start t).after past).stage <;> simp [hat] at hover <;> rw [hat] at hfits <;> exact hfits

/-- There are never more ticks than the rules allow. -/
theorem Steady.ticks_le (hs : Steady t past) (hlimit : 0 < t.rules.maxTicks) :
    ((start t).beats past).length ≤ t.rules.maxTicks.toNat := by
  by_contra hmore
  have hreached := hs.going t.rules.maxTicks.toNat (by omega)
  simp [TickRules.reached, hlimit] at hreached

/-- Once the ticks are over, a run that gets the same replies has made as many. -/
theorem Steady.ticks_run (ht : t.current = 0) (hs : Steady t past) (hover : ((start t).after past).isOver = true)
    (clock : Nat → Nat) {turns : Nat} (hturns : ((start t).beats past).length < turns) :
    (t.run clock (fun n => ((start t).replies past)[n]?.getD false) turns).ticks =
      .ofNat ((start t).beats past).length := by
  have hrun : (t.runFrom clock (fun n => ((start t).replies past)[n]?.getD false) turns 0).2.current =
      t.current + .ofNat ((start t).beats past).length := Ticker.current_runFrom hturns ?_ ?_
  · rw [Ticker.run]
    simp only [hrun, ht, UInt64.zero_add, UInt64.sub_zero]
  · intro k hk
    simp only [ht, UInt64.zero_add, Nat.zero_add]
    refine ⟨hs.going k hk, ?_⟩
    rcases hs.over hover with ⟨hreplies, -⟩ | ⟨hreplies, -⟩
    · simp [hreplies, hk]
    · simp [hreplies, List.getElem?_append_left, hk]
  · simp only [ht, UInt64.zero_add, Nat.zero_add]
    rcases hs.over hover with ⟨-, hlast⟩ | ⟨hreplies, -⟩
    · exact Or.inl hlast
    · exact Or.inr (by simp [hreplies])

/-- **Why a server stops.** Reasons may be given at any moment, also between two steps of the thread that ticks.  Who
gives the first one is told so, and nobody else; it is recorded and stays.  The thread never makes more ticks than the
rules allow if they set a limit, and once the ticks are over, a run that gets the same replies returns how many were
made; without a limit they are counted in machine numbers.  If only the thread gives the tick limit as a reason, then it
is recorded only after exactly so many ticks.  Without a limit, the ticks are over only after somebody else gave the
reason. -/
theorem cause_after (rules : TickRules) (scene : Scene) (mailbox : Channel Command)
    (outbound : Option (Channel (List Delivery))) (past : List Move) :
    let t := { Ticker.create rules scene outbound with mailbox := mailbox }
    let s := (start t).after past
    let ticks := ((start t).beats past).length
    (∀ i, ((start t).answers past)[i]? = ((start t).triggers past)[i]?.map fun _ => decide (i = 0)) ∧
    s.shutdown.reason = ((start t).triggers past).head? ∧
    (∀ reason later, s.shutdown.reason = some reason → (s.after later).shutdown.reason = some reason) ∧
    (s.ticker = t.after ((start t).beats past) ∧ s.ticker.current.toNat = ticks % 2 ^ 64 ∧
      (0 < rules.maxTicks → ticks ≤ rules.maxTicks.toNat)) ∧
    (s.isOver = true → ∀ clock turns, ticks < turns →
      let returned := (t.run clock (fun n => ((start t).replies past)[n]?.getD false) turns).ticks
      returned.toNat = ticks % 2 ^ 64 ∧ (0 < rules.maxTicks → returned.toNat = ticks)) ∧
    (.trigger .tickLimit ∉ past → s.shutdown.reason = some .tickLimit →
      s.stage = .gone ∧ 0 < rules.maxTicks ∧ ticks = rules.maxTicks.toNat) ∧
    (rules.maxTicks = 0 → s.isOver = true → ∃ reason, .trigger reason ∈ past ∧ s.shutdown.reason = some reason) := by
  intro t s ticks
  have hs : Steady t past := steady_after rfl past
  have hreason : s.shutdown.reason = ((start t).triggers past).head? := reason_after rfl past
  have hcurrent : s.ticker.current.toNat = ticks % 2 ^ 64 := by
    rw [hs.ticker, Ticker.current_after]
    exact (congrArg UInt64.toNat (UInt64.zero_add _)).trans UInt64.toNat_ofNat'
  refine ⟨getElem?_answers_after rfl past, hreason, fun _ later hr => reason_stays hr later,
    ⟨hs.ticker, hcurrent, hs.ticks_le⟩, ?run, ?limit, ?unlimited⟩
  case run =>
    intro hover clock turns hturns
    have hreturned : (.ofNat ticks : UInt64).toNat = ticks % 2 ^ 64 := UInt64.toNat_ofNat'
    dsimp only
    rw [hs.ticks_run rfl hover clock hturns]
    refine ⟨hreturned, fun hlimit => hreturned.trans (Nat.mod_eq_of_lt ?_)⟩
    exact (hs.ticks_le hlimit).trans_lt rules.maxTicks.toNat_lt
  case limit =>
    intro hother hlimit
    have hmem : .tickLimit ∈ (start t).triggers past := List.mem_of_mem_head? (hreason ▸ hlimit)
    have hgone : s.stage = .gone := ((mem_triggers hmem).resolve_left hother).2
    have hover : s.isOver = true := by simp [isOver, hgone]
    rcases hs.over hover with ⟨-, hlast⟩ | ⟨-, reason, hsome, hr⟩
    · obtain ⟨hpos, hle⟩ := of_decide_eq_true hlast
      have hle' : rules.maxTicks.toNat ≤ ticks % 2 ^ 64 := UInt64.toNat_ofNat' ▸ UInt64.le_iff_toNat_le.mp hle
      exact ⟨hgone, hpos, Nat.le_antisymm (hs.ticks_le hpos) (hle'.trans (Nat.mod_le _ _))⟩
    -- a reason that somebody else gave first would still be recorded
    · obtain rfl : reason = .tickLimit := Option.some.inj (hr.symm.trans hlimit)
      exact absurd hsome hother
  case unlimited =>
    intro hzero hover
    rcases hs.over hover with ⟨-, hlast⟩ | ⟨-, hdown⟩
    · have hpos : 0 < rules.maxTicks := (of_decide_eq_true hlast).1
      rw [hzero] at hpos
      exact absurd hpos (by decide)
    · exact hdown

end Service

end TileRealm
