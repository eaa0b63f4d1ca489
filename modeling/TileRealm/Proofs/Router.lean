import TileRealm.Proofs.Roster
import TileRealm.Router

/-!
# What is written on a line

A router and its clients act one after the other, in any order.  The deeds of the past tell who is at a line, whose
line it is and what was written on it; the router holds just that.

- `Router.Deed`, `Router.after`: a deed, and the router after a history of deeds, the latest first;
- `Router.lineOf`, `Router.attended`: whose line one is by the registrations, and whether its client is still there;
- `Router.told`, `Router.taken`: what was written on a line, and what of it no longer waits there;
- `Router.writers_iff_listens`: the router writes where it should;
- `Router.texts_after`: what left a line and what waits there is what was written on it.
-/

set_option autoImplicit false

namespace TileRealm

namespace Router

/-! ## Deeds -/

/-- Something that a client or the router does. -/
inductive Deed where
  /-- A client opens a new line. -/
  | connect
  /-- A client takes nothing more on a line, but can still read what waits there. -/
  | close (line : LineId)
  /-- A client goes away. -/
  | hangUp (line : LineId)
  /-- A client reads all that waits on a line. -/
  | read (line : LineId)
  | register (h : Handle) (line : LineId)
  | unregister (h : Handle)
  /-- The router takes a batch, of which nothing is written yet. -/
  | take (batch : List Delivery)
  /-- The router writes a delivery for one entity. -/
  | tell (h : Handle) (d : Delivery)
  | shut
deriving DecidableEq

/-- The router after a deed. -/
def perform (r : Router) : Deed → Router
  | .connect => r.connect.2
  | .close line => { r with lines := r.lines.modify line (·.close) }
  | .hangUp line => r.hangUp line
  | .read line => (r.read line).2
  | .register h line => r.register h line
  | .unregister h => r.unregister h
  | .take _ => r
  | .tell h d => r.tell h (Wire.text r.scale d.event)
  | .shut => r.shut

/-- Whether the entities with a line that a delivery is for are these, in any order. -/
def admits (r : Router) (d : Delivery) (order : List Handle) : Bool :=
  match d.recipient with
  | .scene => order.isPerm r.writers.keys
  | .entity h => order == [h]

/-- The texts that wait on a line. -/
def waiting (r : Router) (line : LineId) : List String :=
  ((r.lines[line]?).map (·.toList)).getD []

/-! ## Histories -/

section History

variable (scale : Scale) (h : Handle) (line : LineId)

/-- The router after a history of deeds, the latest first. -/
def after : List Deed → Router
  | [] => idle scale
  | deed :: past => (after past).perform deed

/-- The number of lines that were opened. -/
def connects : List Deed → Nat
  | [] => 0
  | .connect :: past => connects past + 1
  | _ :: past => connects past

/-- Whether a client is still at its end of a line. -/
def attended : List Deed → Bool
  | [] => false
  | .connect :: past => line == connects past || attended past
  | .close l :: past => l != line && attended past
  | .hangUp l :: past => l != line && attended past
  | _ :: past => attended past

/-- The line that an entity was given last, unless it was taken from it. -/
def lineOf : List Deed → Option LineId
  | [] => none
  | .register g l :: past => if g = h then some l else lineOf past
  | .unregister g :: past => if g = h then none else lineOf past
  | .shut :: _ => none
  | _ :: past => lineOf past

/-- Whether a line is that of an entity, with its client still there. -/
def listens (past : List Deed) : Bool :=
  lineOf h past == some line && attended line past

/-- What was written on a line: the deliveries, each with the entity for which it was. -/
def told : List Deed → List (Handle × Delivery)
  | [] => []
  | .tell g d :: past => told past ++ if listens g line past then [(g, d)] else []
  | _ :: past => told past

/-- What was written on a line for an entity. -/
def toldTo (past : List Deed) : List Delivery :=
  ((told line past).filter (·.1 = h)).map (·.2)

/-- The texts that no longer wait on a line: they were read, or lost when the client went away. -/
def taken : List Deed → List String
  | [] => []
  | .read l :: past => taken past ++ if l = line then (after scale past).waiting line else []
  | .hangUp l :: past => taken past ++ if l = line then (after scale past).waiting line else []
  | _ :: past => taken past

end History

/-- Whether only lines were registered that had been opened. -/
def Legal : List Deed → Prop
  | [] => True
  | .register _ line :: past => line < connects past ∧ Legal past
  | _ :: past => Legal past

variable {scale : Scale} {r : Router} {g h : Handle} {line l : LineId} {past : List Deed} {deed : Deed} {d : Delivery}

/-! ## The lines -/

section Lines

variable {f : Channel String → Channel String} {text : String}

theorem getElem?_modify {lines : Std.ExtTreeMap LineId (Channel String)} :
    (lines.modify l f)[line]? = if line = l then lines[line]?.map f else lines[line]? := by
  rw [Std.ExtTreeMap.getElem?_modify]
  by_cases hl : l = line
  · subst hl
    simp
  · simp [Std.LawfulEqCmp.compare_eq_iff_eq, hl, Ne.symm hl]

theorem isOpen_eq (r : Router) (line : LineId) : r.isOpen line = (r.lines[line]?).any (!·.closed) := by
  rw [isOpen]
  cases r.lines[line]? <;> rfl

theorem isOpen_modify (hf : ∀ c, (f c).closed = c.closed) :
    isOpen { r with lines := r.lines.modify l f } line = r.isOpen line := by
  simp only [isOpen_eq, getElem?_modify]
  split <;> cases r.lines[line]? <;> simp [hf]

theorem isOpen_modify_of_closed (hf : ∀ c, (f c).closed = true) :
    isOpen { r with lines := r.lines.modify l f } line = (l != line && r.isOpen line) := by
  simp only [isOpen_eq, getElem?_modify]
  by_cases hl : line = l
  · subst hl
    cases r.lines[line]? <;> simp [hf]
  · simp [hl, Ne.symm hl]

theorem waiting_modify_of_ne (hl : line ≠ l) :
    waiting { r with lines := r.lines.modify l f } line = r.waiting line := by
  simp only [waiting, getElem?_modify, if_neg hl]

theorem waiting_modify (hf : ∀ c, (f c).toList = c.toList) :
    waiting { r with lines := r.lines.modify l f } line = r.waiting line := by
  simp only [waiting, getElem?_modify]
  split <;> cases r.lines[line]? <;> simp [hf]

theorem waiting_modify_of_emptied (hf : ∀ c, (f c).toList = []) :
    waiting { r with lines := r.lines.modify line f } line = [] := by
  simp only [waiting, getElem?_modify, if_pos]
  cases r.lines[line]? <;> simp [hf]

theorem isOpen_write : (r.write text l).isOpen line = r.isOpen line := by
  apply isOpen_modify
  intro c
  cases hc : c.closed <;> simp [Channel.send, Channel.send?, hc]

theorem waiting_write (hopen : r.isOpen l = true) :
    (r.write text l).waiting line = r.waiting line ++ if l = line then [text] else [] := by
  by_cases hl : line = l
  · subst hl
    rw [isOpen_eq] at hopen
    cases hc : r.lines[line]? with
    | none => simp [hc] at hopen
    | some c =>
      have hclosed : c.closed = false := by simpa [hc] using hopen
      simp [waiting, write, hc, Channel.send, Channel.send?, hclosed, Channel.toList]
  · rw [write, waiting_modify_of_ne hl, if_neg (Ne.symm hl), List.append_nil]

theorem tell_of_none (hnone : r.writers[h]? = none) : r.tell h text = r := by
  simp only [tell, hnone]

theorem tell_of_open (hline : r.writers[h]? = some l) (hopen : r.isOpen l = true) :
    r.tell h text = r.write text l := by
  simp only [tell, hline, if_pos hopen]

theorem tell_of_closed (hline : r.writers[h]? = some l) (hclosed : r.isOpen l = false) :
    r.tell h text = r.unregister h := by
  simp only [tell, hline, hclosed, Bool.false_eq_true, if_false]

/-- What telling an entity something can do. -/
theorem tell_cases (r : Router) (h : Handle) (text : String) :
    r.tell h text = r ∨ (∃ l, r.tell h text = r.write text l) ∨ r.tell h text = r.unregister h := by
  cases hline : r.writers[h]? with
  | none => exact Or.inl (tell_of_none hline)
  | some l =>
    cases hopen : r.isOpen l with
    | true => exact Or.inr (Or.inl ⟨l, tell_of_open hline hopen⟩)
    | false => exact Or.inr (Or.inr (tell_of_closed hline hopen))

theorem scale_tell : (r.tell h text).scale = r.scale := by
  obtain htell | ⟨l, htell⟩ | htell := tell_cases r h text <;> rw [htell] <;> rfl

/-- Telling an entity something drops its line if that is closed. -/
theorem getElem?_writers_tell : (r.tell h text).writers[g]? =
    if g = h then r.writers[h]?.filter r.isOpen else r.writers[g]? := by
  cases hline : r.writers[h]? with
  | none =>
    rw [tell_of_none hline]
    by_cases hg : g = h <;> simp [hg, hline]
  | some l =>
    cases hopen : r.isOpen l with
    | true =>
      have hwriters : (r.tell h text).writers = r.writers := by
        rw [tell_of_open hline hopen]
        rfl
      by_cases hg : g = h <;> simp [hwriters, hg, hline, Option.filter_some, hopen]
    | false =>
      rw [tell_of_closed hline hopen, Option.filter_some, hopen, if_neg Bool.false_ne_true, unregister,
        Roster.getElem?_erase]

/-- Telling an entity something leaves open what was open. -/
theorem isOpen_tell : (r.tell h text).isOpen line = r.isOpen line := by
  obtain htell | ⟨l, htell⟩ | htell := tell_cases r h text <;> rw [htell]
  · exact isOpen_write
  · rfl

/-- Telling an entity something puts it on its line if that is open. -/
theorem waiting_tell : (r.tell h text).waiting line =
    r.waiting line ++ if r.writers[h]? = some line ∧ r.isOpen line = true then [text] else [] := by
  cases hline : r.writers[h]? with
  | none => simp [tell_of_none hline]
  | some l =>
    by_cases hl : l = line
    · subst hl
      cases hopen : r.isOpen l with
      | true => simp [tell_of_open hline hopen, waiting_write hopen]
      | false =>
        simp only [tell_of_closed hline hopen, Bool.false_eq_true, and_false, if_false, List.append_nil]
        rfl
    · rw [if_neg fun h => hl (Option.some.inj h.1), List.append_nil]
      cases hopen : r.isOpen l with
      | true => rw [tell_of_open hline hopen, waiting_write hopen, if_neg hl, List.append_nil]
      | false =>
        rw [tell_of_closed hline hopen]
        rfl

/-- No deed but that of a client who opens a line makes a line. -/
theorem lines_perform (hdeed : deed ≠ .connect) :
    (r.perform deed).lines = r.lines ∨ ∃ l f, (r.perform deed).lines = r.lines.modify l f := by
  cases deed with
  | connect => exact absurd rfl hdeed
  | close l => exact Or.inr ⟨_, _, rfl⟩
  | hangUp l => exact Or.inr ⟨_, _, rfl⟩
  | read l => exact Or.inr ⟨_, _, rfl⟩
  | register h l => exact Or.inl rfl
  | unregister h => exact Or.inl rfl
  | take batch => exact Or.inl rfl
  | tell h d =>
    obtain htell | ⟨l, htell⟩ | htell := tell_cases r h (Wire.text r.scale d.event) <;> rw [perform, htell]
    · exact Or.inl rfl
    · exact Or.inr ⟨_, _, rfl⟩
    · exact Or.inl rfl
  | shut => exact Or.inl rfl

end Lines

/-! ## What the router holds -/

theorem connects_cons (hdeed : deed ≠ .connect) : connects (deed :: past) = connects past := by
  cases deed <;> first | rfl | exact absurd rfl hdeed

/-- The lines are numbered in the order in which they were opened. -/
theorem numbered_after (scale : Scale) (past : List Deed) :
    (after scale past).lines.size = connects past ∧ ∀ l, l ∈ (after scale past).lines ↔ l < connects past := by
  induction past with
  | nil => exact ⟨rfl, fun l => ⟨fun h => absurd h Std.ExtTreeMap.not_mem_empty, fun h => absurd h (Nat.not_lt_zero l)⟩⟩
  | cons deed past ih =>
    obtain ⟨hsize, hmem⟩ := ih
    by_cases hdeed : deed = .connect
    · subst hdeed
      have hlines : (after scale (.connect :: past)).lines =
          (after scale past).lines.insert (connects past) .fresh := by
        rw [← hsize]
        rfl
      rw [hlines]
      constructor
      · have hfresh : (after scale past).lines.contains (connects past) = false := by
          rw [← Bool.not_eq_true, Std.ExtTreeMap.contains_iff_mem, hmem]
          exact Nat.lt_irrefl _
        rw [Std.ExtTreeMap.size_insert, hfresh, hsize]
        rfl
      · intro l
        rw [Std.ExtTreeMap.mem_insert, Std.LawfulEqCmp.compare_eq_iff_eq, hmem, connects, Nat.lt_succ_iff_lt_or_eq,
          or_comm, eq_comm]
    · rw [connects_cons hdeed, ← hsize, after]
      rcases lines_perform (r := after scale past) hdeed with hlines | ⟨l, f, hlines⟩
      · simp only [hlines, hmem, hsize, true_and, implies_true]
      · simp only [hlines, Std.ExtTreeMap.size_modify, Std.ExtTreeMap.mem_modify, hmem, hsize, true_and, implies_true]

/-- A line is open iff its client is still there. -/
theorem isOpen_after (scale : Scale) (line : LineId) (past : List Deed) :
    (after scale past).isOpen line = attended line past := by
  induction past with
  | nil => simp [after, idle, isOpen, attended]
  | cons deed past ih =>
    cases deed with
    | connect =>
      rw [attended, ← ih, ← (numbered_after scale past).1, after, isOpen_eq, isOpen_eq, perform, connect,
        Std.ExtTreeMap.getElem?_insert]
      by_cases hline : line = (after scale past).lines.size
      · simp [hline, Channel.fresh]
      · simp [Std.LawfulEqCmp.compare_eq_iff_eq, hline, Ne.symm hline]
    | close l => exact (isOpen_modify_of_closed fun _ => rfl).trans (congrArg (l != line && ·) ih)
    | hangUp l => exact (isOpen_modify_of_closed fun _ => rfl).trans (congrArg (l != line && ·) ih)
    | read l =>
      have hread : (after scale (.read l :: past)).isOpen line = (after scale past).isOpen line :=
        isOpen_modify (f := fun c => c.drain.2) fun _ => rfl
      exact hread.trans ih
    | register h l => exact ih
    | unregister h => exact ih
    | take batch => exact ih
    | tell h d => exact isOpen_tell.trans ih
    | shut => exact ih

theorem scale_after (scale : Scale) (past : List Deed) : (after scale past).scale = scale := by
  induction past with
  | nil => rfl
  | cons deed past ih =>
    cases deed with
    | tell h d => exact scale_tell.trans ih
    | _ => exact ih

/-- Only lines that were opened are given to an entity. -/
theorem lineOf_lt (hlegal : Legal past) (hline : lineOf h past = some line) : line < connects past := by
  induction past with
  | nil => cases hline
  | cons deed past ih =>
    cases deed with
    | register g l =>
      obtain ⟨hl, hlegal⟩ := hlegal
      rw [lineOf] at hline
      split at hline
      · exact Option.some.inj hline ▸ hl
      · exact ih hlegal hline
    | unregister g =>
      rw [lineOf] at hline
      split at hline
      · cases hline
      · exact ih hlegal hline
    | shut => cases hline
    | connect => exact Nat.lt_succ_of_lt (ih hlegal hline)
    | _ => exact ih hlegal hline

/-- Whether a deed settles whose line an entity has. -/
def settles (h : Handle) : Deed → Bool
  | .register g _ => g == h
  | .unregister g => g == h
  | .shut => true
  | _ => false

/-- The line of an entity is the one that it was given last, with nobody having taken it away since. -/
theorem lineOf_eq_some_iff : lineOf h past = some line ↔ past.find? (settles h) = some (.register h line) := by
  induction past with
  | nil => simp [lineOf]
  | cons deed past ih =>
    cases deed with
    | register g l => by_cases hg : g = h <;> simp [lineOf, settles, hg, ih]
    | unregister g => by_cases hg : g = h <;> simp [lineOf, settles, hg, ih]
    | _ => simp [lineOf, settles, ih]

theorem listens_iff : listens h line past = true ↔ lineOf h past = some line ∧ attended line past = true := by
  rw [listens, Bool.and_eq_true, beq_iff_eq]

/-- The router knows the line that an entity was given last, or none if its client is gone. -/
theorem writers_after (scale : Scale) (h : Handle) (hlegal : Legal past) :
    (after scale past).writers[h]? = lineOf h past ∨ (after scale past).writers[h]? = none ∧
      ∀ line, lineOf h past = some line → attended line past = false := by
  induction past with
  | nil => exact Or.inl (by simp [after, idle, lineOf])
  | cons deed past ih =>
    cases deed with
    | connect =>
      refine (ih hlegal).imp id (And.imp id fun hgone line hline => ?_)
      have hlt : line < connects past := lineOf_lt hlegal hline
      rw [attended, hgone line hline, beq_eq_false_iff_ne.mpr (Nat.ne_of_lt hlt)]
      rfl
    | close l =>
      refine (ih hlegal).imp id (And.imp id fun hgone line hline => ?_)
      rw [attended, hgone line hline, Bool.and_false]
    | hangUp l =>
      refine (ih hlegal).imp id (And.imp id fun hgone line hline => ?_)
      rw [attended, hgone line hline, Bool.and_false]
    | register g l =>
      rw [after, perform, register, Roster.getElem?_insert, lineOf]
      by_cases hg : g = h
      · rw [if_pos hg.symm, if_pos hg]
        exact Or.inl rfl
      · rw [if_neg (Ne.symm hg), if_neg hg]
        exact ih hlegal.2
    | unregister g =>
      rw [after, perform, unregister, Roster.getElem?_erase, lineOf]
      by_cases hg : g = h
      · rw [if_pos hg.symm, if_pos hg]
        exact Or.inl rfl
      · rw [if_neg (Ne.symm hg), if_neg hg]
        exact ih hlegal
    | shut => exact Or.inl (by simp [after, perform, shut, lineOf])
    | tell g d =>
      rw [after, perform, getElem?_writers_tell]
      by_cases hg : h = g
      · subst hg
        rw [if_pos rfl]
        obtain hknown | ⟨hnone, hgone⟩ := ih hlegal
        · rw [hknown]
          cases hline : lineOf h past with
          | none => exact Or.inl hline.symm
          | some line =>
            rw [Option.filter_some, isOpen_after]
            cases hopen : attended line past with
            | true => exact Or.inl hline.symm
            | false =>
              refine Or.inr ⟨rfl, fun l hl => ?_⟩
              cases hline.symm.trans hl
              exact hopen
        · rw [hnone]
          exact Or.inr ⟨rfl, hgone⟩
      · rw [if_neg hg]
        exact ih hlegal
    | _ => exact ih hlegal

/-- A line listens for an entity iff the router would write there what it tells the entity. -/
theorem writers_iff_listens (hlegal : Legal past) :
    (after scale past).writers[h]? = some line ∧ (after scale past).isOpen line = true ↔
      listens h line past = true := by
  rw [isOpen_after, listens_iff]
  obtain hknown | ⟨hnone, hgone⟩ := writers_after scale h hlegal
  · rw [hknown]
  · rw [hnone]
    constructor
    · rintro ⟨hline, -⟩
      cases hline
    · rintro ⟨hline, hopen⟩
      rw [hgone line hline] at hopen
      cases hopen

theorem waiting_connect (scale : Scale) (line : LineId) (past : List Deed) :
    (after scale (.connect :: past)).waiting line = (after scale past).waiting line := by
  obtain ⟨hsize, hmem⟩ := numbered_after scale past
  rw [after, perform, connect, waiting, waiting, Std.ExtTreeMap.getElem?_insert]
  by_cases hline : line = (after scale past).lines.size
  · have hnone : (after scale past).lines[line]? = none := by
      apply Std.ExtTreeMap.getElem?_eq_none
      rw [hmem, hline, hsize]
      exact Nat.lt_irrefl _
    rw [hnone, hline]
    simp [Channel.fresh, Channel.toList]
  · simp only [Std.LawfulEqCmp.compare_eq_iff_eq, Ne.symm hline, if_false]

/-- **What is written on a line.** What left a line and what still waits there are the texts that its history says,
each once and in their order. -/
theorem texts_after (hlegal : Legal past) : taken scale line past ++ (after scale past).waiting line =
    (told line past).map fun t => Wire.text scale t.2.event := by
  induction past with
  | nil => simp [taken, after, idle, waiting, told]
  | cons deed past ih =>
    -- a client who reads or hangs up moves what waits to what left
    have hemptied : ∀ (l : LineId) (f : Channel String → Channel String), (∀ c, (f c).toList = []) →
        (taken scale line past ++ if l = line then (after scale past).waiting line else []) ++
            waiting { after scale past with lines := (after scale past).lines.modify l f } line =
          taken scale line past ++ (after scale past).waiting line := by
      intro l f hf
      by_cases hl : l = line
      · subst hl
        rw [waiting_modify_of_emptied hf, if_pos rfl, List.append_nil]
      · rw [waiting_modify_of_ne (Ne.symm hl), if_neg hl, List.append_nil]
    cases deed with
    | connect =>
      rw [waiting_connect]
      exact ih hlegal
    | close l =>
      have hclose : (after scale (.close l :: past)).waiting line = (after scale past).waiting line :=
        waiting_modify fun _ => rfl
      rw [hclose]
      exact ih hlegal
    | hangUp l => exact (hemptied l _ fun _ => rfl).trans (ih hlegal)
    | read l => exact (hemptied l (fun c => c.drain.2) fun _ => rfl).trans (ih hlegal)
    | register h l => exact ih hlegal.2
    | tell h d =>
      have hknown : (after scale past).writers[h]? = some line ∧ (after scale past).isOpen line = true ↔
          listens h line past = true := writers_iff_listens hlegal
      have htaken : taken scale line (.tell h d :: past) = taken scale line past := rfl
      rw [after, perform, waiting_tell, scale_after, htaken, ← List.append_assoc, ih hlegal, told, List.map_append]
      by_cases hlistens : listens h line past = true
      · rw [if_pos (hknown.mpr hlistens), if_pos hlistens]
        rfl
      · rw [if_neg (hlistens ∘ hknown.mp), if_neg hlistens]
        rfl
    | _ => exact ih hlegal

end Router

end TileRealm
