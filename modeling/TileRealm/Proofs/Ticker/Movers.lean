import TileRealm.Proofs.Mover.Tick
import TileRealm.Proofs.Ticker

/-!
# Movers and their entities

- `Filed`: every mover is kept under its own handle, so that movers are listed in the order of their handles;
- `movers_obey`: the movers after a command;
- `Manned`: every mover is kept under its own handle, and its entity is in the scene;
- `manned_obey`, `manned_worked`, `manned_step`: commands, movers and ticks keep this;
- `registers_after`: everything that a scene or a ticker keeps by handle is about those who are there.
-/

set_option autoImplicit false

namespace TileRealm

namespace Ticker

/-! ## Movers in their places -/

/-- Every mover is kept under its own handle. -/
def Filed (movers : Roster Mover) : Prop :=
  ∀ (h : Handle) (m : Mover), movers[h]? = some m → m.handle = h

namespace Filed

variable {movers : Roster Mover} {h : Handle} {m : Mover}

theorem insert (hf : Filed movers) (m : Mover) : Filed (movers.insert m.handle m) := by
  intro h n hn
  rw [Roster.getElem?_insert] at hn
  split at hn
  · rename_i hh
    cases hn
    exact hh.symm
  · exact hf h n hn

theorem erase (hf : Filed movers) (g : Handle) : Filed (movers.erase g) := by
  intro h m hm
  rw [Roster.getElem?_erase] at hm
  split at hm
  · cases hm
  · exact hf h m hm

/-- Movers are listed in the order of their handles. -/
theorem ascending (hf : Filed movers) : (movers.values.map Mover.handle).Pairwise fun a b => a.raw < b.raw := by
  have hkeys : movers.values.map Mover.handle = movers.toList.map (·.1) := by
    rw [Roster.values_eq, List.map_map]
    apply List.map_congr_left
    rintro ⟨h, m⟩ hm
    exact hf h m (Std.ExtTreeMap.mem_toList_iff_getElem?_eq_some.mp hm)
  rw [hkeys, List.pairwise_map]
  exact Std.ExtTreeMap.ordered_keys_toList.imp Handle.compare_lt_iff.mp

theorem nodup (hf : Filed movers) : (movers.values.map Mover.handle).Nodup := by
  apply hf.ascending.imp
  rintro a b hab rfl
  exact UInt64.lt_irrefl _ hab

theorem getElem?_iff (hf : Filed movers) : movers[h]? = some m ↔ m.handle = h ∧ m ∈ movers.values := by
  rw [Roster.mem_values]
  constructor
  · intro hm
    exact ⟨hf h m hm, h, hm⟩
  · rintro ⟨rfl, g, hm⟩
    rw [hf g m hm, hm]

end Filed

variable {t : Ticker} {now : Nat}

/-- The movers after a command: one is handed over if its entity is there, and is gone when its entity leaves. -/
theorem movers_obey (now : Nat) (t : Ticker) (c : Command) : (obey now t c).movers =
    match c with
    | .attach m => if t.scene.contains m.handle then t.movers.insert m.handle m else t.movers
    | .leave h => t.movers.erase h
    | .join _ | .report _ _ => t.movers := by
  cases c with
  | join | leave | report => rfl
  | attach m =>
    unfold obey
    dsimp only
    split <;> rfl

theorem filed_obey (ht : Filed t.movers) (c : Command) : Filed (obey now t c).movers := by
  rw [movers_obey]
  cases c with
  | join => exact ht
  | leave h => exact ht.erase h
  | report => exact ht
  | attach m =>
    dsimp only
    split
    · exact ht.insert m
    · exact ht

theorem filed_obeyed (ht : Filed t.movers) (now : Nat) : Filed (t.obeyed now).movers := by
  have hstart : Filed ({ t with mailbox := t.mailbox.drain.2 } : Ticker).movers := ht
  exact List.foldlRecOn (motive := fun u => Filed u.movers) t.mailbox.drain.1 (obey now) hstart fun _ hu c _ =>
    filed_obey hu c

theorem filed_worked (ht : Filed t.movers) (now : Nat) : Filed (t.worked now).movers :=
  List.foldlRecOn (motive := fun u => Filed u.movers) (t.obeyed now).movers.values (drive now) (filed_obeyed ht now)
    fun u hu m _ => hu.insert (m.tick u.scene now).2.1

/-- Every mover is kept under its own handle, and its entity is there. -/
def Manned (t : Ticker) : Prop :=
  ∀ h m, t.movers[h]? = some m → m.handle = h ∧ t.scene.contains h = true

/-! ## Ticks keep movers and entities together -/

theorem manned_obey (ht : t.Manned) (c : Command) : (obey now t c).Manned := by
  have hscene := scene_obey now t c
  cases c with
  | join e =>
    have hmovers : (obey now t (.join e)).movers = t.movers := movers_obey now t (.join e)
    intro h m hm
    obtain ⟨hh, hc⟩ := ht h m (hmovers ▸ hm)
    rw [hscene, Command.deeds, List.foldl_cons, List.foldl_nil, Scene.contains_perform, hc]
    exact ⟨hh, rfl⟩
  | leave g =>
    have hmovers : (obey now t (.leave g)).movers = t.movers.erase g := movers_obey now t (.leave g)
    intro h m hm
    rw [hmovers, Roster.getElem?_erase] at hm
    split at hm
    · cases hm
    · rename_i hne
      obtain ⟨hh, hc⟩ := ht h m hm
      rw [hscene, Command.deeds, List.foldl_cons, List.foldl_nil, Scene.contains_perform, hc]
      simp [hh, Scene.dismisses, Ne.symm hne]
  | report g report =>
    intro h m hm
    obtain ⟨hh, hc⟩ := ht h m hm
    rw [hscene, Command.deeds, List.foldl_cons, List.foldl_nil, Scene.contains_perform, hc]
    exact ⟨hh, rfl⟩
  | attach n =>
    unfold obey
    dsimp only
    split
    · rename_i hn
      intro h m hm
      rw [Roster.getElem?_insert] at hm
      split at hm
      · rename_i hh
        cases hm
        exact ⟨hh.symm, hh ▸ hn⟩
      · exact ht h m hm
    · exact ht

/-- A mover acts, and nobody comes or goes. -/
theorem contains_drive (t : Ticker) (now : Nat) (m : Mover) (h : Handle) :
    (drive now t m).scene.contains h = t.scene.contains h := by
  have hscene : (drive now t m).scene = t.scene.perform (.drive m now) := rfl
  rw [hscene, Scene.contains_perform]
  simp [Scene.admits, Scene.dismisses]

theorem manned_drive (ht : t.Manned) {m : Mover} (hm : t.scene.contains m.handle = true) :
    (drive now t m).Manned := by
  intro h n hn
  rw [contains_drive]
  have hhandle := (m.heir_tick t.scene now).handle
  simp only [drive, Roster.getElem?_insert] at hn
  split at hn
  · rename_i hh
    cases hn
    exact ⟨hh.symm, by rw [hh, hhandle, hm]⟩
  · exact ht h n hn

theorem manned_foldl_drive (movers : List Mover) (ht : t.Manned)
    (hm : ∀ m ∈ movers, t.scene.contains m.handle = true) : (movers.foldl (drive now) t).Manned := by
  induction movers generalizing t with
  | nil => exact ht
  | cons m movers ih =>
    apply ih (manned_drive ht (hm m List.mem_cons_self))
    intro n hn
    rw [contains_drive]
    exact hm n (List.mem_cons_of_mem m hn)

theorem manned_worked (ht : t.Manned) (now : Nat) : (t.worked now).Manned := by
  have hobeyed : (t.obeyed now).Manned :=
    List.foldlRecOn (motive := Manned) t.mailbox.drain.1 (obey now) ht fun _ hu c _ => manned_obey hu c
  apply manned_foldl_drive _ hobeyed
  intro m hm
  obtain ⟨h, hh⟩ := Roster.mem_values.mp hm
  obtain ⟨hhandle, hc⟩ := hobeyed h m hh
  rw [hhandle, hc]

theorem manned_step (ht : t.Manned) (now : Nat) : (t.step now).2.Manned := by
  have hpost (u : Ticker) (batch : List Delivery) : (u.post batch).movers = u.movers := by rw [post_eq]
  have hmovers : (t.step now).2.movers = (t.worked now).movers := hpost _ _
  have hcontains : ∀ h, (t.step now).2.scene.contains h = (t.worked now).scene.contains h := by
    intro h
    rw [scene_step, deeds, Scene.after_append, ← scene_worked]
    simp only [Scene.after, Scene.contains_perform, Scene.admits, Scene.dismisses, Bool.or_false, Bool.not_false,
      Bool.and_true]
  intro h m hm
  rw [hcontains]
  exact manned_worked ht now h m (hmovers ▸ hm)

theorem manned_after (ht : t.Manned) (beats : List Beat) : (t.after beats).Manned := by
  induction beats with
  | nil => exact ht
  | cons b beats ih =>
    have hmail : ((t.after beats).mail b.commands).Manned := ih
    exact manned_step hmail b.now

/-- **Everything that is kept by handle is about those who are there.** After every history of a scene, its entities,
its visibility and its sessions are about the same handles, at the same places, which are those where the entities
joined or tiles that can be walked on.  After every run of a ticker this holds of its scene, whose movers drive
entities that are there. -/
theorem registers_after (rules : TickRules) (setup : SceneSetup) (terrain : Terrain) (feed : PositionFeed)
    (outbound : Option (Channel (List Delivery))) :
    let s := Scene.empty setup terrain feed
    let t := create rules s outbound
    (∀ past, (s.after past).Registered setup terrain (s.arrival · past)) ∧
    ∀ beats, (t.after beats).scene = s.after (t.ledger beats) ∧
      (t.after beats).scene.Registered setup terrain (s.arrival · (t.ledger beats)) ∧ (t.after beats).Manned := by
  intro s t
  have hregistered : ∀ past, (s.after past).Registered setup terrain (s.arrival · past) :=
    Scene.registered_after setup terrain feed
  have hnobody : t.Manned := by simp [Manned, t, create]
  refine ⟨hregistered, fun beats => ?_⟩
  have hscene : (t.after beats).scene = s.after (t.ledger beats) := scene_after t beats
  rw [hscene]
  exact ⟨rfl, hregistered _, manned_after hnobody beats⟩

end Ticker

end TileRealm
