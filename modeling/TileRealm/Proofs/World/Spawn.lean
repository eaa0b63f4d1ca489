import TileRealm.Proofs.Scene.Answer
import TileRealm.Proofs.Scene.Registry
import TileRealm.Proofs.Terrain.Draws
import TileRealm.World

/-!
# Spawns among the obstacles

The obstacles of a generated terrain and the places to stand in its scene are drawn from the same random numbers.

- `Sampling`: the tiles that were looked at to find a place to stand, and the place;
- `Spawning`: the scenes that a new scene can become as long as tiles are only drawn from the whole map, with all
  samplings that were made;
- `Traced`: the samplings used up the first draws from the whole map (`Spawning.traced`);
- `missed_of_agree`: samplings that propose nothing but blocked tiles come to nothing;
- `spawns_on_centre`: as long as there are strewn tiles left, every spawn goes to the centre of the map.
-/

set_option autoImplicit false

namespace TileRealm

/-- No area to draw from, or one that has no tile: tiles are drawn from the whole map. -/
def Area.WholeMap (area : Option Area) : Prop :=
  ∀ a, area = some a → a.isValid = false

theorem Terrain.samplingArea_of_wholeMap (t : Terrain) {area : Option Area} (harea : Area.WholeMap area) :
    t.samplingArea area = t.bounds := by
  cases area with
  | none => rfl
  | some a =>
    rw [samplingArea, harea a rfl]
    rfl

/-! ## Samplings -/

/-- The tiles that were looked at to find a place to stand, and the place. -/
structure Sampling where
  proposals : List Tile
  place : Tile

namespace Sampling

/-- All tiles that were looked at. -/
def proposed (log : List Sampling) : List Tile :=
  log.flatMap Sampling.proposals

/-- All attempts were in vain. -/
structure Missed (t : Terrain) (attempts : Nat) (x : Sampling) : Prop where
  spent : x.proposals.length = attempts
  blocked : ∀ p ∈ x.proposals, t.walkable p = false
  place : x.place = t.centre

/-- No more tiles are looked at than allowed, and if none of them can be walked on all attempts were in vain. -/
structure Fair (t : Terrain) (attempts : Nat) (x : Sampling) : Prop where
  length_le : x.proposals.length ≤ attempts
  missed : (∀ p ∈ x.proposals, t.walkable p = false) → x.Missed t attempts

variable {t : Terrain} {attempts : Nat} {log : List Sampling} {blocked : List Tile}

/-- As long as blocked tiles are proposed, all attempts are in vain. -/
theorem missed_of_agree (hfair : ∀ x ∈ log, x.Fair t attempts) (hblocked : ∀ p ∈ blocked, t.walkable p = false)
    (hagree : ∀ i < blocked.length, i < (proposed log).length → (proposed log)[i]? = blocked[i]?) {j : Nat}
    (hj : j < blocked.length / attempts) {x : Sampling} (hx : log[j]? = some x) : x.Missed t attempts := by
  induction log generalizing blocked j with
  | nil => cases hx
  | cons y log ih =>
    obtain ⟨hy, hlog⟩ := List.forall_mem_cons.mp hfair
    have hcons : proposed (y :: log) = y.proposals ++ proposed log := List.flatMap_cons
    obtain ⟨hpos, hroom⟩ : 0 < attempts ∧ attempts ≤ blocked.length :=
      Nat.div_pos_iff.mp (Nat.lt_of_le_of_lt (Nat.zero_le j) hj)
    have hmissed : y.Missed t attempts := by
      refine hy.missed fun p hp => ?_
      obtain ⟨i, hi, rfl⟩ := List.mem_iff_getElem.mp hp
      have hlen := hy.length_le
      have hget := hagree i (by omega) (by rw [hcons, List.length_append]; omega)
      rw [hcons, List.getElem?_append_left hi, List.getElem?_eq_getElem hi] at hget
      exact hblocked _ (List.mem_of_getElem? hget.symm)
    cases j with
    | zero =>
      obtain rfl := Option.some.inj hx
      exact hmissed
    | succ j =>
      -- the tiles that are left are proposed to the others
      have hleft : ∀ p ∈ blocked.drop attempts, t.walkable p = false :=
        fun p hp => hblocked p (List.mem_of_mem_drop hp)
      refine ih hlog hleft ?_ ?_ hx
      · intro i hi hi'
        rw [List.length_drop] at hi
        have hget := hagree (attempts + i) (by omega) (by rw [hcons, List.length_append, hmissed.spent]; omega)
        rw [hcons, List.getElem?_append_right (by rw [hmissed.spent]; omega), hmissed.spent,
          Nat.add_sub_cancel_left] at hget
        rw [hget, List.getElem?_drop]
      · rw [Nat.div_eq_sub_div hpos hroom] at hj
        rw [List.length_drop]
        exact Nat.lt_of_succ_lt_succ hj

end Sampling

namespace Scene

variable {s s' : Scene} {area : Option Area}

/-- The tiles that a sample looks at, and the one that it gives. -/
def sampling (s : Scene) (area : Option Area) : Sampling where
  proposals := s.terrain.proposals (s.terrain.samplingArea area) s.spawnAttempts.toNat s.random
  place := (s.sample area).1

theorem fair_sampling (s : Scene) (area : Option Area) :
    (s.sampling area).Fair s.terrain s.spawnAttempts.toNat where
  length_le := Terrain.length_proposals_le _ _ _ _
  missed hblocked := by
    refine ⟨Terrain.length_proposals hblocked, hblocked, ?_⟩
    have hnone : (s.sampling area).proposals.find? s.terrain.walkable = none :=
      List.find?_eq_none.mpr fun p hp => by simp [hblocked p hp]
    rw [sampling] at hnone
    rw [sampling, sample, Terrain.sample, Terrain.sampleIn_eq, hnone, Option.getD_none]

/-- What became of a new scene, with all samplings: they used up the first draws from the whole map. -/
structure Traced (s₀ : Scene) (log : List Sampling) (s : Scene) : Prop where
  terrain : s.terrain = s₀.terrain
  attempts : s.spawnAttempts = s₀.spawnAttempts
  proposed : Sampling.proposed log = s₀.terrain.bounds.draws (Sampling.proposed log).length s₀.random
  random : s.random = s₀.terrain.bounds.skip (Sampling.proposed log).length s₀.random
  fair : ∀ x ∈ log, x.Fair s₀.terrain s₀.spawnAttempts.toNat

namespace Traced

variable {s₀ : Scene} {log : List Sampling} {d : Deed}

theorem fresh (s₀ : Scene) : s₀.Traced [] s₀ :=
  ⟨rfl, rfl, rfl, rfl, nofun⟩

/-- Whatever draws no tile changes nothing. -/
theorem perform (ht : s₀.Traced log s) (hd : (s.perform d).random = s.random) : s₀.Traced log (s.perform d) where
  terrain := (s.ground_perform d).2.trans ht.terrain
  attempts := (s.rest_perform d).limits.2.trans ht.attempts
  proposed := ht.proposed
  random := hd.trans ht.random
  fair := ht.fair

/-- A sample from the whole map goes on where the last one ended. -/
theorem sample (ht : s₀.Traced log s) (harea : Area.WholeMap area) :
    s₀.Traced (log ++ [s.sampling area]) (s.perform (.sample area)) := by
  have hproposed : Sampling.proposed (log ++ [s.sampling area]) =
      Sampling.proposed log ++ (s.sampling area).proposals := by
    simp [Sampling.proposed]
  have hproposals : (s.sampling area).proposals =
      s₀.terrain.bounds.draws (s.sampling area).proposals.length s.random := by
    rw [sampling, s.terrain.samplingArea_of_wholeMap harea, ht.terrain]
    exact Terrain.proposals_eq _ _ _ _
  have hrandom : (s.perform (.sample area)).random =
      s₀.terrain.bounds.skip (s.sampling area).proposals.length s.random := by
    rw [sampling, s.terrain.samplingArea_of_wholeMap harea, ht.terrain, Scene.perform, Scene.sample, Terrain.sample,
      s.terrain.samplingArea_of_wholeMap harea, ht.terrain, Terrain.sampleIn_eq]
  refine ⟨ht.terrain, ht.attempts, ?_, ?_, ?_⟩
  · rw [hproposed, List.length_append, Area.draws_add, ← ht.proposed, ← ht.random, ← hproposals]
  · rw [hproposed, List.length_append, Area.skip_add, ← ht.random, hrandom]
  · intro x hx
    rcases List.mem_append.mp hx with hx | hx
    · exact ht.fair x hx
    · obtain rfl := List.mem_singleton.mp hx
      exact ht.terrain ▸ ht.attempts ▸ s.fair_sampling area

end Traced

end Scene

namespace World

variable {settings : Settings} {kind : Kind} {name : String} {area : Option Area} {speed : UInt32} {issuer : Issuer}
  {s s₀ : Scene} {log : List Sampling} {h g : Handle} {pos : Tile} {e : Entity}

/-! ## Spawns -/

/-- A spawn is a sample and a join. -/
theorem spawn_scene (kind : Kind) (name : String) (area : Option Area) (speed : UInt32) (issuer : Issuer) (s : Scene) :
    (spawn kind name area speed issuer s).2.2 = (s.perform (.sample area)).perform
      (.join (.outside (issuer.issue kind).1 name (s.sample area).1 speed)) :=
  rfl

/-- Whoever is there stays where it is. -/
theorem entity?_spawn (he : s.entity? g = some e) : (spawn kind name area speed issuer s).2.2.entity? g = some e := by
  have he' : (s.perform (.sample area)).entity? g = some e := he
  rw [spawn_scene, Scene.perform_join]
  split
  · exact he'
  · rename_i hnew
    have hne : g ≠ (issuer.issue kind).1 := by
      rintro rfl
      exact hnew (Scene.contains_iff.mpr ⟨e, he'⟩)
    exact (Roster.getElem?_insert.trans (if_neg hne)).trans he'

theorem entity?_add (hadd : (s.add e).1 = .ok ()) :
    (s.add e).2.entity? e.handle = some { e with scene := some s.id } := by
  rw [Scene.add_eq] at hadd ⊢
  split at hadd
  · cases hadd
  · rename_i hnew
    rw [if_neg hnew]
    exact Roster.getElem?_insert.trans (if_pos rfl)

/-- The newcomer stands at the tile that was sampled. -/
theorem entity_of_spawn (hs : (spawn kind name area speed issuer s).1 = .ok (h, pos)) :
    pos = (s.sampling area).place ∧
      ∃ e, (spawn kind name area speed issuer s).2.2.entity? h = some e ∧ e.pos = (s.sampling area).place := by
  unfold spawn at hs ⊢
  dsimp only at hs ⊢
  cases hadd : ((s.sample area).2.add (.outside (issuer.issue kind).1 name (s.sample area).1 speed)).1 with
  | error =>
    rw [hadd] at hs
    cases hs
  | ok =>
    rw [hadd] at hs
    cases hs
    exact ⟨rfl, _, entity?_add hadd, rfl⟩

/-! ## Monsters -/

/-- The samplings that are made to place monsters. -/
def monsterSamplings (settings : Settings) : Nat → Nat → Issuer → Scene → List Sampling
  | 0, _, _, _ => []
  | count + 1, number, issuer, s =>
    let spawned := spawn .monster ("monster-" ++ toString number) settings.monsters.spawnArea settings.monsters.speed
      issuer s
    s.sampling settings.monsters.spawnArea :: monsterSamplings settings count (number + 1) spawned.2.1 spawned.2.2

theorem length_monsterSamplings (settings : Settings) (count number : Nat) (issuer : Issuer) (s : Scene) :
    (monsterSamplings settings count number issuer s).length = count := by
  induction count generalizing number issuer s with
  | zero => rfl
  | succ count ih => rw [monsterSamplings, List.length_cons, ih]

theorem spawnMonstersFrom_scene (settings : Settings) (count number : Nat) (issuer : Issuer) (s : Scene) :
    (spawnMonstersFrom settings (count + 1) number issuer s).2.2 =
      let spawned := spawn .monster ("monster-" ++ toString number) settings.monsters.spawnArea settings.monsters.speed
        issuer s
      (spawnMonstersFrom settings count (number + 1) spawned.2.1 spawned.2.2).2.2 := by
  rw [spawnMonstersFrom]
  dsimp only
  split <;> rfl

theorem entity?_spawnMonstersFrom {count number : Nat} (he : s.entity? g = some e) :
    (spawnMonstersFrom settings count number issuer s).2.2.entity? g = some e := by
  induction count generalizing number issuer s with
  | zero => exact he
  | succ count ih =>
    rw [spawnMonstersFrom_scene]
    exact ih (entity?_spawn he)

/-- Every mover is at home where its monster stands, at the place of one of the samplings. -/
theorem home_of_spawnMonstersFrom {count number : Nat} {m : Mover}
    (hm : m ∈ (spawnMonstersFrom settings count number issuer s).1) :
    ∃ x ∈ monsterSamplings settings count number issuer s, m.home = x.place ∧
      ∃ e, (spawnMonstersFrom settings count number issuer s).2.2.entity? m.handle = some e ∧ e.pos = x.place := by
  induction count generalizing number issuer s with
  | zero => cases hm
  | succ count ih =>
    rw [spawnMonstersFrom_scene, monsterSamplings]
    rw [spawnMonstersFrom] at hm
    have hfirst := @entity_of_spawn .monster ("monster-" ++ toString number) settings.monsters.spawnArea
      settings.monsters.speed issuer s
    dsimp only at hm ⊢
    generalize spawn .monster ("monster-" ++ toString number) settings.monsters.spawnArea settings.monsters.speed
      issuer s = spawned at hfirst hm ⊢
    obtain ⟨result, issuer, t⟩ := spawned
    have hlater : m ∈ (spawnMonstersFrom settings count (number + 1) issuer t).1 → _ := ih
    cases result with
    | error =>
      obtain ⟨x, hx, hhome⟩ := hlater hm
      exact ⟨x, List.mem_cons_of_mem _ hx, hhome⟩
    | ok first =>
      obtain ⟨h, home⟩ := first
      rcases List.mem_cons.mp hm with rfl | hm
      · obtain ⟨rfl, e, he, hpos⟩ := hfirst rfl
        exact ⟨_, List.mem_cons_self, rfl, e, entity?_spawnMonstersFrom he, hpos⟩
      · obtain ⟨x, hx, hhome⟩ := hlater hm
        exact ⟨x, List.mem_cons_of_mem _ hx, hhome⟩

/-! ## What becomes of a new scene -/

/-- What a new scene can become as long as tiles are only drawn from the whole map, and all samplings that are made. -/
inductive Spawning (s₀ : Scene) : List Sampling → Scene → Prop
  | fresh : Spawning s₀ [] s₀
  /-- Anything else may happen that draws no tile. -/
  | deed {log : List Sampling} {s : Scene} {d : Scene.Deed} : Spawning s₀ log s →
      (s.perform d).random = s.random → Spawning s₀ log (s.perform d)
  /-- So may anything at the other end of the feed. -/
  | feed {log : List Sampling} {s : Scene} {line : PositionFeed} : Spawning s₀ log s →
      Spawning s₀ log { s with feed := line }
  | sample {log : List Sampling} {s : Scene} {area : Option Area} : Spawning s₀ log s → Area.WholeMap area →
      Spawning s₀ (log ++ [s.sampling area]) (s.sample area).2
  | role {log : List Sampling} {s : Scene} {settings : Settings} {name : String} {speed : UInt32} {issuer : Issuer} :
      Spawning s₀ log s → Area.WholeMap settings.scene.spawnArea →
      Spawning s₀ (log ++ [s.sampling settings.scene.spawnArea]) (spawnRole settings name speed issuer s).2.2
  | monsters {log : List Sampling} {s : Scene} {settings : Settings} {issuer : Issuer} :
      Spawning s₀ log s → Area.WholeMap settings.monsters.spawnArea →
      Spawning s₀ (log ++ monsterSamplings settings settings.monsters.count.toNat 1 issuer s)
        (spawnMonsters settings issuer s).2.2

theorem traced_spawn (ht : s₀.Traced log s) (harea : Area.WholeMap area) :
    s₀.Traced (log ++ [s.sampling area]) (spawn kind name area speed issuer s).2.2 := by
  rw [spawn_scene]
  exact (ht.sample harea).perform ((Scene.rest_perform _ _).random nofun nofun)

theorem traced_monsters (ht : s₀.Traced log s) (harea : Area.WholeMap settings.monsters.spawnArea)
    (count number : Nat) : s₀.Traced (log ++ monsterSamplings settings count number issuer s)
      (spawnMonstersFrom settings count number issuer s).2.2 := by
  induction count generalizing log number issuer s with
  | zero =>
    rw [monsterSamplings, List.append_nil]
    exact ht
  | succ count ih =>
    rw [spawnMonstersFrom_scene, monsterSamplings, List.append_cons]
    exact ih (traced_spawn ht harea) _

theorem Spawning.traced (hs : Spawning s₀ log s) : s₀.Traced log s := by
  induction hs with
  | fresh => exact .fresh s₀
  | deed _ hd ih => exact ih.perform hd
  | feed _ ih => exact ⟨ih.terrain, ih.attempts, ih.proposed, ih.random, ih.fair⟩
  | sample _ harea ih => exact ih.sample harea
  | role _ harea ih => exact traced_spawn ih harea
  | monsters _ harea ih => exact traced_monsters ih harea _ _

/-- What samplings from the whole map come to while there are blocked tiles left to propose. -/
structure OnCentre (s₀ : Scene) (blocked : List Tile) (attempts : Nat) (log : List Sampling) (s : Scene) : Prop where
  /-- The tiles that are proposed are those that were blocked, in the same order. -/
  proposed : ∀ i < blocked.length, i < (Sampling.proposed log).length → (Sampling.proposed log)[i]? = blocked[i]?
  missed : ∀ j < blocked.length / attempts, ∀ x, log[j]? = some x → x.Missed s₀.terrain attempts
  sample : log.length < blocked.length / attempts → ∀ area, Area.WholeMap area →
    (s.sample area).1 = s₀.terrain.centre
  role : log.length < blocked.length / attempts → ∀ settings name speed issuer h,
    Area.WholeMap settings.scene.spawnArea → (spawnRole settings name speed issuer s).1 = .ok h →
    ∃ e, (spawnRole settings name speed issuer s).2.2.entity? h = some e ∧ e.pos = s₀.terrain.centre
  monsters : ∀ settings issuer, Area.WholeMap settings.monsters.spawnArea →
    log.length + settings.monsters.count.toNat ≤ blocked.length / attempts →
    ∀ m ∈ (spawnMonsters settings issuer s).1, m.home = s₀.terrain.centre ∧
      ∃ e, (spawnMonsters settings issuer s).2.2.entity? m.handle = some e ∧ e.pos = s₀.terrain.centre

theorem onCentre_of_missed {blocked : List Tile} {attempts : Nat}
    (hproposed : ∀ log s, Spawning s₀ log s → ∀ i < blocked.length, i < (Sampling.proposed log).length →
      (Sampling.proposed log)[i]? = blocked[i]?)
    (hmissed : ∀ log s, Spawning s₀ log s → ∀ j < blocked.length / attempts, ∀ x, log[j]? = some x →
      x.Missed s₀.terrain attempts) (hs : Spawning s₀ log s) : OnCentre s₀ blocked attempts log s := by
  have hnext : ∀ {area}, Area.WholeMap area → log.length < blocked.length / attempts →
      (s.sampling area).place = s₀.terrain.centre := by
    intro area harea hleft
    exact (hmissed _ _ (.sample hs harea) log.length hleft _ (by simp)).place
  refine
    { proposed := hproposed log s hs
      missed := hmissed log s hs
      sample := fun hleft area harea => hnext harea hleft
      role := ?role
      monsters := ?monsters }
  case role =>
    intro hleft settings name speed issuer h harea hrole
    have hmap : (spawn .role name settings.scene.spawnArea speed issuer s).1.map (·.1) = .ok h := hrole
    cases hspawn : (spawn .role name settings.scene.spawnArea speed issuer s).1 with
    | error =>
      rw [hspawn] at hmap
      cases hmap
    | ok p =>
      rw [hspawn] at hmap
      cases hmap
      obtain ⟨-, e, he, hpos⟩ := entity_of_spawn hspawn
      exact ⟨e, he, hpos.trans (hnext harea hleft)⟩
  case monsters =>
    intro settings issuer harea hleft m hm
    obtain ⟨x, hx, hhome, e, he, hpos⟩ := home_of_spawnMonstersFrom hm
    have hplace : x.place = s₀.terrain.centre := by
      obtain ⟨i, hi, rfl⟩ := List.mem_iff_getElem.mp hx
      have hcount := length_monsterSamplings settings settings.monsters.count.toNat 1 issuer s
      have hspawning : Spawning s₀ _ (spawnMonsters settings issuer s).2.2 := .monsters hs harea
      refine (hmissed _ _ hspawning (log.length + i) (by omega) _ ?_).place
      rw [List.getElem?_append_right (Nat.le_add_right _ _), Nat.add_sub_cancel_left, List.getElem?_eq_getElem hi]
    exact ⟨hhome.trans hplace, e, he, hpos.trans hplace⟩

/-- The scene of a generated terrain. -/
theorem scene_of_generated {files : String → FileContent} {feed : PositionFeed}
    (hgenerated : settings.scene.mapFile = none) (hscene : World.scene settings files feed = .ok s) :
    ∃ ground, Terrain.open? settings.scene.width settings.scene.height = .ok ground ∧
      s = .empty settings.sceneSetup (Terrain.strew (Terrain.obstacleCount settings.scene.width settings.scene.height
        settings.scene.ratio) ground (.seeded settings.scene.seed)).1 feed := by
  unfold World.scene World.terrain Terrain.generate at hscene
  dsimp only at hscene
  rw [hgenerated] at hscene
  cases hground : Terrain.open? settings.scene.width settings.scene.height with
  | error =>
    rw [hground] at hscene
    cases hscene
  | ok ground =>
    rw [hground] at hscene
    cases hscene
    exact ⟨ground, rfl, rfl⟩

/-- **Spawns from the whole map go to the centre of a generated one.** The obstacles are drawn from the same random
numbers as the places to stand.  So the tiles that are proposed first are just those that were blocked, and as long as
these last all attempts are in vain. -/
theorem spawns_on_centre (settings : Settings) (files : String → FileContent) (feed : PositionFeed)
    (hgenerated : settings.scene.mapFile = none) (hscene : World.scene settings files feed = .ok s₀) :
    ∃ ground, Terrain.open? settings.scene.width settings.scene.height = .ok ground ∧
      let count := Terrain.obstacleCount settings.scene.width settings.scene.height settings.scene.ratio
      let blocked := Terrain.strewn count ground (.seeded settings.scene.seed)
      blocked.length = count ∧ s₀.terrain = blocked.foldl (fun t p => t.set p false) ground ∧
        ∀ log s, Spawning s₀ log s → OnCentre s₀ blocked settings.scene.spawnAttempts.toNat log s := by
  obtain ⟨ground, hground, rfl⟩ := scene_of_generated hgenerated hscene
  generalize Terrain.obstacleCount settings.scene.width settings.scene.height settings.scene.ratio = count
  let s₀ : Scene := .empty settings.sceneSetup (Terrain.strew count ground (.seeded settings.scene.seed)).1 feed
  let blocked := Terrain.strewn count ground (.seeded settings.scene.seed)
  have hterrain : s₀.terrain = blocked.foldl (fun t p => t.set p false) ground :=
    congrArg Prod.fst (Terrain.strew_eq count ground (.seeded settings.scene.seed))
  have hdraws : blocked = s₀.terrain.bounds.draws count s₀.random := by
    rw [hterrain, Terrain.bounds_foldl_set]
    exact Terrain.strewn_eq count ground _
  have hlength : blocked.length = count := by rw [hdraws, Area.length_draws]
  -- the same draws are made again
  have hproposed : ∀ log s, Spawning s₀ log s → ∀ i < blocked.length, i < (Sampling.proposed log).length →
      (Sampling.proposed log)[i]? = blocked[i]? := by
    intro log s hs i hi hi'
    rw [hs.traced.proposed, hdraws]
    exact Area.getElem?_draws hi' (hlength ▸ hi)
  refine ⟨ground, hground, hlength, hterrain, fun log s hs => onCentre_of_missed hproposed ?_ hs⟩
  intro log s hs j hj x hx
  exact Sampling.missed_of_agree hs.traced.fair (fun p hp => Terrain.walkable_of_mem_strewn hp)
    (hproposed log s hs) hj hx

/-- Eight obstacles and two attempts: a player and two monsters go to the centre, which is blocked itself. -/
theorem spawns_on_centre_of_eight :
    let settings : Settings := {
      scene := {
        width := 4
        height := 4
        obstacleRatio := 0x3FE0000000000000
        seed := 3
        spawnArea := some ⟨3, 3, 3, 5⟩
        spawnAttempts := 2 }
      monsters := { count := 2 } }
    let ground : Terrain := ⟨4, 4, .dense (Array.replicate 16 true)⟩
    let s₀ := Scene.empty settings.sceneSetup (Terrain.strew 8 ground (.seeded 3)).1 .disconnected
    let s := (spawnRole settings "eve" 4 .fresh s₀).2.2
    settings.scene.mapFile = none ∧ World.scene settings (fun _ => .directory) .disconnected = .ok s₀ ∧
      s₀.terrain.walkable s₀.terrain.centre = false ∧
      ((spawnRole settings "eve" 4 .fresh s₀).1.toOption.bind s.entity?).map (·.pos) = some s₀.terrain.centre ∧
      (spawnMonsters settings .fresh s).1.length = 2 ∧
      ∀ m ∈ (spawnMonsters settings .fresh s).1, m.home = s₀.terrain.centre := by
  intro settings ground s₀ s
  have hcount : Terrain.obstacleCount settings.scene.width settings.scene.height settings.scene.ratio = 8 := by
    decide +kernel
  have hscene : World.scene settings (fun _ => .directory) .disconnected = .ok s₀ := by
    unfold World.scene World.terrain Terrain.generate
    dsimp only
    rw [hcount]
    rfl
  obtain ⟨_, -, hlength, -, hall⟩ := spawns_on_centre settings (fun _ => .directory) .disconnected rfl hscene
  rw [hcount] at hlength hall
  have harea : Area.WholeMap settings.scene.spawnArea := by
    rintro _ ⟨⟩
    rfl
  have hs : Spawning s₀ _ s := Spawning.role .fresh harea
  refine ⟨rfl, hscene, by decide +kernel, by decide +kernel, by decide +kernel, fun m hm => ?_⟩
  refine ((hall _ s hs).monsters settings .fresh nofun ?_ m hm).1
  rw [hlength]
  decide

end World

end TileRealm
