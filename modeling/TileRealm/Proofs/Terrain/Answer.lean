import Mathlib.Data.Set.Card
import TileRealm.Proofs.Terrain.Store
import TileRealm.Route.Planner

/-!
# What terrain answers

Terrain is asked about tiles, changed tile by tile, and asked again.  What it answers does not depend on the store.

- `Terrain.answers`, `Terrain.after`: the answers to requests that are made one after the other, and the terrain after
  them;
- `Terrain.walkableCount_eq_countP`, `Terrain.ncard_walkable`: both ways of counting give the number of the tiles that
  can be walked on;
- `Terrain.Alike`, `Terrain.Alike.answer`, `Terrain.Alike.obey`: terrains that say the same of every tile answer every
  request alike and stay alike, whatever their stores are (`Terrain.Alike.answers`);
- `Terrain.Lawful`: a terrain behaves like a function from tiles to truth values;
- `Terrain.answers_of_stores`: so values in full and values packed into words cannot be told apart.
-/

set_option autoImplicit false

namespace TileRealm

open TileRealm.Random (Stream)

/-! ## Requests -/

/-- What terrain can be asked or told. -/
inductive Request where
  | set (p : Tile) (value : Bool)
  | walkableAt (x y : Int)
  | walkable (p : Tile)
  | inBounds (x y : Int)
  | walkableCount
  | centre
  | sample (area : Option Area) (attempts : Nat) (s : Stream)
  | plan (limits : Limits) (algorithm : Algorithm) (start goal : Tile)

/-- What it answers. -/
inductive Answer where
  | flag (value : Bool)
  | count (n : Nat)
  | tile (p : Tile)
  | drawn (p : Tile) (rest : Stream)
  | plan (p : Plan)
deriving DecidableEq

namespace Terrain

variable {t u : Terrain} {p q : Tile} {x y : Int} {i : Nat} {requests : List Request}

/-- The answer to a request; a change tells whether there is such a tile. -/
def answer (t : Terrain) : Request → Answer
  | .set p value => .flag (t.set? p value).isSome
  | .walkableAt x y => .flag (t.walkableAt x y)
  | .walkable p => .flag (t.walkable p)
  | .inBounds x y => .flag (t.inBounds x y)
  | .walkableCount => .count t.walkableCount
  | .centre => .tile t.centre
  | .sample area attempts s => .drawn (t.sample area attempts s).1 (t.sample area attempts s).2
  | .plan limits algorithm start goal => .plan (TileRealm.plan t.walkable limits algorithm start goal)

/-- The terrain after a request. -/
def obey (t : Terrain) : Request → Terrain
  | .set p value => t.set p value
  | _ => t

/-- The answers to requests that are made one after the other. -/
def answers : Terrain → List Request → List Answer
  | _, [] => []
  | t, request :: requests => t.answer request :: (t.obey request).answers requests

/-- The terrain after requests that are made one after the other. -/
def after (t : Terrain) (requests : List Request) : Terrain :=
  requests.foldl obey t

theorem WellFormed.obey (ht : t.WellFormed) (request : Request) : (t.obey request).WellFormed := by
  cases request with
  | set p value => exact ht.set p value
  | _ => exact ht

theorem Guarded.obey (ht : t.Guarded) (request : Request) : (t.obey request).Guarded := by
  cases request with
  | set p value => exact ht.set p value
  | _ => exact ht

theorem Guarded.after (ht : t.Guarded) (requests : List Request) : (t.after requests).Guarded :=
  List.foldlRecOn requests _ ht fun _ hu request _ => hu.obey request

theorem WellFormed.after (ht : t.WellFormed) (requests : List Request) : (t.after requests).WellFormed :=
  List.foldlRecOn requests _ ht fun _ hu request _ => hu.obey request

/-! ## Counts -/

theorem countP_row {y : Nat} (hy : y < t.height.toNat) :
    ((List.range t.width.toNat).map fun x : Nat => t.walkableAt x y).countP id =
      (List.range t.width.toNat).countP fun x => t.store.read (y * t.width.toNat + x) := by
  rw [List.countP_map]
  refine List.countP_congr fun x hx => ?_
  have hindex : t.index? x y = some (y * t.width.toNat + x) := by
    have hlt := List.mem_range.mp hx
    rw [index?_eq_some_iff, Int.toNat_natCast, Int.toNat_natCast]
    exact ⟨by omega, rfl⟩
  simp [walkableAt, hindex]

/-- The rows are counted one after the other. -/
theorem foldl_countP_rows {rows : Nat} (hrows : rows ≤ t.height.toNat) :
    ((List.range rows).map fun y : Nat => (List.range t.width.toNat).map fun x : Nat => t.walkableAt x y).foldl
        (fun n row => n + row.countP id) 0 =
      (List.range (rows * t.width.toNat)).countP t.store.read := by
  induction rows with
  | zero => simp
  | succ rows ih =>
    have hrange : List.range ((rows + 1) * t.width.toNat) =
        List.range (rows * t.width.toNat) ++ (List.range t.width.toNat).map (rows * t.width.toNat + ·) := by
      rw [Nat.succ_mul, List.range_add]
    rw [List.range_succ, List.map_append, List.foldl_append, ih (by omega), hrange, List.countP_append,
      List.countP_map]
    exact congrArg (_ + ·) (countP_row hrows)

/-- Either store counts the indices of true values. -/
theorem walkableCount_eq_countP (ht : t.WellFormed) :
    t.walkableCount = (List.range t.area).countP t.store.read := by
  rw [walkableCount]
  cases hstore : t.store with
  | dense cells =>
    have hsize : cells.size = t.area := by
      have hfits := ht.fits
      rw [hstore] at hfits
      exact hfits
    have hcells : cells.toList = (List.range cells.size).map fun i => cells.getD i false := by
      apply List.ext_getElem
      · simp
      · intro i hi _
        simp at hi
        simp [hi]
    calc cells.countP id = cells.toList.countP id := Array.countP_toList.symm
      _ = (List.range t.area).countP (Store.dense cells).read := by
        rw [hcells, List.countP_map, hsize]
        rfl
  | bitmap words =>
    have hrows := foldl_countP_rows (t := t) (Nat.le_refl t.height.toNat)
    rw [hstore, Nat.mul_comm] at hrows
    exact hrows

/-- There are as many tiles that can be walked on as indices of true values. -/
theorem ncard_walkable (t : Terrain) :
    {p | t.walkable p = true}.ncard = (List.range t.area).countP t.store.read := by
  have hset : {p | t.walkable p = true} = ↑(((List.range t.area).filter t.store.read).map t.tileAt).toFinset := by
    ext p
    simp only [Set.mem_ofPred_eq, List.coe_toFinset, List.mem_map, List.mem_filter, List.mem_range]
    constructor
    · intro hp
      rw [walkable, walkableAt] at hp
      cases hindex : t.index? p.x.toNat p.y.toNat with
      | none =>
        rw [hindex] at hp
        cases hp
      | some i =>
        rw [hindex] at hp
        exact ⟨i, ⟨index?_lt hindex, hp⟩, tileAt_of_index? hindex⟩
    · rintro ⟨i, ⟨hi, hread⟩, rfl⟩
      rw [walkable_tileAt hi, hread]
  have hnodup : (((List.range t.area).filter t.store.read).map t.tileAt).Nodup := by
    refine List.Nodup.map_on ?_ (List.nodup_range.filter _)
    intro i hi j hj htile
    have hi := index?_tileAt (List.mem_range.mp (List.mem_of_mem_filter hi))
    have hj := index?_tileAt (List.mem_range.mp (List.mem_of_mem_filter hj))
    rw [htile, hj] at hi
    exact (Option.some_inj.mp hi).symm
  rw [hset, Set.ncard_coe_finset, List.toFinset_card_of_nodup hnodup, List.length_map, List.countP_eq_length_filter]

theorem WellFormed.walkableCount_eq (ht : t.WellFormed) : t.walkableCount = {p | t.walkable p = true}.ncard := by
  rw [walkableCount_eq_countP ht, ncard_walkable]

/-! ## Terrains that answer alike -/

/-- Two terrains of the same size say the same of every tile. -/
structure Alike (t u : Terrain) : Prop where
  width : t.width = u.width
  height : t.height = u.height
  walkable : t.walkable = u.walkable

namespace Alike

theorem inBounds (h : t.Alike u) : t.inBounds x y = u.inBounds x y := by
  rw [Terrain.inBounds, Terrain.inBounds, h.width, h.height]

theorem index? (h : t.Alike u) : t.index? x y = u.index? x y := by
  rw [Terrain.index?, Terrain.index?, h.inBounds, h.width]

theorem inside_iff (h : t.Alike u) : t.Inside p ↔ u.Inside p := by
  rw [Inside, Inside, h.width, h.height]

theorem centre (h : t.Alike u) : t.centre = u.centre := by
  rw [Terrain.centre, Terrain.centre, h.width, h.height]

theorem walkableAt (h : t.Alike u) : t.walkableAt x y = u.walkableAt x y := by
  have htile : t.tileAt = u.tileAt := by
    funext i
    rw [tileAt, tileAt, h.width]
  cases hindex : t.index? x y with
  | none => rw [Terrain.walkableAt, Terrain.walkableAt, ← h.index?, hindex]
  | some i =>
    have ht := walkable_tileAt (index?_lt hindex)
    have hu := walkable_tileAt (index?_lt (h.index?.symm.trans hindex))
    rw [Terrain.walkableAt, Terrain.walkableAt, ← h.index?, hindex]
    rw [h.walkable, htile, hu] at ht
    exact ht.symm

theorem samplingArea (h : t.Alike u) (area : Option Area) : t.samplingArea area = u.samplingArea area := by
  have hbounds : t.bounds = u.bounds := by
    rw [bounds, bounds, h.width, h.height]
  cases area with
  | none => exact hbounds
  | some a => rw [Terrain.samplingArea, Terrain.samplingArea, hbounds, h.width, h.height]

theorem sampleIn (h : t.Alike u) (a : Area) (attempts : Nat) (s : Stream) :
    t.sampleIn a attempts s = u.sampleIn a attempts s := by
  induction attempts generalizing s with
  | zero => rw [Terrain.sampleIn, Terrain.sampleIn, h.centre]
  | succ attempts ih => simp only [Terrain.sampleIn, h.walkable, ih]

/-- Terrains that say the same of every tile answer a request alike. -/
theorem answer (h : t.Alike u) (ht : t.WellFormed) (hu : u.WellFormed) (request : Request) :
    t.answer request = u.answer request := by
  cases request with
  | set p value =>
    have hsome : (t.set? p value).isSome = (u.set? p value).isSome := by
      simp only [set?_eq, h.inside_iff]
      split <;> rfl
    exact congrArg Answer.flag hsome
  | walkableAt x y => exact congrArg Answer.flag h.walkableAt
  | walkable p => exact congrArg Answer.flag (congrFun h.walkable p)
  | inBounds x y => exact congrArg Answer.flag h.inBounds
  | walkableCount =>
    have hcount : t.walkableCount = u.walkableCount := by
      rw [ht.walkableCount_eq, hu.walkableCount_eq, h.walkable]
    exact congrArg Answer.count hcount
  | centre => exact congrArg Answer.tile h.centre
  | sample area attempts s =>
    have hsample : t.sample area attempts s = u.sample area attempts s := by
      rw [sample, sample, h.samplingArea, h.sampleIn]
    rw [Terrain.answer, Terrain.answer, hsample]
  | plan limits algorithm start goal => rw [Terrain.answer, Terrain.answer, h.walkable]

/-- Terrains that say the same of every tile still do so after a request. -/
theorem obey (h : t.Alike u) (ht : t.WellFormed) (hu : u.WellFormed) (request : Request) :
    (t.obey request).Alike (u.obey request) := by
  cases request with
  | set p value =>
    refine ⟨?_, ?_, ?_⟩
    · exact (width_set t p value).trans (h.width.trans (width_set u p value).symm)
    · exact (height_set t p value).trans (h.height.trans (height_set u p value).symm)
    · funext q
      simp only [Terrain.obey, walkable_set ht, walkable_set hu, h.inside_iff, h.walkable]
  | _ => exact h

theorem answers (h : t.Alike u) (ht : t.WellFormed) (hu : u.WellFormed) (requests : List Request) :
    t.answers requests = u.answers requests := by
  induction requests generalizing t u with
  | nil => rfl
  | cons request requests ih =>
    rw [Terrain.answers, Terrain.answers, h.answer ht hu, ih (h.obey ht hu request) (ht.obey request) (hu.obey request)]

end Alike

/-! ## Terrain as a function of tiles -/

/-- A terrain behaves like a function from the tiles of its rectangle to truth values, whose values are changed one at a
time and counted, and it keeps to its store. -/
structure Lawful (t : Terrain) : Prop where
  set_inside : ∀ p value, t.Inside p → t.set? p value = some (t.set p value) ∧
    ∀ q, (t.set p value).walkable q = if q = p then value else t.walkable q
  set_outside : ∀ p value, ¬ t.Inside p → t.set? p value = none ∧ t.set p value = t
  outside : ∀ x y, t.inBounds x y = false → t.walkableAt x y = false
  count : t.walkableCount = {p | t.walkable p = true}.ncard
  guarded : t.Guarded

theorem WellFormed.lawful (ht : t.WellFormed) : t.Lawful where
  set_inside p value hp := by
    refine ⟨by rw [set?_eq, if_pos hp], fun q => ?_⟩
    simp only [walkable_set ht, hp, and_true]
  set_outside p value hp := ⟨by rw [set?_eq, if_neg hp], set_of_not_inside hp⟩
  outside x y hout := by
    rw [walkableAt, index?, hout]
    rfl
  count := ht.walkableCount_eq
  guarded := ht.guarded

end Terrain

/-! ## Two stores -/

/-- A store that holds, row by row, what a function says of the tiles of a rectangle; it may hold more bits. -/
structure Store.Shows (s : Store) (width height : UInt32) (free : Tile → Bool) : Prop where
  fits : s.Fits (width.toNat * height.toNat)
  read : ∀ p : Tile, p.x < width → p.y < height → s.read (p.y.toNat * width.toNat + p.x.toNat) = free p

namespace Terrain

variable {width height : UInt32} {free : Tile → Bool} {s : Store}

theorem walkable_of_shows (h : s.Shows width height free) (p : Tile) :
    (Terrain.mk width height s).walkable p = (decide ((Terrain.mk width height s).Inside p) && free p) := by
  rw [walkable, walkableAt, index?_tile]
  by_cases hp : (Terrain.mk width height s).Inside p
  · simp only [hp, if_true, decide_true, Bool.true_and]
    exact h.read p hp.1 hp.2
  · simp [hp]

theorem wellFormed_of_shows (h : s.Shows width height free) (hwidth : 0 < width) (hheight : 0 < height) :
    (Terrain.mk width height s).WellFormed :=
  ⟨hwidth, hheight, h.fits⟩

/-- **Stores cannot be told apart.** Values in full and values packed into words, with whatever bits behind the last
tile, show the same terrain: they answer every series of requests alike, and after it both still behave like a function
of tiles. -/
theorem answers_of_stores (width height : UInt32) (free : Tile → Bool) (cells : Array Bool) (words : Array UInt64)
    (hwidth : 0 < width) (hheight : 0 < height) (hcells : (Store.dense cells).Shows width height free)
    (hwords : (Store.bitmap words).Shows width height free) :
    let full : Terrain := ⟨width, height, .dense cells⟩
    let packed : Terrain := ⟨width, height, .bitmap words⟩
    ofBitmap width height words = .ok packed ∧
      (∀ p, full.walkable p = (decide (full.Inside p) && free p)) ∧
      ∀ requests, full.answers requests = packed.answers requests ∧
        (full.after requests).Lawful ∧ (packed.after requests).Lawful := by
  intro full packed
  have hfull : full.WellFormed := wellFormed_of_shows hcells hwidth hheight
  have hpacked : packed.WellFormed := wellFormed_of_shows hwords hwidth hheight
  have halike : full.Alike packed := by
    refine ⟨rfl, rfl, funext fun p => ?_⟩
    exact (walkable_of_shows hcells p).trans (walkable_of_shows hwords p).symm
  refine ⟨?_, walkable_of_shows hcells, fun requests => ⟨halike.answers hfull hpacked requests, ?_, ?_⟩⟩
  · have hsides : ¬ (width = 0 ∨ height = 0) := by
      rintro (rfl | rfl)
      · exact absurd hwidth (by decide)
      · exact absurd hheight (by decide)
    have hsize : words.size = Store.wordCount (width.toNat * height.toNat) := hwords.fits
    simp [ofBitmap, checkSize, hsides, hsize, packed]
  · exact (hfull.after requests).lawful
  · exact (hpacked.after requests).lawful

/-- Four tiles, of which those on one diagonal are free, in full and in a word with all bits behind them set. -/
theorem answers_of_diagonal :
    let full : Terrain := ⟨2, 2, .dense #[true, false, false, true]⟩
    let packed : Terrain := ⟨2, 2, .bitmap #[0xFFFFFFFFFFFFFFF9]⟩
    let requests : List Request := [.walkableCount, .set ⟨1, 0⟩ true, .set ⟨2, 0⟩ true, .walkableAt 1 0,
      .walkableAt 0 1, .walkableAt (-1) 0, .walkableCount]
    full.answers requests = packed.answers requests ∧ (packed.after requests).Lawful ∧
      packed.answers requests =
        [.count 2, .flag true, .flag false, .flag true, .flag false, .flag false, .count 3] := by
  intro full packed requests
  have hside : ∀ c : UInt32, c < 2 → c = 0 ∨ c = 1 := by grind
  have hcells : (Store.dense #[true, false, false, true]).Shows 2 2 fun p => decide (p.x = p.y) := by
    refine ⟨rfl, ?_⟩
    rintro ⟨x, y⟩ hx hy
    rcases hside x hx with rfl | rfl <;> rcases hside y hy with rfl | rfl <;> rfl
  have hwords : (Store.bitmap #[0xFFFFFFFFFFFFFFF9]).Shows 2 2 fun p => decide (p.x = p.y) := by
    refine ⟨rfl, ?_⟩
    rintro ⟨x, y⟩ hx hy
    rcases hside x hx with rfl | rfl <;> rcases hside y hy with rfl | rfl <;> rfl
  obtain ⟨-, -, halike⟩ := answers_of_stores 2 2 _ _ _ (by decide) (by decide) hcells hwords
  obtain ⟨hanswers, -, hlawful⟩ := halike requests
  exact ⟨hanswers, hlawful, by decide⟩

end Terrain

end TileRealm
