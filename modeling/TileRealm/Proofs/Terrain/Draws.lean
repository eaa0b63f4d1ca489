import TileRealm.Proofs.Terrain.Store

/-!
# Tiles drawn one after the other

Obstacles are strewn, and places to stand are looked for, by drawing tiles from an area again and again.

- `Area.draws`, `Area.skip`: the tiles of several draws, and the random numbers that are left;
- `Store.read_write_false`, `Terrain.walkable_set_self`, `Terrain.walkable_of_set`: to block a tile takes that tile away
  and gives none back;
- `Terrain.strewn`, `strew_eq`: the tiles that are blocked, which are the first draws from the whole terrain
  (`strewn_eq`) and can no longer be walked on (`walkable_of_mem_strewn`);
- `Terrain.proposals`, `sampleIn_eq`: the tiles that are looked at, which are the first draws from the area
  (`proposals_eq`), and all that may be looked at if none of them can be walked on (`length_proposals`).
-/

set_option autoImplicit false

namespace TileRealm

open TileRealm.Random (Stream)

/-! ## Draws -/

namespace Area

variable {a : Area} {s : Stream} {m n : Nat}

/-- The random numbers after several draws. -/
def skip (a : Area) : Nat → Stream → Stream
  | 0, s => s
  | n + 1, s => a.skip n (a.draw s).2

/-- The tiles of several draws. -/
def draws (a : Area) : Nat → Stream → List Tile
  | 0, _ => []
  | n + 1, s => (a.draw s).1 :: a.draws n (a.draw s).2

theorem length_draws (a : Area) (n : Nat) (s : Stream) : (a.draws n s).length = n := by
  induction n generalizing s with
  | zero => rfl
  | succ n ih => rw [draws, List.length_cons, ih]

theorem skip_add (a : Area) (m n : Nat) (s : Stream) : a.skip (m + n) s = a.skip n (a.skip m s) := by
  induction m generalizing s with
  | zero => rw [Nat.zero_add, skip]
  | succ m ih => rw [Nat.succ_add, skip, ih, skip]

theorem draws_add (a : Area) (m n : Nat) (s : Stream) :
    a.draws (m + n) s = a.draws m s ++ a.draws n (a.skip m s) := by
  induction m generalizing s with
  | zero => rw [Nat.zero_add, draws, skip, List.nil_append]
  | succ m ih => rw [Nat.succ_add, draws, ih, draws, skip, List.cons_append]

/-- A longer series of draws begins like a shorter one. -/
theorem getElem?_draws {i : Nat} (hm : i < m) (hn : i < n) : (a.draws m s)[i]? = (a.draws n s)[i]? := by
  have hfirst : ∀ {n : Nat}, i < n → (a.draws n s)[i]? = (a.draws (i + 1) s)[i]? := by
    intro n hn
    obtain ⟨rest, rfl⟩ := Nat.exists_eq_add_of_le hn
    rw [draws_add, List.getElem?_append_left (by rw [length_draws]; exact Nat.lt_succ_self i)]
  rw [hfirst hm, hfirst hn]

end Area

/-! ## Blocked tiles -/

namespace Store

/-- Nothing but the value at the index is taken out. -/
theorem read_write_false (s : Store) (i j : Nat) : (s.write i false).read j = (s.read j && !decide (j = i)) := by
  rw [read_write]
  by_cases hj : j = i
  · subst hj
    by_cases hholds : s.Holds j
    · simp [hholds]
    · simp [hholds, read_of_not_holds hholds]
  · simp [hj]

end Store

namespace Terrain

variable {t : Terrain} {p q : Tile} {s : Stream}

theorem bounds_set (t : Terrain) (p : Tile) (value : Bool) : (t.set p value).bounds = t.bounds := by
  unfold set
  split <;> rfl

theorem walkable_write_false (t : Terrain) (i : Nat) (q : Tile) : (t.write i false).walkable q =
    (t.walkable q && !decide (t.index? q.x.toNat q.y.toNat = some i)) := by
  have hindex : (t.write i false).index? q.x.toNat q.y.toNat = t.index? q.x.toNat q.y.toNat := rfl
  rw [walkable, walkableAt, hindex, walkable, walkableAt]
  cases t.index? q.x.toNat q.y.toNat with
  | none => rfl
  | some j => simp [write, Store.read_write_false]

/-- A blocked tile cannot be walked on. -/
theorem walkable_set_self (t : Terrain) (p : Tile) : (t.set p false).walkable p = false := by
  unfold set
  cases hi : t.index? p.x.toNat p.y.toNat with
  | none => simp [walkable, walkableAt, hi]
  | some i => simp [walkable_write_false, hi]

/-- No tile can be walked on because another one is blocked. -/
theorem walkable_of_set (hq : (t.set p false).walkable q = true) : t.walkable q = true := by
  unfold set at hq
  cases hi : t.index? p.x.toNat p.y.toNat with
  | none => simpa only [hi] using hq
  | some i =>
    simp only [hi, walkable_write_false, Bool.and_eq_true] at hq
    exact hq.1

/-! ## Obstacles -/

/-- The tiles that are blocked, in the order in which they are drawn. -/
def strewn : Nat → Terrain → Stream → List Tile
  | 0, _, _ => []
  | count + 1, t, s => (t.bounds.draw s).1 :: strewn count (t.set (t.bounds.draw s).1 false) (t.bounds.draw s).2

theorem strewn_eq (count : Nat) (t : Terrain) (s : Stream) : strewn count t s = t.bounds.draws count s := by
  induction count generalizing t s with
  | zero => rfl
  | succ count ih => rw [strewn, ih, bounds_set, Area.draws]

/-- The strewn terrain is the terrain with these tiles blocked one after the other. -/
theorem strew_eq (count : Nat) (t : Terrain) (s : Stream) : strew count t s =
    ((strewn count t s).foldl (fun t p => t.set p false) t, t.bounds.skip count s) := by
  induction count generalizing t s with
  | zero => rfl
  | succ count ih =>
    rw [strew]
    dsimp only
    rw [ih, strewn, List.foldl_cons, Area.skip, bounds_set]

theorem bounds_foldl_set (blocked : List Tile) (t : Terrain) :
    (blocked.foldl (fun t p => t.set p false) t).bounds = t.bounds :=
  List.foldlRecOn (motive := fun u => u.bounds = t.bounds) blocked _ rfl fun u hu p _ => (bounds_set u p false).trans hu

/-- What is blocked stays blocked. -/
theorem walkable_of_mem_strewn {count : Nat} (hp : p ∈ strewn count t s) : (strew count t s).1.walkable p = false := by
  have hstays : ∀ (blocked : List Tile) (t : Terrain), t.walkable p = false →
      (blocked.foldl (fun t p => t.set p false) t).walkable p = false := by
    intro blocked t ht
    refine List.foldlRecOn (motive := fun u : Terrain => u.walkable p = false) blocked _ ht fun u hu q _ => ?_
    rw [Bool.eq_false_iff] at hu ⊢
    exact fun hw => hu (walkable_of_set hw)
  rw [strew_eq]
  obtain ⟨earlier, later, hsplit⟩ := List.append_of_mem hp
  rw [hsplit, List.foldl_append, List.foldl_cons]
  exact hstays later _ (walkable_set_self _ p)

/-! ## Places to stand -/

/-- The tiles that are looked at to find one to stand on. -/
def proposals (t : Terrain) (a : Area) : Nat → Stream → List Tile
  | 0, _ => []
  | attempts + 1, s =>
    (a.draw s).1 :: if t.walkable (a.draw s).1 then [] else t.proposals a attempts (a.draw s).2

/-- The tile to stand on is the first walkable one of those that are looked at. -/
theorem sampleIn_eq (t : Terrain) (a : Area) (attempts : Nat) (s : Stream) : t.sampleIn a attempts s =
    (((t.proposals a attempts s).find? t.walkable).getD t.centre,
      a.skip (t.proposals a attempts s).length s) := by
  induction attempts generalizing s with
  | zero => rfl
  | succ attempts ih =>
    rw [sampleIn, proposals]
    cases hw : t.walkable (a.draw s).1 with
    | true => simp [hw, Area.skip]
    | false => simp [hw, ih, Area.skip]

theorem proposals_eq (t : Terrain) (a : Area) (attempts : Nat) (s : Stream) :
    t.proposals a attempts s = a.draws (t.proposals a attempts s).length s := by
  induction attempts generalizing s with
  | zero => rfl
  | succ attempts ih =>
    rw [proposals]
    cases hw : t.walkable (a.draw s).1 with
    | true => simp [Area.draws]
    | false => simpa [Area.draws] using ih (a.draw s).2

theorem length_proposals_le (t : Terrain) (a : Area) (attempts : Nat) (s : Stream) :
    (t.proposals a attempts s).length ≤ attempts := by
  induction attempts generalizing s with
  | zero => exact Nat.le_refl 0
  | succ attempts ih =>
    rw [proposals]
    cases hw : t.walkable (a.draw s).1 with
    | true => simp
    | false => simpa using ih (a.draw s).2

/-- If none of them can be walked on, as many tiles are looked at as allowed. -/
theorem length_proposals {a : Area} {attempts : Nat}
    (hblocked : ∀ p ∈ t.proposals a attempts s, t.walkable p = false) :
    (t.proposals a attempts s).length = attempts := by
  induction attempts generalizing s with
  | zero => rfl
  | succ attempts ih =>
    rw [proposals] at hblocked ⊢
    have hfirst : t.walkable (a.draw s).1 = false := hblocked _ List.mem_cons_self
    simp only [hfirst, Bool.false_eq_true, if_false, List.length_cons] at hblocked ⊢
    rw [ih fun p hp => hblocked p (List.mem_cons_of_mem _ hp)]

end Terrain

end TileRealm
