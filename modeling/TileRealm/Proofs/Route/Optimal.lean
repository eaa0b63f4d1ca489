import TileRealm.Proofs.Route.Costs

/-!
# Best-first routes are the cheapest

With exact costs and a consistent estimate, whatever order entries of the same total are taken in.

- `Priced`: the labels of expanded tiles tell the least costs, those around them no more than a step from there, and
  entries promise no less than the labels and the estimates tell;
- `Priced.frontier`: every route to a tile that was not expanded leads over a labelled one that waits, whose label
  promises no more than the route costs;
- `Priced.settle`: so the label of an entry with the least total tells the least cost, and its tile can be expanded for
  good;
- `priced_of_reached`, `cheapest_of_ends`: the invariant of the search, and the route that it finds.
-/

set_option autoImplicit false

namespace TileRealm

namespace BestFirst

variable {C : Type} [AddCommGroup C] [LinearOrder C] {m : CostModel C} {walk : Tile → Bool}
  {budget : Nat} {start goal tile : Tile} {s : Search C}

/-- Answers whose route is one of the cheapest; that from a tile to itself is the tile alone. -/
def Cheapest (m : CostModel C) (walk : Tile → Bool) (start goal : Tile) (p : Plan) : Prop :=
  ∀ route, p.route = some route →
    (if start = goal then route = [goal] else IsRoute walk start goal route) ∧
    ∀ other, IsRoute walk start goal other → m.routeCost start route ≤ m.routeCost start other

/-- What is known of costs; `due` are the neighbours of expanded tiles that the search has not looked at yet. -/
structure Priced (m : CostModel C) (walk : Tile → Bool) (start goal : Tile) (due : Tile → Tile → Prop)
    (s : Search C) : Prop where
  settled : ∀ p ∈ s.closed, ∀ label, s.labels[p]? = some label →
    ∀ route, IsRoute walk start p route → label.cost ≤ m.routeCost start route
  relaxed : ∀ p ∈ s.closed, ∀ label, s.labels[p]? = some label → ∀ heading ∈ Heading.all, ∀ t,
    p.shift heading = some t → walk t = true →
    (∃ other, s.labels[t]? = some other ∧ other.cost ≤ label.cost + m.step heading) ∨ due p t
  promised : ∀ t label, s.labels[t]? = some label → t ∉ s.closed →
    ∃ entry ∈ s.waiting.toList, entry.tile = t ∧ entry.total = label.cost + m.estimate t goal
  kept : ∀ entry ∈ s.waiting.toList, ∀ label, s.labels[entry.tile]? = some label →
    label.cost + m.estimate entry.tile goal ≤ entry.total

namespace Priced

variable {due due' : Tile → Tile → Prop}

theorem of_start (hm : m.Exact) (walk : Tile → Bool) (start goal : Tile) :
    Priced m walk start goal (fun _ _ => False) (Search.start m start goal) where
  settled p hp := absurd hp Std.ExtTreeSet.not_mem_empty
  relaxed p hp := absurd hp Std.ExtTreeSet.not_mem_empty
  promised t label hlabel _ := by
    rw [labels_start] at hlabel
    split at hlabel
    · rename_i ht
      subst ht
      cases hlabel
      exact ⟨_, mem_waiting_start.mpr rfl, rfl, by rw [hm.zero, zero_add]⟩
    · cases hlabel
  kept entry hentry label hlabel := by
    obtain rfl := mem_waiting_start.mp hentry
    rw [labels_start, if_pos rfl, Option.some.injEq] at hlabel
    rw [← hlabel, hm.zero, zero_add]

/-- An entry whose tile was expanded can leave the line. -/
theorem skip (h : Priced m walk start goal due s) {entry : Entry C} {rest : Heap (Entry C)}
    (hserve : anyone s.waiting entry rest) (hclosed : entry.tile ∈ s.closed) :
    Priced m walk start goal due { s with waiting := rest } where
  settled := h.settled
  relaxed := h.relaxed
  promised t label hlabel hopen := by
    obtain ⟨other, hother, rfl, htotal⟩ := h.promised t label hlabel hopen
    exact ⟨other, hserve.mem_of_ne hother (ne_of_mem_of_not_mem hclosed hopen).symm, rfl, htotal⟩
  kept other hother := h.kept other (hserve.mem_rest hother)

/-- A tile whose label tells the least cost can be expanded for good. -/
theorem close (h : Priced m walk start goal (fun _ _ => False) s) {entry : Entry C} {rest : Heap (Entry C)}
    (hserve : anyone s.waiting entry rest)
    (hleast : ∀ label, s.labels[entry.tile]? = some label →
      ∀ route, IsRoute walk start entry.tile route → label.cost ≤ m.routeCost start route) :
    Priced m walk start goal (fun p t => p = entry.tile ∧ p.adjacent t = true)
      (({ s with waiting := rest } : Search C).close entry.tile) where
  settled p hp label hlabel := by
    rcases Tile.mem_insert.mp hp with rfl | hp
    · exact hleast label hlabel
    · exact h.settled p hp label hlabel
  relaxed p hp label hlabel heading hheading t hshift hwalk := by
    rcases Tile.mem_insert.mp hp with rfl | hp
    · exact Or.inr ⟨rfl, Tile.adjacent_of_shift hheading hshift⟩
    · exact Or.inl ((h.relaxed p hp label hlabel heading hheading t hshift hwalk).elim id False.elim)
  promised t label hlabel hopen := by
    rw [Search.close, Tile.mem_insert, not_or] at hopen
    obtain ⟨other, hother, rfl, htotal⟩ := h.promised t label hlabel hopen.2
    exact ⟨other, hserve.mem_of_ne hother hopen.1, rfl, htotal⟩
  kept other hother := h.kept other (hserve.mem_rest hother)

/-- Neighbours whose labels tell little enough are due no more. -/
theorem waive (h : Priced m walk start goal due s)
    (hdue : ∀ p ∈ s.closed, ∀ label, s.labels[p]? = some label → ∀ heading ∈ Heading.all, ∀ t,
      p.shift heading = some t → walk t = true → due p t →
      (∃ other, s.labels[t]? = some other ∧ other.cost ≤ label.cost + m.step heading) ∨ due' p t) :
    Priced m walk start goal due' s where
  settled := h.settled
  relaxed p hp label hlabel heading hheading t hshift hwalk :=
    (h.relaxed p hp label hlabel heading hheading t hshift hwalk).elim Or.inl
      (hdue p hp label hlabel heading hheading t hshift hwalk)
  promised := h.promised
  kept := h.kept

variable [IsOrderedAddMonoid C]

/-- A tile that was not expanded yet gets a label that tells less. -/
theorem enqueue (hm : m.Exact) (h : Priced m walk start goal due s)
    (hexplored : Explored m walk budget start goal due s) {next : Tile} {cost : C} (hnext : next ∉ s.closed)
    (hless : ∀ label, s.labels[next]? = some label → m.lt cost label.cost = true) :
    Priced m walk start goal due (s.enqueue m goal tile next cost) := by
  have hlabels : ∀ t, (s.enqueue m goal tile next cost).labels[t]? =
      if t = next then some ⟨cost, some tile⟩ else s.labels[t]? := labels_enqueue m goal tile next cost s
  have hclosed : ∀ p ∈ s.closed, (s.enqueue m goal tile next cost).labels[p]? = s.labels[p]? := fun p hp => by
    rw [hlabels, if_neg (ne_of_mem_of_not_mem hp hnext)]
  have htotal : m.add cost (m.estimate next goal) = cost + m.estimate next goal := hm.add _ _
  exact {
    settled := fun p hp label hlabel => h.settled p hp label ((hclosed p hp).symm.trans hlabel)
    relaxed := fun p hp label hlabel heading hheading t hshift hwalk => by
      refine (h.relaxed p hp label ((hclosed p hp).symm.trans hlabel) heading hheading t hshift hwalk).imp_left ?_
      rintro ⟨other, hother, hle⟩
      rw [hlabels]
      split
      · rename_i ht
        exact ⟨_, rfl, ((hm.lt_iff _ _).mp (hless other (ht ▸ hother))).le.trans hle⟩
      · exact ⟨other, hother, hle⟩
    promised := fun t label hlabel hopen => by
      rw [hlabels] at hlabel
      split at hlabel
      · rename_i ht
        cases hlabel
        exact ⟨_, (mem_waiting_enqueue hexplored.isTree).mpr (Or.inl rfl), ht.symm, by rw [ht]; exact htotal⟩
      · obtain ⟨entry, hentry, ht, htotal⟩ := h.promised t label hlabel hopen
        exact ⟨entry, (mem_waiting_enqueue hexplored.isTree).mpr (Or.inr hentry), ht, htotal⟩
    kept := fun entry hentry label hlabel => by
      rw [hlabels] at hlabel
      rcases (mem_waiting_enqueue hexplored.isTree).mp hentry with rfl | hentry
      · rw [if_pos rfl] at hlabel
        cases hlabel
        exact htotal.ge
      · split at hlabel
        · rename_i ht
          cases hlabel
          -- the entry was put in line for a label that told more
          obtain ⟨old, hold⟩ := mem_labels_iff.mp (hexplored.labelled_waiting entry hentry)
          have hlt : cost < old.cost := (hm.lt_iff _ _).mp (hless old (ht ▸ hold))
          exact (add_le_add_left hlt.le _).trans (h.kept entry hentry old hold)
        · exact h.kept entry hentry label hlabel }

/-- A look at a neighbour that was due. -/
theorem look (hm : m.Exact) (h : Priced m walk start goal due s) (hexplored : Explored m walk budget start goal due s)
    {label : Label C} {heading : Heading} (hlabel : s.labels[tile]? = some label) (htile : tile ∈ s.closed)
    (hheading : heading ∈ Heading.all) :
    Priced m walk start goal (fun p t => due p t ∧ ¬ (p = tile ∧ tile.shift heading = some t))
      (s.look m walk goal tile label.cost heading) := by
  have hg := glance m walk goal tile label.cost s heading
  generalize s.look m walk goal tile label.cost heading = s' at hg ⊢
  cases hg with
  | pass hpass =>
    refine h.waive fun p hp other hother heading' hheading' t hshift hwalk hdue => ?_
    by_cases hseen : p = tile ∧ tile.shift heading = some t
    · obtain ⟨rfl, hshift'⟩ := hseen
      obtain rfl : label = other := Option.some.inj (hlabel.symm.trans hother)
      obtain rfl : heading = heading' :=
        (Tile.shift_eq_some_iff.mp hshift').trans (Tile.shift_eq_some_iff.mp hshift).symm
      refine Or.inl ?_
      rcases hpass t hshift hwalk with hclosed | ⟨known, hknown, hnlt⟩
      · -- an expanded tile has the least cost, and the lineage of this one goes on to it
        obtain ⟨known, hknown⟩ := mem_labels_iff.mp (hexplored.labelled_closed t hclosed)
        obtain ⟨back, hback⟩ := hexplored.lineage p label hlabel
        have hroute := hback.isRoute.concat (Tile.adjacent_of_shift hheading hshift) hwalk
        refine ⟨known, hknown, (h.settled t hclosed known hknown _ hroute).trans_eq ?_⟩
        rw [hm.routeCost_concat hback.isRoute hheading hshift, hback.routeCost hm]
      · exact ⟨known, hknown, (hm.not_lt_iff.mp hnlt).trans_eq (hm.add _ _)⟩
    · exact Or.inr ⟨hdue, hseen⟩
  | @put next hshift hnext hwalk hless =>
    refine (h.enqueue hm hexplored hnext hless).waive fun p hp other hother heading' hheading' t hshift' _ hdue => ?_
    by_cases hseen : p = tile ∧ tile.shift heading = some t
    · obtain ⟨rfl, hshift''⟩ := hseen
      obtain rfl : next = t := Option.some.inj (hshift.symm.trans hshift'')
      obtain rfl : heading = heading' :=
        (Tile.shift_eq_some_iff.mp hshift).trans (Tile.shift_eq_some_iff.mp hshift').symm
      rw [labels_enqueue, if_neg (ne_of_mem_of_not_mem htile hnext)] at hother
      obtain rfl : label = other := Option.some.inj (hlabel.symm.trans hother)
      refine Or.inl ⟨⟨m.add label.cost (m.step heading), some p⟩, ?_, (hm.add _ _).le⟩
      rw [labels_enqueue, if_pos rfl]
    · exact Or.inr ⟨hdue, hseen⟩

/-- An expansion looks at all neighbours. -/
theorem lookAround (hm : m.Exact) (h : Priced m walk start goal (fun p t => p = tile ∧ p.adjacent t = true) s)
    (hexplored : Explored m walk budget start goal (fun p t => p = tile ∧ p.adjacent t = true) s)
    (htile : tile ∈ s.closed) :
    Priced m walk start goal (fun _ _ => False) (s.lookAround m walk goal tile) := by
  obtain ⟨label, hlabel⟩ := mem_labels_iff.mp (hexplored.labelled_closed tile htile)
  exact (lookAround_settles m walk goal
    (fun due s => Explored m walk budget start goal due s ∧ Priced m walk start goal due s) hlabel htile
    (fun hs hdue => ⟨hs.1.waive fun p t _ hd => Or.inr (hdue p t hd),
      hs.2.waive fun p _ _ _ _ _ t _ _ hd => Or.inr (hdue p t hd)⟩)
    (fun hlabel htile hheading hs => ⟨hs.1.look hlabel htile hheading, hs.2.look hm hs.1 hlabel htile hheading⟩)
    ⟨hexplored, h⟩).2

/-- Every route from a labelled tile to one that was not expanded leads over a tile that waits, whose label promises no
more than the way there and the rest of the route cost. -/
theorem frontier (hm : m.Consistent) (h : Priced m walk start goal (fun _ _ => False) s) {t : Tile}
    (hopen : t ∉ s.closed) {route : List Tile} {p : Tile} {label : Label C} (hlabel : s.labels[p]? = some label)
    (hroute : IsRoute walk p t route) :
    ∃ q known, q ∉ s.closed ∧ s.labels[q]? = some known ∧
      known.cost + m.estimate q goal ≤ label.cost + m.routeCost p route + m.estimate t goal := by
  -- along the route, up to the first tile that was not expanded
  by_cases hp : p ∈ s.closed
  · cases route with
    | nil => exact absurd (hroute ▸ hp) hopen
    | cons next rest =>
      obtain ⟨hadjacent, hwalk, hrest⟩ := hroute
      obtain ⟨heading, hheading, hshift⟩ := Tile.exists_shift_iff.mpr hadjacent
      obtain ⟨other, hother, hle⟩ :=
        (h.relaxed p hp label hlabel heading hheading next hshift hwalk).elim id False.elim
      obtain ⟨q, known, hq, hknown, hpromise⟩ := h.frontier hm hopen hother hrest
      refine ⟨q, known, hq, hknown, hpromise.trans ?_⟩
      rw [hm.routeCost_cons, CostModel.between_of_shift hheading hshift, ← add_assoc]
      exact add_le_add_left (add_le_add_left hle _) _
  · refine ⟨p, label, hp, hlabel, ?_⟩
    rw [add_assoc]
    exact add_le_add_right (hm.estimate_le goal hroute) _

/-- The label of an entry with the least total tells the least cost. -/
theorem settle (hm : m.Consistent) (h : Priced m walk start goal (fun _ _ => False) s)
    (hexplored : Explored m walk budget start goal (fun _ _ => False) s) {entry : Entry C} {rest : Heap (Entry C)}
    (hserve : cheapest m s.waiting entry rest) (hopen : entry.tile ∉ s.closed) {label : Label C}
    (hlabel : s.labels[entry.tile]? = some label) {route : List Tile} (hroute : IsRoute walk start entry.tile route) :
    label.cost ≤ m.routeCost start route := by
  obtain ⟨q, known, hq, hknown, hpromise⟩ := h.frontier hm hopen hexplored.origin hroute
  obtain ⟨other, hother, rfl, htotal⟩ := h.promised q known hknown hq
  have hentry : entry ∈ s.waiting.toList := hserve.1.mem_entry
  have hle : label.cost + m.estimate entry.tile goal ≤ m.routeCost start route + m.estimate entry.tile goal :=
    calc label.cost + m.estimate entry.tile goal
      _ ≤ entry.total := h.kept entry hentry label hlabel
      _ ≤ other.total := hm.not_lt_iff.mp (hserve.2 other hother)
      _ = known.cost + m.estimate other.tile goal := htotal
      _ ≤ m.zero + m.routeCost start route + m.estimate entry.tile goal := hpromise
      _ = m.routeCost start route + m.estimate entry.tile goal := by rw [hm.zero, zero_add]
  exact le_of_add_le_add_right hle

end Priced

/-! ## Runs -/

variable [IsOrderedAddMonoid C]

/-- **The invariant of the costs.** -/
theorem priced_of_reached (hm : m.Consistent) (h : Reached m walk budget start goal (cheapest m) s) :
    Priced m walk start goal (fun _ _ => False) s := by
  induction h with
  | start => exact .of_start hm.toExact walk start goal
  | skip hs hserve hclosed ih => exact ih.skip hserve.1 hclosed
  | expand hs hserve hopen hspare hgoal ih =>
    have hexplored := explored_of_reached (hs.mono fun _ _ _ h => h.1)
    exact (ih.close hserve.1 fun label hlabel route hroute =>
      ih.settle hm hexplored hserve hopen hlabel hroute).lookAround hm.toExact
        (hexplored.close hserve.1 hopen hspare hgoal) (Tile.mem_insert.mpr (Or.inl rfl))

/-- **What the search finds is one of the cheapest routes.** -/
theorem cheapest_of_ends (hm : m.Consistent) (h : Reached m walk budget start goal (cheapest m) s) {p : Plan}
    (hends : Ends budget start goal (cheapest m) s p) : Cheapest m walk start goal p := by
  have hexplored := explored_of_reached (h.mono fun _ _ _ h => h.1)
  have hpriced := priced_of_reached hm h
  rintro route hroute
  cases hends with
  | exhausted => cases hroute
  | spent => cases hroute
  | @met entry rest hserve hopen _ hgoal =>
    subst hgoal
    cases hroute
    have hentry : entry ∈ s.waiting.toList := hserve.1.mem_entry
    obtain ⟨label, hlabel⟩ := mem_labels_iff.mp (hexplored.labelled_waiting entry hentry)
    obtain ⟨back, hback⟩ := hexplored.lineage entry.tile label hlabel
    have hleast : ∀ other, IsRoute walk start entry.tile other → label.cost ≤ m.routeCost start other :=
      fun other hother => hpriced.settle hm hexplored hserve hopen hlabel hother
    split
    · rename_i heq
      have horigin := hexplored.origin
      rw [heq] at horigin hleast ⊢
      obtain rfl : (⟨m.zero, none⟩ : Label C) = label := Option.some.inj (horigin.symm.trans hlabel)
      have hstay : (s.close entry.tile).routeTo entry.tile entry.tile = [entry.tile] :=
        (Lineage.root horigin : Lineage m walk s entry.tile entry.tile [] m.zero).routeTo_start
      rw [hstay, hm.routeCost_self, ← hm.zero]
      exact ⟨rfl, hleast⟩
    · rename_i hne
      have hback' : (s.close entry.tile).routeTo start entry.tile = back.reverse := hback.routeTo (Ne.symm hne)
      rw [hback', hback.routeCost hm.toExact]
      exact ⟨hback.isRoute, hleast⟩

end BestFirst

end TileRealm
