import TileRealm.Proofs.Heap
import TileRealm.Proofs.Route.Neighbours
import TileRealm.Route.BestFirst

/-!
# The ways in which a best-first search can go

The order in which waiting tiles are taken is left open here as far as a proof does not need it.

- `Serving`: which entry may be taken from the line: any one (`anyone`), or any one of the least total (`cheapest`);
- `Reached`, `Ends`: the searches that can be reached in a way of serving, and the answers in which they can end;
- `Glance`: what a look at a neighbour does; `lookAround_induction`: an expansion is look after look;
- `run_ends`, `search_ends`: the search goes in one of these ways, and it never runs out of rounds.
-/

set_option autoImplicit false

namespace TileRealm

namespace BestFirst

variable {C : Type} {m : CostModel C} {walk : Tile → Bool} {budget : Nat} {start goal tile : Tile} {s : Search C}

/-! ## Lines -/

/-- Which entry may be taken from a line, and which line is left. -/
abbrev Serving (C : Type) : Type :=
  Heap (Entry C) → Entry C → Heap (Entry C) → Prop

/-- Any entry may be taken. -/
def anyone : Serving C := fun line entry rest =>
  rest.IsTree ∧ (entry :: rest.toList).Perm line.toList

/-- Any entry of the least total may be taken. -/
def cheapest (m : CostModel C) : Serving C := fun line entry rest =>
  anyone line entry rest ∧ ∀ other ∈ line.toList, m.lt other.total entry.total = false

/-- In lines with a property that they keep, the entry in front may be taken. -/
structure Serves (m : CostModel C) (ok : Heap (Entry C) → Prop) (serve : Serving C) : Prop where
  isTree : ∀ line, ok line → line.IsTree
  nil : ok .nil
  insert : ∀ line entry, ok line → ok (line.insert (Entry.before m) entry)
  pop : ∀ line entry rest, ok line → line.pop? (Entry.before m) = some (entry, rest) → ok rest ∧ serve line entry rest
  anyone : ∀ line entry rest, serve line entry rest → anyone line entry rest

theorem serves_anyone (m : CostModel C) : Serves m Heap.IsTree anyone where
  isTree _ hline := hline
  nil := trivial
  insert _ _ hline := Heap.isTree_insert _ _ hline
  pop _ _ _ hline hpop := ⟨Heap.isTree_pop? hpop, Heap.isTree_pop? hpop, Heap.toList_pop? _ hline hpop⟩
  anyone _ _ _ h := h

namespace anyone

variable {line rest : Heap (Entry C)} {entry : Entry C}

theorem mem_iff (h : anyone line entry rest) {other : Entry C} :
    other ∈ line.toList ↔ other = entry ∨ other ∈ rest.toList :=
  h.2.mem_iff.symm.trans List.mem_cons

theorem mem_entry (h : anyone line entry rest) : entry ∈ line.toList :=
  h.mem_iff.mpr (Or.inl rfl)

theorem mem_rest (h : anyone line entry rest) {other : Entry C} (hother : other ∈ rest.toList) :
    other ∈ line.toList :=
  h.mem_iff.mpr (Or.inr hother)

/-- Only the entry that is taken leaves the line. -/
theorem mem_of_ne (h : anyone line entry rest) {other : Entry C} (hother : other ∈ line.toList)
    (hne : other.tile ≠ entry.tile) : other ∈ rest.toList :=
  (h.mem_iff.mp hother).resolve_left fun heq => hne (congrArg Entry.tile heq)

end anyone

/-! ## The start, and tiles that are put in line -/

theorem labels_start (m : CostModel C) (start goal t : Tile) :
    (Search.start m start goal).labels[t]? = if t = start then some ⟨m.zero, none⟩ else none := by
  rw [Search.start, Tile.getElem?_insert, Std.ExtTreeMap.getElem?_empty]

theorem mem_waiting_start {entry : Entry C} : entry ∈ (Search.start m start goal).waiting.toList ↔
    entry = ⟨start, m.estimate start goal, m.estimate start goal, 0⟩ :=
  List.mem_singleton

theorem labels_enqueue (m : CostModel C) (goal parent next : Tile) (cost : C) (s : Search C) (t : Tile) :
    (s.enqueue m goal parent next cost).labels[t]? = if t = next then some ⟨cost, some parent⟩ else s.labels[t]? :=
  Tile.getElem?_insert

theorem mem_labels_iff {t : Tile} : t ∈ s.labels ↔ ∃ label, s.labels[t]? = some label := by
  rw [Std.ExtTreeMap.mem_iff_isSome_getElem?, Option.isSome_iff_exists]

theorem mem_labels_enqueue {parent next : Tile} {cost : C} {t : Tile} :
    t ∈ (s.enqueue m goal parent next cost).labels ↔ t = next ∨ t ∈ s.labels := by
  rw [Search.enqueue, Std.ExtTreeMap.mem_insert, Tile.compare_eq_iff]

theorem mem_waiting_enqueue (hs : s.waiting.IsTree) {parent next : Tile} {cost : C} {entry : Entry C} :
    entry ∈ (s.enqueue m goal parent next cost).waiting.toList ↔
      entry = ⟨next, m.add cost (m.estimate next goal), m.estimate next goal, s.queued + 1⟩ ∨
        entry ∈ s.waiting.toList :=
  (Heap.toList_insert _ _ hs).mem_iff.trans List.mem_cons

/-! ## Ways of a search -/

/-- The searches that can be reached when entries are taken in a way of serving. -/
inductive Reached (m : CostModel C) (walk : Tile → Bool) (budget : Nat) (start goal : Tile) (serve : Serving C) :
    Search C → Prop
  | start : Reached m walk budget start goal serve (Search.start m start goal)
  /-- A tile that was expanded before is passed over. -/
  | skip {s : Search C} {entry : Entry C} {rest : Heap (Entry C)} : Reached m walk budget start goal serve s →
      serve s.waiting entry rest → entry.tile ∈ s.closed →
      Reached m walk budget start goal serve { s with waiting := rest }
  | expand {s : Search C} {entry : Entry C} {rest : Heap (Entry C)} : Reached m walk budget start goal serve s →
      serve s.waiting entry rest → entry.tile ∉ s.closed → s.expanded < budget → entry.tile ≠ goal →
      Reached m walk budget start goal serve
        ((({ s with waiting := rest } : Search C).close entry.tile).lookAround m walk goal entry.tile)

theorem Reached.mono {serve serve' : Serving C} (h : Reached m walk budget start goal serve s)
    (hle : ∀ line entry rest, serve line entry rest → serve' line entry rest) :
    Reached m walk budget start goal serve' s := by
  induction h with
  | start => exact .start
  | skip _ hserve hclosed ih => exact ih.skip (hle _ _ _ hserve) hclosed
  | expand _ hserve hopen hspare hgoal ih => exact ih.expand (hle _ _ _ hserve) hopen hspare hgoal

/-- The answers in which a search can end. -/
inductive Ends (budget : Nat) (start goal : Tile) (serve : Serving C) (s : Search C) : Plan → Prop
  /-- No tile waits. -/
  | exhausted : s.waiting = .nil → Ends budget start goal serve s ⟨none, s.expanded⟩
  /-- A tile waits that was not expanded yet, and the budget is spent. -/
  | spent {entry : Entry C} {rest : Heap (Entry C)} : serve s.waiting entry rest → entry.tile ∉ s.closed →
      budget ≤ s.expanded → Ends budget start goal serve s ⟨none, s.expanded⟩
  /-- The goal is met. -/
  | met {entry : Entry C} {rest : Heap (Entry C)} : serve s.waiting entry rest → entry.tile ∉ s.closed →
      s.expanded < budget → entry.tile = goal →
      Ends budget start goal serve s ⟨some ((s.close goal).routeTo start goal), s.expanded + 1⟩

/-! ## Looking at neighbours -/

/-- What a look in a heading does: it puts the neighbour in line, or there is no cause for that. -/
inductive Glance (m : CostModel C) (walk : Tile → Bool) (goal tile : Tile) (cost : C) (s : Search C)
    (heading : Heading) : Search C → Prop
  | pass : (∀ next, tile.shift heading = some next → walk next = true → next ∈ s.closed ∨
        ∃ label, s.labels[next]? = some label ∧ m.lt (m.add cost (m.step heading)) label.cost = false) →
      Glance m walk goal tile cost s heading s
  | put {next : Tile} : tile.shift heading = some next → next ∉ s.closed → walk next = true →
      (∀ label, s.labels[next]? = some label → m.lt (m.add cost (m.step heading)) label.cost = true) →
      Glance m walk goal tile cost s heading (s.enqueue m goal tile next (m.add cost (m.step heading)))

theorem glance (m : CostModel C) (walk : Tile → Bool) (goal tile : Tile) (cost : C) (s : Search C)
    (heading : Heading) : Glance m walk goal tile cost s heading (s.look m walk goal tile cost heading) := by
  unfold Search.look
  cases hshift : tile.shift heading with
  | none => exact .pass fun next hnext => by simp [hshift] at hnext
  | some next =>
    dsimp only
    split
    · rename_i hout
      rw [Bool.or_eq_true, Std.ExtTreeSet.contains_iff_mem, Bool.not_eq_true'] at hout
      refine .pass fun next' hnext hwalk => ?_
      obtain rfl : next = next' := Option.some.inj (hshift.symm.trans hnext)
      rcases hout with hclosed | hblocked
      · exact Or.inl hclosed
      · rw [hwalk] at hblocked
        cases hblocked
    · rename_i hin
      rw [Bool.not_eq_true, Bool.or_eq_false_iff, Bool.not_eq_false', ← Bool.not_eq_true,
        Std.ExtTreeSet.contains_iff_mem] at hin
      unfold Search.improves
      cases hlabel : s.labels[next]? with
      | none =>
        rw [if_pos rfl]
        exact .put hshift hin.1 hin.2 fun label hl => by simp [hlabel] at hl
      | some label =>
        cases hlt : m.lt (m.add cost (m.step heading)) label.cost with
        | true =>
          rw [if_pos hlt]
          refine .put hshift hin.1 hin.2 fun label' hl => ?_
          obtain rfl : label = label' := Option.some.inj (hlabel.symm.trans hl)
          exact hlt
        | false =>
          rw [if_neg (by simp [hlt])]
          refine .pass fun next' hnext _ => Or.inr ?_
          obtain rfl : next = next' := Option.some.inj (hshift.symm.trans hnext)
          exact ⟨label, hlabel, hlt⟩

/-- Looks change neither the tiles that were expanded, nor their number, nor their labels. -/
theorem look_kept (m : CostModel C) (walk : Tile → Bool) (goal tile : Tile) (cost : C) (s : Search C)
    (heading : Heading) : (s.look m walk goal tile cost heading).closed = s.closed ∧
      (s.look m walk goal tile cost heading).expanded = s.expanded ∧
      ∀ t ∈ s.closed, (s.look m walk goal tile cost heading).labels[t]? = s.labels[t]? := by
  have h := glance m walk goal tile cost s heading
  generalize s.look m walk goal tile cost heading = s' at h ⊢
  cases h with
  | pass => exact ⟨rfl, rfl, fun _ _ => rfl⟩
  | put _ hnext =>
    refine ⟨rfl, rfl, fun t ht => ?_⟩
    rw [labels_enqueue, if_neg (ne_of_mem_of_not_mem ht hnext)]

/-- A look puts in line one tile at most. -/
theorem Serves.look {ok : Heap (Entry C) → Prop} {serve : Serving C} (hserves : Serves m ok serve)
    (hok : ok s.waiting) (walk : Tile → Bool) (goal tile : Tile) (cost : C) (heading : Heading) :
    ok (s.look m walk goal tile cost heading).waiting ∧
      (s.look m walk goal tile cost heading).waiting.toList.length ≤ s.waiting.toList.length + 1 := by
  have h := glance m walk goal tile cost s heading
  generalize s.look m walk goal tile cost heading = s' at h ⊢
  cases h with
  | pass => exact ⟨hok, Nat.le_succ _⟩
  | put => exact ⟨hserves.insert _ _ hok, (Heap.toList_insert _ _ (hserves.isTree _ hok)).length_eq.le⟩

/-- What holds of the headings that are left is kept by every look, so it holds after an expansion with none left. -/
theorem lookAround_induction (m : CostModel C) (walk : Tile → Bool) (goal : Tile)
    (P : List Heading → Search C → Prop) {label : Label C} (hlabel : s.labels[tile]? = some label)
    (hs : P Heading.all s)
    (hlook : ∀ heading left s, heading ∈ Heading.all → P (heading :: left) s →
      P left (s.look m walk goal tile label.cost heading)) :
    P [] (s.lookAround m walk goal tile) := by
  have looks : ∀ headings s, headings ⊆ Heading.all → P headings s →
      P [] (headings.foldl (Search.look m walk goal tile label.cost) s) := by
    intro headings
    induction headings with
    | nil => exact fun s _ hs => hs
    | cons heading left ih =>
      intro s hall hs
      obtain ⟨hheading, hleft⟩ := List.cons_subset.mp hall
      exact ih _ hleft (hlook heading left s hheading hs)
  rw [Search.lookAround, hlabel]
  exact looks Heading.all s (List.Subset.refl _) hs

theorem lookAround_kept (m : CostModel C) (walk : Tile → Bool) (goal tile : Tile) (s : Search C) :
    (s.lookAround m walk goal tile).closed = s.closed ∧ (s.lookAround m walk goal tile).expanded = s.expanded := by
  cases hlabel : s.labels[tile]? with
  | none => rw [Search.lookAround, hlabel]; exact ⟨rfl, rfl⟩
  | some label =>
    refine lookAround_induction m walk goal (fun _ s' => s'.closed = s.closed ∧ s'.expanded = s.expanded) hlabel
      ⟨rfl, rfl⟩ fun heading left s' _ hs' => ?_
    obtain ⟨hclosed, hexpanded, -⟩ := look_kept m walk goal tile label.cost s' heading
    exact ⟨hclosed.trans hs'.1, hexpanded.trans hs'.2⟩

/-- An expansion puts in line eight tiles at most. -/
theorem Serves.lookAround {ok : Heap (Entry C) → Prop} {serve : Serving C} (hserves : Serves m ok serve)
    (hok : ok s.waiting) (walk : Tile → Bool) (goal tile : Tile) : ok (s.lookAround m walk goal tile).waiting ∧
      (s.lookAround m walk goal tile).waiting.toList.length ≤ s.waiting.toList.length + 8 := by
  cases hlabel : s.labels[tile]? with
  | none => rw [Search.lookAround, hlabel]; exact ⟨hok, Nat.le_add_right _ _⟩
  | some label =>
    refine lookAround_induction m walk goal (fun left s' => ok s'.waiting ∧
      s'.waiting.toList.length + left.length ≤ s.waiting.toList.length + 8) hlabel ⟨hok, Nat.le_refl _⟩
      fun heading left s' _ hs' => ?_
    obtain ⟨hok', hlength⟩ := hserves.look hs'.1 walk goal tile label.cost heading
    have hleft := hs'.2
    rw [List.length_cons] at hleft
    exact ⟨hok', by omega⟩

/-- Where each look settles what is due in its heading, nothing is due after an expansion. -/
theorem lookAround_settles (m : CostModel C) (walk : Tile → Bool) (goal : Tile)
    (Q : (Tile → Tile → Prop) → Search C → Prop) {label : Label C} (hlabel : s.labels[tile]? = some label)
    (htile : tile ∈ s.closed)
    (hless : ∀ {due due' : Tile → Tile → Prop} {s : Search C}, Q due s → (∀ p t, due p t → due' p t) → Q due' s)
    (hlook : ∀ {due : Tile → Tile → Prop} {s : Search C} {heading : Heading}, s.labels[tile]? = some label →
      tile ∈ s.closed → heading ∈ Heading.all → Q due s →
      Q (fun p t => due p t ∧ ¬(p = tile ∧ tile.shift heading = some t)) (s.look m walk goal tile label.cost heading))
    (hs : Q (fun p t => p = tile ∧ p.adjacent t = true) s) :
    Q (fun _ _ => False) (s.lookAround m walk goal tile) := by
  -- an expanded tile is not looked at again, so its label stays while its neighbours change
  have hall := lookAround_induction m walk goal (fun left s' =>
    Q (fun p t => p = tile ∧ ∃ heading ∈ left, tile.shift heading = some t) s' ∧ tile ∈ s'.closed ∧
      s'.labels[tile]? = some label) hlabel
    ⟨hless hs fun p t hdue => ⟨hdue.1, Tile.exists_shift_iff.mpr (hdue.1 ▸ hdue.2)⟩, htile, hlabel⟩
    fun heading left s' hheading ⟨hs', htile', hlabel'⟩ => ?_
  · exact hless hall.1 fun p t hdue => by simp at hdue
  · obtain ⟨hclosed, -, hlabels⟩ := look_kept m walk goal tile label.cost s' heading
    refine ⟨hless (hlook hlabel' htile' hheading hs') fun p t hdue => ?_, hclosed ▸ htile', ?_⟩
    · obtain ⟨⟨rfl, other, hother, hshift⟩, hseen⟩ := hdue
      refine ⟨rfl, other, (List.mem_cons.mp hother).resolve_left ?_, hshift⟩
      rintro rfl
      exact hseen ⟨rfl, hshift⟩
    · rw [hlabels tile htile', hlabel']

/-! ## Runs -/

/-- A run ends in one of the ways if it has rounds for the tiles in line and for those that may still be put there. -/
theorem run_ends {ok : Heap (Entry C) → Prop} {serve : Serving C} (hserves : Serves m ok serve) {fuel : Nat}
    (hs : Reached m walk budget start goal serve s) (hok : ok s.waiting)
    (hfuel : s.waiting.toList.length + 8 * (budget - s.expanded) < fuel) :
    ∃ s', Reached m walk budget start goal serve s' ∧
      Ends budget start goal serve s' (s.run m walk budget start goal fuel) := by
  induction fuel generalizing s with
  | zero => omega
  | succ fuel ih =>
    rw [Search.run]
    cases hpop : s.waiting.pop? (Entry.before m) with
    | none => exact ⟨s, hs, .exhausted (Heap.eq_nil_of_pop? hpop)⟩
    | some popped =>
      obtain ⟨entry, rest⟩ := popped
      obtain ⟨hrest, hserve⟩ := hserves.pop _ _ _ hok hpop
      have hlength : rest.toList.length + 1 = s.waiting.toList.length :=
        (hserves.anyone _ _ _ hserve).2.length_eq
      dsimp only
      split
      · rename_i hclosed
        rw [Std.ExtTreeSet.contains_iff_mem] at hclosed
        exact ih (hs.skip hserve hclosed) hrest (by dsimp only; omega)
      · rename_i hclosed
        rw [Std.ExtTreeSet.contains_iff_mem] at hclosed
        split
        · rename_i hspent
          exact ⟨s, hs, .spent hserve hclosed hspent⟩
        · rename_i hspent
          rw [Nat.not_le] at hspent
          split
          · rename_i hgoal
            exact ⟨s, hs, .met hserve hclosed hspent hgoal⟩
          · rename_i hgoal
            refine ih (hs.expand hserve hclosed hspent hgoal) (hserves.lookAround hrest walk goal entry.tile).1 ?_
            have hleft := (hserves.lookAround (s := ({ s with waiting := rest } : Search C).close entry.tile) hrest walk
              goal entry.tile).2
            have hexpanded := (lookAround_kept m walk goal entry.tile
              (({ s with waiting := rest } : Search C).close entry.tile)).2
            simp only [Search.close] at hleft hexpanded ⊢
            omega

/-- The search ends in one of the ways. -/
theorem search_ends {ok : Heap (Entry C) → Prop} {serve : Serving C} (hserves : Serves m ok serve)
    (walk : Tile → Bool) (budget : Nat) (start goal : Tile) :
    ∃ s, Reached m walk budget start goal serve s ∧
      Ends budget start goal serve s (search m walk budget start goal) := by
  refine run_ends hserves .start (hserves.insert _ _ hserves.nil) ?_
  have hlength : (Search.start m start goal).waiting.toList.length = 1 := rfl
  have hexpanded : (Search.start m start goal).expanded = 0 := rfl
  rw [hlength, hexpanded, rounds]
  omega

end BestFirst

end TileRealm
