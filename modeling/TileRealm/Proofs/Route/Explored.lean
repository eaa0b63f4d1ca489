import Mathlib.Data.List.Perm.Subperm
import TileRealm.Proofs.Route.Search

/-!
# What a best-first search has explored

The invariant of the search, for every way of adding up, comparing and estimating costs and for every order in which
waiting tiles are taken.

- `Lineage`: how the labels lead back from a tile to the start.  All tiles before the last one were expanded, and the
  labels of those stay as they are (`Lineage.frame`), so no lineage meets a tile twice and each is a route;
- `Explored`: each label has a lineage, each labelled tile was expanded or waits, and the walkable neighbours of the
  expanded tiles are labelled, but for those which an expansion still owes a look;
- `explored_of_reached`: kept from the start by each step of the search;
- `Lineage.routeTo`, `Explored.met`: the route that the labels tell is the lineage, and shorter than the search.
-/

set_option autoImplicit false

namespace TileRealm

namespace BestFirst

variable {C : Type} {m : CostModel C} {walk : Tile → Bool} {budget : Nat} {start goal tile : Tile} {s s' : Search C}

/-! ## Lineages -/

/-- The labels lead back from a tile to the start, over the given tiles after the start, the last one first. -/
inductive Lineage (m : CostModel C) (walk : Tile → Bool) (s : Search C) (start : Tile) : Tile → List Tile → C → Prop
  | root : s.labels[start]? = some ⟨m.zero, none⟩ → Lineage m walk s start start [] m.zero
  | child {parent tile : Tile} {back : List Tile} {cost : C} {heading : Heading} :
      Lineage m walk s start parent back cost → parent ∈ s.closed → heading ∈ Heading.all →
      parent.shift heading = some tile → walk tile = true →
      s.labels[tile]? = some ⟨m.add cost (m.step heading), some parent⟩ → tile ∉ start :: back →
      Lineage m walk s start tile (tile :: back) (m.add cost (m.step heading))

namespace Lineage

variable {back : List Tile} {cost : C}

/-- Only the labels of the tile and of expanded ones count. -/
theorem frame (h : Lineage m walk s start tile back cost) (hclosed : ∀ t ∈ s.closed, t ∈ s'.closed)
    (hlabels : ∀ t, t ∈ s.closed ∨ t = tile → s'.labels[t]? = s.labels[t]?) :
    Lineage m walk s' start tile back cost := by
  induction h with
  | root hlabel => exact .root ((hlabels _ (Or.inr rfl)).trans hlabel)
  | child _ hparent hheading hshift hwalk hlabel hnew ih =>
    have hfrozen := ih fun t ht => hlabels t (Or.inl (ht.elim id fun ht => ht ▸ hparent))
    exact .child hfrozen (hclosed _ hparent) hheading hshift hwalk ((hlabels _ (Or.inr rfl)).trans hlabel) hnew

/-- The tiles before the last one were expanded. -/
theorem closed (h : Lineage m walk s start tile back cost) {t : Tile} (ht : t ∈ start :: back) :
    t = tile ∨ t ∈ s.closed := by
  induction h with
  | root => exact Or.inl (List.mem_singleton.mp ht)
  | child _ hparent _ _ _ _ _ ih =>
    rw [List.mem_cons, List.mem_cons, or_left_comm, ← List.mem_cons] at ht
    refine ht.imp_right fun ht => ?_
    exact (ih ht).elim (fun ht => ht ▸ hparent) id

/-- If a tile was expanded, then all tiles of its lineage were. -/
theorem subset_closed (h : Lineage m walk s start tile back cost) (htile : tile ∈ s.closed) {t : Tile}
    (ht : t ∈ start :: back) : t ∈ s.closed :=
  (h.closed ht).elim (fun ht => ht ▸ htile) id

theorem nodup (h : Lineage m walk s start tile back cost) : (start :: back).Nodup := by
  induction h with
  | root => simp
  | child _ _ _ _ _ _ hnew ih =>
    obtain ⟨hstart, hback⟩ := List.nodup_cons.mp ih
    rw [List.mem_cons, not_or] at hnew
    have hfirst := List.not_mem_cons_of_ne_of_not_mem (Ne.symm hnew.1) hstart
    exact List.nodup_cons.mpr ⟨hfirst, List.nodup_cons.mpr ⟨hnew.2, hback⟩⟩

/-- A lineage is a route, read backwards. -/
theorem isRoute (h : Lineage m walk s start tile back cost) : IsRoute walk start tile back.reverse := by
  induction h with
  | root => rfl
  | child _ _ hheading hshift hwalk _ _ ih =>
    rw [List.reverse_cons]
    exact ih.concat (Tile.adjacent_of_shift hheading hshift) hwalk

/-- A tile that is put in line was not expanded, so the lineages of the other tiles stay. -/
theorem enqueue (h : Lineage m walk s start tile back cost) {goal parent next : Tile} {other : C}
    (hnext : next ∉ s.closed) (hne : tile ≠ next) :
    Lineage m walk (s.enqueue m goal parent next other) start tile back cost :=
  h.frame (fun _ => id) fun t ht => by
    rw [labels_enqueue, if_neg]
    exact ht.elim (fun ht => ne_of_mem_of_not_mem ht hnext) (· ▸ hne)

/-- The lineage of an expanded tile goes on to a neighbour that is put in line. -/
theorem put (h : Lineage m walk s start tile back cost) {goal next : Tile} {heading : Heading}
    (htile : tile ∈ s.closed) (hheading : heading ∈ Heading.all) (hshift : tile.shift heading = some next)
    (hnext : next ∉ s.closed) (hwalk : walk next = true) :
    Lineage m walk (s.enqueue m goal tile next (m.add cost (m.step heading))) start next (next :: back)
      (m.add cost (m.step heading)) := by
  have hnew : next ∉ start :: back := fun hmem => hnext (h.subset_closed htile hmem)
  exact .child (h.enqueue hnext (ne_of_mem_of_not_mem htile hnext)) htile hheading hshift hwalk
    (by rw [labels_enqueue, if_pos rfl]) hnew

theorem mem_labels (h : Lineage m walk s start tile back cost) {t : Tile} (ht : t ∈ back) : t ∈ s.labels := by
  induction h with
  | root => cases ht
  | child _ _ _ _ _ hlabel _ ih =>
    rcases List.mem_cons.mp ht with rfl | ht
    · exact mem_labels_iff.mpr ⟨_, hlabel⟩
    · exact ih ht

/-- There are no more tiles in a lineage than labels. -/
theorem length_le_size (h : Lineage m walk s start tile back cost) : back.length ≤ s.labels.size := by
  rw [← Std.ExtTreeMap.length_keys]
  exact (List.subperm_of_subset h.nodup.of_cons fun t ht =>
    Std.ExtTreeMap.mem_keys.mpr (h.mem_labels ht)).length_le

/-- All tiles of a lineage but the last one were expanded, so there are no more of them than expanded ones. -/
theorem length_le_closed (h : Lineage m walk s start tile back cost) : back.length ≤ s.closed.size := by
  cases h with
  | root => exact Nat.zero_le _
  | child hback hparent =>
    rw [← Std.ExtTreeSet.length_toList]
    exact (List.subperm_of_subset hback.nodup fun t ht =>
      Std.ExtTreeSet.mem_toList.mpr (hback.subset_closed hparent ht)).length_le

theorem traceBack {fuel : Nat} {after : List Tile} (h : Lineage m walk s start tile back cost)
    (hfuel : back.length ≤ fuel) : Search.traceBack s.labels start fuel tile after = back.tail.reverse ++ after := by
  induction h generalizing fuel after with
  | root hlabel =>
    cases fuel with
    | zero => rfl
    | succ fuel => rw [Search.traceBack, hlabel]; rfl
  | @child parent tile back cost heading hparent _ _ _ _ hlabel _ ih =>
    cases fuel with
    | zero => exact absurd hfuel (Nat.not_succ_le_zero _)
    | succ fuel =>
      rw [Search.traceBack, hlabel]
      dsimp only [Option.bind_some]
      cases hparent with
      | root => rw [if_pos rfl]; rfl
      | child _ _ _ _ _ _ hnew =>
        rw [if_neg (List.ne_of_not_mem_cons hnew), ih (Nat.le_of_succ_le_succ hfuel)]
        simp

/-- The route that the labels tell is the lineage. -/
theorem routeTo (h : Lineage m walk s start tile back cost) (hne : tile ≠ start) :
    s.routeTo start tile = back.reverse := by
  rw [Search.routeTo, h.traceBack h.length_le_size]
  cases h with
  | root => exact absurd rfl hne
  | child => rw [List.tail_cons, List.reverse_cons]

theorem routeTo_start (h : Lineage m walk s start start [] m.zero) : s.routeTo start start = [start] := by
  rw [Search.routeTo, h.traceBack (Nat.zero_le _)]
  rfl

end Lineage

/-! ## The invariant -/

/-- What a search has explored; `due` are the neighbours of expanded tiles that it has not looked at yet. -/
structure Explored (m : CostModel C) (walk : Tile → Bool) (budget : Nat) (start goal : Tile)
    (due : Tile → Tile → Prop) (s : Search C) : Prop where
  isTree : s.waiting.IsTree
  size_closed : s.closed.size = s.expanded
  within : s.expanded ≤ budget
  unmet : goal ∉ s.closed
  origin : s.labels[start]? = some ⟨m.zero, none⟩
  labelled_waiting : ∀ entry ∈ s.waiting.toList, entry.tile ∈ s.labels
  labelled_closed : ∀ t ∈ s.closed, t ∈ s.labels
  waits : ∀ t ∈ s.labels, t ∉ s.closed → ∃ entry ∈ s.waiting.toList, entry.tile = t
  lineage : ∀ t label, s.labels[t]? = some label → ∃ back, Lineage m walk s start t back label.cost
  bordered : ∀ p ∈ s.closed, ∀ t, p.adjacent t = true → walk t = true → t ∈ s.labels ∨ due p t

namespace Explored

variable {due due' : Tile → Tile → Prop}

theorem exists_lineage (h : Explored m walk budget start goal due s) {t : Tile} (ht : t ∈ s.labels) :
    ∃ back cost, Lineage m walk s start t back cost := by
  obtain ⟨label, hlabel⟩ := mem_labels_iff.mp ht
  obtain ⟨back, hback⟩ := h.lineage t label hlabel
  exact ⟨back, label.cost, hback⟩

/-- The start is the first tile to be expanded. -/
theorem start_closed (h : Explored m walk budget start goal due s) {t : Tile} (ht : t ∈ s.closed) :
    start ∈ s.closed := by
  obtain ⟨back, cost, hback⟩ := h.exists_lineage (h.labelled_closed t ht)
  exact hback.subset_closed ht List.mem_cons_self

theorem of_start (m : CostModel C) (walk : Tile → Bool) (budget : Nat) (start goal : Tile) :
    Explored m walk budget start goal (fun _ _ => False) (Search.start m start goal) := by
  have hstart : ∀ t label, (Search.start m start goal).labels[t]? = some label →
      t = start ∧ label = ⟨m.zero, none⟩ := by
    intro t label hlabel
    rw [labels_start] at hlabel
    split at hlabel
    · rename_i ht
      exact ⟨ht, (Option.some.inj hlabel).symm⟩
    · cases hlabel
  have horigin : (Search.start m start goal).labels[start]? = some ⟨m.zero, none⟩ := by rw [labels_start, if_pos rfl]
  exact {
    isTree := rfl
    size_closed := Std.ExtTreeSet.size_empty
    within := Nat.zero_le _
    unmet := Std.ExtTreeSet.not_mem_empty
    origin := horigin
    labelled_waiting := fun entry hentry => by
      obtain rfl := mem_waiting_start.mp hentry
      exact mem_labels_iff.mpr ⟨_, horigin⟩
    labelled_closed := fun t ht => absurd ht Std.ExtTreeSet.not_mem_empty
    waits := fun t ht _ => by
      obtain ⟨label, hlabel⟩ := mem_labels_iff.mp ht
      exact ⟨_, mem_waiting_start.mpr rfl, (hstart t label hlabel).1.symm⟩
    lineage := fun t label hlabel => by
      obtain ⟨rfl, rfl⟩ := hstart t label hlabel
      exact ⟨[], .root horigin⟩
    bordered := fun p hp => absurd hp Std.ExtTreeSet.not_mem_empty }

/-- An entry whose tile was expanded can leave the line. -/
theorem skip (h : Explored m walk budget start goal due s) {entry : Entry C} {rest : Heap (Entry C)}
    (hserve : anyone s.waiting entry rest) (hclosed : entry.tile ∈ s.closed) :
    Explored m walk budget start goal due { s with waiting := rest } where
  isTree := hserve.1
  size_closed := h.size_closed
  within := h.within
  unmet := h.unmet
  origin := h.origin
  labelled_waiting other hother := h.labelled_waiting other (hserve.mem_rest hother)
  labelled_closed := h.labelled_closed
  waits t ht hopen := by
    obtain ⟨other, hother, rfl⟩ := h.waits t ht hopen
    exact ⟨other, hserve.mem_of_ne hother (ne_of_mem_of_not_mem hclosed hopen).symm, rfl⟩
  lineage t label hlabel := by
    obtain ⟨back, hback⟩ := h.lineage t label hlabel
    exact ⟨back, hback.frame (fun _ => id) fun _ _ => rfl⟩
  bordered := h.bordered

/-- A tile that is expanded owes its neighbours a look. -/
theorem close (h : Explored m walk budget start goal (fun _ _ => False) s) {entry : Entry C} {rest : Heap (Entry C)}
    (hserve : anyone s.waiting entry rest) (hopen : entry.tile ∉ s.closed) (hspare : s.expanded < budget)
    (hgoal : entry.tile ≠ goal) :
    Explored m walk budget start goal (fun p t => p = entry.tile ∧ p.adjacent t = true)
      (({ s with waiting := rest } : Search C).close entry.tile) where
  isTree := hserve.1
  size_closed := by
    dsimp only [Search.close]
    rw [Std.ExtTreeSet.size_insert, if_neg (mt Std.ExtTreeSet.contains_iff_mem.mp hopen), h.size_closed]
  within := hspare
  unmet hmem := (Tile.mem_insert.mp hmem).elim (fun heq => hgoal heq.symm) h.unmet
  origin := h.origin
  labelled_waiting other hother := h.labelled_waiting other (hserve.mem_rest hother)
  labelled_closed t ht := by
    rcases Tile.mem_insert.mp ht with rfl | ht
    · exact h.labelled_waiting entry hserve.mem_entry
    · exact h.labelled_closed t ht
  waits t ht hopen' := by
    rw [Search.close, Tile.mem_insert, not_or] at hopen'
    obtain ⟨other, hother, rfl⟩ := h.waits t ht hopen'.2
    exact ⟨other, hserve.mem_of_ne hother hopen'.1, rfl⟩
  lineage t label hlabel := by
    obtain ⟨back, hback⟩ := h.lineage t label hlabel
    exact ⟨back, hback.frame (fun _ hp => Tile.mem_insert.mpr (Or.inr hp)) fun _ _ => rfl⟩
  bordered p hp t hadjacent hwalk := by
    rcases Tile.mem_insert.mp hp with rfl | hp
    · exact Or.inr ⟨rfl, hadjacent⟩
    · exact Or.inl ((h.bordered p hp t hadjacent hwalk).elim id False.elim)

/-- Neighbours that are labelled by now are due no more. -/
theorem waive (h : Explored m walk budget start goal due s)
    (hdue : ∀ p t, walk t = true → due p t → t ∈ s.labels ∨ due' p t) : Explored m walk budget start goal due' s where
  isTree := h.isTree
  size_closed := h.size_closed
  within := h.within
  unmet := h.unmet
  origin := h.origin
  labelled_waiting := h.labelled_waiting
  labelled_closed := h.labelled_closed
  waits := h.waits
  lineage := h.lineage
  bordered p hp t hadjacent hwalk := (h.bordered p hp t hadjacent hwalk).elim Or.inl (hdue p t hwalk)

/-- A neighbour of an expanded tile that was not expanded itself is put in line. -/
theorem enqueue (h : Explored m walk budget start goal due s) {label : Label C} {heading : Heading} {next : Tile}
    (hlabel : s.labels[tile]? = some label) (htile : tile ∈ s.closed) (hheading : heading ∈ Heading.all)
    (hshift : tile.shift heading = some next) (hnext : next ∉ s.closed) (hwalk : walk next = true) :
    Explored m walk budget start goal due
      (s.enqueue m goal tile next (m.add label.cost (m.step heading))) := by
  have hkept : ∀ t, t ≠ next →
      (s.enqueue m goal tile next (m.add label.cost (m.step heading))).labels[t]? = s.labels[t]? := fun t ht => by
    rw [labels_enqueue, if_neg ht]
  exact {
    isTree := Heap.isTree_insert _ _ h.isTree
    size_closed := h.size_closed
    within := h.within
    unmet := h.unmet
    origin := (hkept start (ne_of_mem_of_not_mem (h.start_closed htile) hnext)).trans h.origin
    labelled_waiting := fun entry hentry => mem_labels_enqueue.mpr <| by
      rcases (mem_waiting_enqueue h.isTree).mp hentry with rfl | hentry
      · exact Or.inl rfl
      · exact Or.inr (h.labelled_waiting entry hentry)
    labelled_closed := fun t ht => mem_labels_enqueue.mpr (Or.inr (h.labelled_closed t ht))
    waits := fun t ht hopen => by
      rcases mem_labels_enqueue.mp ht with rfl | ht
      · exact ⟨_, (mem_waiting_enqueue h.isTree).mpr (Or.inl rfl), rfl⟩
      · obtain ⟨entry, hentry, htile⟩ := h.waits t ht hopen
        exact ⟨entry, (mem_waiting_enqueue h.isTree).mpr (Or.inr hentry), htile⟩
    lineage := fun t other hother => by
      by_cases ht : t = next
      · obtain ⟨back, hback⟩ := h.lineage tile label hlabel
        rw [labels_enqueue, if_pos ht, Option.some.injEq] at hother
        subst ht hother
        exact ⟨t :: back, hback.put htile hheading hshift hnext hwalk⟩
      · obtain ⟨back, hback⟩ := h.lineage t other ((hkept t ht).symm.trans hother)
        exact ⟨back, hback.enqueue hnext ht⟩
    bordered := fun p hp t hadjacent hfree =>
      (h.bordered p hp t hadjacent hfree).imp_left fun ht => mem_labels_enqueue.mpr (Or.inr ht) }

/-- A look at a neighbour that was due. -/
theorem look (h : Explored m walk budget start goal due s) {label : Label C} {heading : Heading}
    (hlabel : s.labels[tile]? = some label) (htile : tile ∈ s.closed) (hheading : heading ∈ Heading.all) :
    Explored m walk budget start goal (fun p t => due p t ∧ ¬ (p = tile ∧ tile.shift heading = some t))
      (s.look m walk goal tile label.cost heading) := by
  have hg := glance m walk goal tile label.cost s heading
  generalize s.look m walk goal tile label.cost heading = s' at hg ⊢
  cases hg with
  | pass hpass =>
    refine h.waive fun p t hwalk hdue => ?_
    by_cases hseen : p = tile ∧ tile.shift heading = some t
    · rcases hpass t hseen.2 hwalk with hclosed | ⟨other, hother, -⟩
      · exact Or.inl (h.labelled_closed t hclosed)
      · exact Or.inl (mem_labels_iff.mpr ⟨other, hother⟩)
    · exact Or.inr ⟨hdue, hseen⟩
  | put hshift hnext hwalk =>
    refine (h.enqueue hlabel htile hheading hshift hnext hwalk).waive fun p t _ hdue => ?_
    by_cases hseen : p = tile ∧ tile.shift heading = some t
    · obtain rfl := Option.some.inj (hshift.symm.trans hseen.2)
      exact Or.inl (mem_labels_enqueue.mpr (Or.inl rfl))
    · exact Or.inr ⟨hdue, hseen⟩

/-- An expansion looks at all neighbours. -/
theorem lookAround (h : Explored m walk budget start goal (fun p t => p = tile ∧ p.adjacent t = true) s)
    (htile : tile ∈ s.closed) :
    Explored m walk budget start goal (fun _ _ => False) (s.lookAround m walk goal tile) := by
  obtain ⟨label, hlabel⟩ := mem_labels_iff.mp (h.labelled_closed tile htile)
  exact lookAround_settles m walk goal (fun due s => Explored m walk budget start goal due s) hlabel htile
    (fun hs hdue => hs.waive fun p t _ hd => Or.inr (hdue p t hd))
    (fun hlabel htile hheading hs => hs.look hlabel htile hheading) h

end Explored

/-- **The invariant of the search.** -/
theorem explored_of_reached (h : Reached m walk budget start goal anyone s) :
    Explored m walk budget start goal (fun _ _ => False) s := by
  induction h with
  | start => exact .of_start m walk budget start goal
  | skip _ hserve hclosed ih => exact ih.skip hserve hclosed
  | expand _ hserve hopen hspare hgoal ih =>
    exact (ih.close hserve hopen hspare hgoal).lookAround (Tile.mem_insert.mpr (Or.inl rfl))

/-! ## Answers -/

/-- The route that is told when the goal is met. -/
theorem Explored.met (h : Explored m walk budget start goal (fun _ _ => False) s) {entry : Entry C}
    {rest : Heap (Entry C)} (hserve : anyone s.waiting entry rest) (hgoal : entry.tile = goal) (hne : start ≠ goal) :
    ∃ back cost, Lineage m walk s start goal back cost ∧ (s.close goal).routeTo start goal = back.reverse ∧
      back.length ≤ s.expanded := by
  have hlabel := h.labelled_waiting entry hserve.mem_entry
  obtain ⟨back, cost, hback⟩ := h.exists_lineage (hgoal ▸ hlabel)
  exact ⟨back, cost, hback, hback.routeTo hne.symm, h.size_closed ▸ hback.length_le_closed⟩

/-- **What a best-first search finds.** Its route visits no tile twice and has fewer tiles than were expanded, of which
there are no more than the budget allows. -/
theorem search_spec (m : CostModel C) (walk : Tile → Bool) (budget : Nat) (hne : start ≠ goal) :
    (search m walk budget start goal).expanded ≤ budget ∧
      ∀ path, (search m walk budget start goal).route = some path →
        IsRoute walk start goal path ∧ (start :: path).Nodup ∧
          path.length < (search m walk budget start goal).expanded := by
  obtain ⟨s, hs, hends⟩ := search_ends (serves_anyone m) walk budget start goal
  have hexplored := explored_of_reached hs
  generalize search m walk budget start goal = answer at hends ⊢
  cases hends with
  | exhausted => exact ⟨hexplored.within, nofun⟩
  | spent => exact ⟨hexplored.within, nofun⟩
  | met hserve _ hspare hgoal =>
    obtain ⟨back, cost, hback, hroute, hlength⟩ := hexplored.met hserve hgoal hne
    refine ⟨hspare, fun path hpath => ?_⟩
    cases hpath
    rw [hroute, List.length_reverse]
    exact ⟨hback.isRoute, (back.reverse_perm.cons start).nodup_iff.mpr hback.nodup, Nat.lt_succ_of_le hlength⟩

end BestFirst

end TileRealm
