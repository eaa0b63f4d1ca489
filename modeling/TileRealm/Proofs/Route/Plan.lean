import TileRealm.Proofs.Route.Explored
import TileRealm.Proofs.Route.Straight
import TileRealm.Route.Planner

/-!
# What planners answer

- `Leads`: a path that leads from a tile to another, one walkable neighbour after the other;
- `Plan.Sound`: the answers that are right for what was asked, and their work;
- `plan_sound`: every answer is, with no division by 0 on a straight walk, and in a best-first search with labels that
  lead from every tile back to the start.
-/

set_option autoImplicit false

namespace TileRealm

variable {walk : Tile → Bool} {limits : Limits} {algorithm : Algorithm} {start goal : Tile} {path : List Tile}

/-- A path leads from a tile to another over walkable tiles, each one step away from the one before, and meets no tile
twice. -/
structure Leads (walk : Tile → Bool) (start goal : Tile) (path : List Tile) : Prop where
  nonempty : path ≠ []
  getLast? : path.getLast? = some goal
  walk : ∀ t ∈ path, walk t = true
  isChain : (start :: path).IsChain fun a b => a.steps b = 1
  nodup : (start :: path).Nodup

theorem IsRoute.leads (hroute : IsRoute walk start goal path) (hnodup : (start :: path).Nodup) (hne : start ≠ goal) :
    Leads walk start goal path where
  nonempty := hroute.ne_nil hne
  getLast? := hroute.getLast? hne
  walk _ ht := hroute.walk ht
  isChain := hroute.isChain
  nodup := hnodup

/-- What an answer says about what was asked, and how much work it took. -/
structure Plan.Sound (walk : Tile → Bool) (limits : Limits) (algorithm : Algorithm) (start goal : Tile) (p : Plan) :
    Prop where
  missed : p.found = false → p.path = []
  blocked : walk start = false ∨ walk goal = false → p.found = false ∧ p.expanded = 0
  stay : p.found = true → start = goal → p.path = [goal] ∧ walk goal = true
  leads : p.found = true → start ≠ goal → Leads walk start goal p.path
  straight : p.found = true → start ≠ goal → algorithm = .straight → p.path.length = p.expanded
  bestFirst : p.found = true → start ≠ goal → algorithm = .bestFirst → p.path.length < p.expanded
  steps_le : algorithm = .straight → p.expanded ≤ limits.steps
  expansions_le : algorithm = .bestFirst → p.expanded ≤ limits.expansions

namespace Plan

theorem path_of_not_found {p : Plan} (h : p.found = false) : p.path = [] := by
  rw [found, Option.isSome_eq_false_iff, Option.isNone_iff_eq_none] at h
  rw [path, h, Option.getD_none]

theorem route_of_found {p : Plan} (h : p.found = true) : p.route = some p.path := by
  obtain ⟨route, hroute⟩ := Option.isSome_iff_exists.mp h
  rw [path, hroute, Option.getD_some]

theorem sound_none : Sound walk limits algorithm start goal ⟨none, 0⟩ where
  missed _ := rfl
  blocked _ := ⟨rfl, rfl⟩
  stay := nofun
  leads := nofun
  straight := nofun
  bestFirst := nofun
  steps_le _ := Nat.zero_le _
  expansions_le _ := Nat.zero_le _

theorem sound_stay (hstart : walk start = true) (hgoal : walk goal = true) (heq : start = goal) :
    Sound walk limits algorithm start goal ⟨some [goal], 0⟩ where
  missed := nofun
  blocked h := by simp [hstart, hgoal] at h
  stay _ _ := ⟨rfl, hgoal⟩
  leads _ hne := absurd heq hne
  straight _ hne := absurd heq hne
  bestFirst _ hne := absurd heq hne
  steps_le _ := Nat.zero_le _
  expansions_le _ := Nat.zero_le _

theorem sound_straight (hstart : walk start = true) (hgoal : walk goal = true) (hne : start ≠ goal) :
    Sound walk limits .straight start goal (Straight.search walk limits.steps start goal) := by
  obtain ⟨hle, hroute⟩ := Straight.search_spec walk limits.steps start goal
  generalize Straight.search walk limits.steps start goal = p at hle hroute
  exact {
    missed := path_of_not_found
    blocked := fun h => by simp [hstart, hgoal] at h
    stay := fun _ heq => absurd heq hne
    leads := fun hfound _ => (hroute _ (route_of_found hfound)).1.leads (hroute _ (route_of_found hfound)).2.1 hne
    straight := fun hfound _ _ => (hroute _ (route_of_found hfound)).2.2
    bestFirst := nofun
    steps_le := fun _ => hle
    expansions_le := nofun }

theorem sound_bestFirst {C : Type} (m : CostModel C) (hstart : walk start = true) (hgoal : walk goal = true)
    (hne : start ≠ goal) :
    Sound walk limits .bestFirst start goal (BestFirst.search m walk limits.expansions start goal) := by
  obtain ⟨hle, hroute⟩ := BestFirst.search_spec m walk limits.expansions hne
  generalize BestFirst.search m walk limits.expansions start goal = p at hle hroute
  exact {
    missed := path_of_not_found
    blocked := fun h => by simp [hstart, hgoal] at h
    stay := fun _ heq => absurd heq hne
    leads := fun hfound _ => (hroute _ (route_of_found hfound)).1.leads (hroute _ (route_of_found hfound)).2.1 hne
    straight := nofun
    bestFirst := fun hfound _ _ => (hroute _ (route_of_found hfound)).2.2
    steps_le := nofun
    expansions_le := fun _ => hle }

end Plan

/-- **What planners answer.** Every answer is sound.  A straight walk divides by no 0.  A best-first search goes through
searches in each of which the labels lead from every labelled tile back to the start, with no tile met twice, and this
is the route that they tell. -/
theorem plan_sound (walk : Tile → Bool) (limits : Limits) (algorithm : Algorithm) (start goal : Tile) :
    (plan walk limits algorithm start goal).Sound walk limits algorithm start goal ∧
      Straight.search? walk limits.steps start goal = some (Straight.search walk limits.steps start goal) ∧
      (∃ s, BestFirst.Reached (.ofHeuristic limits.heuristic) walk limits.expansions start goal BestFirst.anyone s ∧
        BestFirst.Ends limits.expansions start goal BestFirst.anyone s
          (BestFirst.search (.ofHeuristic limits.heuristic) walk limits.expansions start goal)) ∧
      ∀ s, BestFirst.Reached (.ofHeuristic limits.heuristic) walk limits.expansions start goal BestFirst.anyone s →
        ∀ t ∈ s.labels, ∃ back cost, BestFirst.Lineage (.ofHeuristic limits.heuristic) walk s start t back cost ∧
          (start :: back).Nodup ∧ (t ≠ start → s.routeTo start t = back.reverse) := by
  refine ⟨?_, Straight.search?_eq walk limits.steps start goal,
    BestFirst.search_ends (BestFirst.serves_anyone _) walk limits.expansions start goal, fun s hs t ht => ?_⟩
  · unfold plan
    split
    · exact Plan.sound_none
    · rename_i hfree
      rw [Bool.not_eq_true, Bool.or_eq_false_iff, Bool.not_eq_false', Bool.not_eq_false'] at hfree
      split
      · rename_i heq
        exact Plan.sound_stay hfree.1 hfree.2 heq
      · rename_i hne
        cases algorithm with
        | straight => exact Plan.sound_straight hfree.1 hfree.2 hne
        | bestFirst => exact Plan.sound_bestFirst _ hfree.1 hfree.2 hne
  · obtain ⟨back, cost, hback⟩ := (BestFirst.explored_of_reached hs).exists_lineage ht
    exact ⟨back, cost, hback, hback.nodup, hback.routeTo⟩

end TileRealm
