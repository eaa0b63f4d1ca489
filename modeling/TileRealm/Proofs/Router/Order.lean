import Mathlib.Data.List.Basic
import TileRealm.Proofs.Router

/-!
# In which order the entities are told

A delivery for the whole scene is written on the lines of all entities, in no particular order.

- `Router.foldl_tell_perm`: telling the entities one after the other, in any order, is a broadcast;
- `Router.foldl_perform_of_admits`: a delivery may be written in any of the possible orders.
-/

set_option autoImplicit false

namespace TileRealm

namespace Router

variable {scale : Scale} {r : Router} {d : Delivery} {text : String} {order : List Handle}

theorem write_right_comm (text : String) (r : Router) (a b : LineId) :
    (r.write text a).write text b = (r.write text b).write text a := by
  have hlines : (r.lines.modify a (·.send text)).modify b (·.send text) =
      (r.lines.modify b (·.send text)).modify a (·.send text) := by
    apply Std.ExtTreeMap.ext_getElem?
    intro l
    simp only [getElem?_modify]
    split <;> split <;> rfl
  exact congrArg (fun lines => { r with lines := lines }) hlines

/-- Telling some entities the same writes on those of their lines that are open, and forgets the others. -/
theorem foldl_tell (r : Router) (horder : order.Nodup) : order.foldl (fun r h => r.tell h text) r =
    ((order.filterMap (r.writers[·]?)).filter r.isOpen).foldl (write text)
      { r with writers := r.writers.filter fun h line => !order.contains h || r.isOpen line } := by
  induction order generalizing r with
  | nil =>
    have hall : (r.writers.filter fun h line => !([] : List Handle).contains h || r.isOpen line) = r.writers :=
      Std.ExtTreeMap.filter_eq_self_iff.mpr fun _ _ => rfl
    rw [hall]
    rfl
  | cons h order ih =>
    obtain ⟨hnew, horder⟩ := List.nodup_cons.mp horder
    have hopen : (r.tell h text).isOpen = r.isOpen := funext fun _ => isOpen_tell
    have hothers : order.filterMap ((r.tell h text).writers[·]?) = order.filterMap (r.writers[·]?) := by
      apply List.filterMap_congr
      intro g hg
      rw [getElem?_writers_tell, if_neg]
      rintro rfl
      exact hnew hg
    have hwriters : ((r.tell h text).writers.filter fun g line => !order.contains g || r.isOpen line) =
        r.writers.filter fun g line => !(h :: order).contains g || r.isOpen line := by
      apply Std.ExtTreeMap.ext_getElem?
      intro g
      rw [Std.ExtTreeMap.getElem?_filter', Std.ExtTreeMap.getElem?_filter', getElem?_writers_tell]
      by_cases hg : g = h
      · subst hg
        rw [if_pos rfl]
        cases r.writers[g]? with
        | none => rfl
        | some l => cases hl : r.isOpen l <;> simp [Option.filter, hl]
      · rw [if_neg hg, List.contains_cons, beq_eq_false_iff_ne.mpr hg, Bool.false_or]
    rw [List.foldl_cons, ih _ horder, hopen, hothers, hwriters]
    -- what is left is the write on the line of the first entity
    cases hline : r.writers[h]? with
    | none => rw [tell_of_none hline, List.filterMap_cons_none hline]
    | some l =>
      rw [List.filterMap_cons_some hline]
      cases hl : r.isOpen l with
      | true =>
        rw [tell_of_open hline hl, List.filter_cons_of_pos hl, List.foldl_cons]
        rfl
      | false =>
        rw [tell_of_closed hline hl, List.filter_cons_of_neg (by simp [hl])]
        rfl

/-- **No order of the entities is better than another.** Telling all entities with a line the same, in any order, is
the same as a broadcast. -/
theorem foldl_tell_perm (r : Router) (horder : order.Perm r.writers.keys) :
    order.foldl (fun r h => r.tell h text) r = r.broadcast text := by
  have hwriters : (r.writers.filter fun h line => !order.contains h || r.isOpen line) =
      r.writers.filter fun _ line => r.isOpen line := by
    apply Std.ExtTreeMap.ext_getElem?
    intro h
    rw [Std.ExtTreeMap.getElem?_filter', Std.ExtTreeMap.getElem?_filter']
    cases hline : r.writers[h]? with
    | none => rfl
    | some line =>
      have hmem : h ∈ order := by
        rw [horder.mem_iff, Std.ExtTreeMap.mem_keys, Std.ExtTreeMap.mem_iff_isSome_getElem?, hline]
        rfl
      simp [hmem]
  have hvalues : r.writers.keys.filterMap (r.writers[·]?) = r.writers.values := by
    rw [← Std.ExtTreeMap.map_fst_toList_eq_keys, Roster.values_eq, List.filterMap_map, ← List.filterMap_eq_map]
    apply List.filterMap_congr
    rintro ⟨h, line⟩ hentry
    exact Std.ExtTreeMap.mem_toList_iff_getElem?_eq_some.mp hentry
  have hlines : ((order.filterMap (r.writers[·]?)).filter r.isOpen).Perm
      (r.writers.filter fun _ line => r.isOpen line).values := by
    have hfilter : (r.writers.filter fun _ line => r.isOpen line).values = r.writers.values.filter r.isOpen := by
      rw [Roster.values_eq, Roster.values_eq, Std.ExtTreeMap.toList_filter, List.filter_map]
      rfl
    rw [hfilter, ← hvalues]
    exact (horder.filterMap _).filter _
  rw [foldl_tell r (horder.nodup_iff.mpr Std.ExtTreeMap.nodup_keys), hwriters, broadcast]
  exact hlines.foldl_eq' (fun _ _ _ _ r => write_right_comm text r _ _) _

theorem foldl_perform (hscale : r.scale = scale) (order : List Handle) (d : Delivery) :
    order.foldl (fun r h => r.perform (.tell h d)) r =
      order.foldl (fun r h => r.tell h (Wire.text scale d.event)) r := by
  induction order generalizing r with
  | nil => rw [List.foldl_nil, List.foldl_nil]
  | cons h order ih =>
    have htell : r.perform (.tell h d) = r.tell h (Wire.text scale d.event) := by rw [perform, hscale]
    rw [List.foldl_cons, List.foldl_cons, htell]
    exact ih (scale_tell.trans hscale)

/-- **The order of the entities does not matter.** However a delivery is written, what comes of it is the same. -/
theorem foldl_perform_of_admits (horder : r.admits d order = true) :
    order.foldl (fun r h => r.perform (.tell h d)) r = r.deliver d := by
  rw [foldl_perform rfl, deliver]
  rw [admits] at horder
  cases hd : d.recipient with
  | scene =>
    rw [hd] at horder
    exact foldl_tell_perm r (List.isPerm_iff.mp horder)
  | entity h =>
    rw [hd] at horder
    rw [beq_iff_eq.mp horder]
    rfl

end Router

end TileRealm
