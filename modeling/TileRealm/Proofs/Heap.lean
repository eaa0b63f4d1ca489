import TileRealm.Heap

/-!
# Heaps give back the smallest value

- `Heap.isTree_pop?`, `Heap.eq_nil_of_pop?`: what is left of a heap, and that only an empty one gives nothing;
- `Heap.Ordered`: each value lies on top of values that come after it;
- `Heap.ordered_insert`, `Heap.ordered_pop?`: kept by putting values in and taking them out;
- `Heap.before_of_pop?`: the value that is taken comes before all others.
-/

set_option autoImplicit false

namespace TileRealm

namespace Heap

variable {α : Type} {le : α → α → Bool}

theorem isTree_pop? {s rest : Heap α} {a : α} (h : s.pop? le = some (a, rest)) : rest.IsTree := by
  cases s with
  | nil => simp [pop?] at h
  | node top below beside =>
    simp only [pop?, Option.some.injEq, Prod.mk.injEq] at h
    exact h.2 ▸ isTree_gather _ _

theorem eq_nil_of_pop? {s : Heap α} (h : s.pop? le = none) : s = nil := by
  cases s with
  | nil => rfl
  | node top below beside => simp [pop?] at h

/-- Each value comes before those below it. -/
def Ordered (le : α → α → Bool) : Heap α → Prop
  | nil => True
  | node top below beside => (∀ a ∈ below.toList, le top a = true) ∧ below.Ordered le ∧ beside.Ordered le

section

variable (htotal : ∀ a b, le a b = true ∨ le b a = true)
  (htrans : ∀ a b c, le a b = true → le b c = true → le a c = true)

include htotal htrans

/-- The tree with the larger top comes below the other one, and what was below it comes after both. -/
theorem ordered_join {s t : Heap α} (hs : s.Ordered le) (ht : t.Ordered le) : (join le s t).Ordered le := by
  have below : ∀ {a b : α} {s t : Heap α}, le a b = true → (∀ x ∈ s.toList, le a x = true) →
      (∀ x ∈ t.toList, le b x = true) → ∀ x ∈ (node b t s).toList, le a x = true := by
    intro a b s t hab hs ht x hx
    simp only [toList, List.mem_cons, List.mem_append] at hx
    rcases hx with rfl | hx | hx
    · exact hab
    · exact htrans a b x hab (ht x hx)
    · exact hs x hx
  cases s with
  | nil => cases t <;> simpa only [join] using ht
  | node a s' beside =>
    cases t with
    | nil => simpa only [join] using hs
    | node b t' beside' =>
      obtain ⟨ha, hs', -⟩ := hs
      obtain ⟨hb, ht', -⟩ := ht
      rw [join]
      split
      · rename_i hab
        exact ⟨below hab ha hb, ⟨hb, ht', hs'⟩, trivial⟩
      · rename_i hab
        exact ⟨below ((htotal a b).resolve_left hab) hb ha, ⟨ha, hs', ht'⟩, trivial⟩

theorem ordered_insert (a : α) {s : Heap α} (hs : s.Ordered le) : (insert le a s).Ordered le :=
  ordered_join htotal htrans ⟨nofun, trivial, trivial⟩ hs

theorem ordered_gather : ∀ {s : Heap α}, s.Ordered le → (gather le s).Ordered le
  | nil, _ => trivial
  | node _ _ nil, hs => hs
  | node _ _ (node _ _ _), ⟨ha, hs, hb, ht, hbeside⟩ =>
    ordered_join htotal htrans (ordered_join htotal htrans ⟨ha, hs, trivial⟩ ⟨hb, ht, trivial⟩) (ordered_gather hbeside)

theorem ordered_pop? {s rest : Heap α} {a : α} (hs : s.Ordered le) (h : s.pop? le = some (a, rest)) :
    rest.Ordered le := by
  cases s with
  | nil => simp [pop?] at h
  | node top below beside =>
    simp only [pop?, Option.some.injEq, Prod.mk.injEq] at h
    exact h.2 ▸ ordered_gather htotal htrans hs.2.1

omit htrans in
/-- The value that is taken comes before all others. -/
theorem before_of_pop? {s rest : Heap α} {a : α} (htree : s.IsTree) (hs : s.Ordered le)
    (h : s.pop? le = some (a, rest)) : ∀ b ∈ s.toList, le a b = true := by
  cases s with
  | nil => simp [pop?] at h
  | node top below beside =>
    cases htree
    simp only [pop?, Option.some.injEq, Prod.mk.injEq] at h
    obtain ⟨rfl, -⟩ := h
    intro b hb
    simp only [toList, List.append_nil, List.mem_cons] at hb
    rcases hb with rfl | hb
    · exact (htotal b b).elim id id
    · exact hs.1 b hb

end

end Heap

end TileRealm
