/-!
# Heaps

A heap gives back the smallest of the values put into it.  It is a forest of trees, each with its
smallest value on top, in which a tree is joined to another by one comparison.  What is smaller is
a parameter of the operations, so that values of any kind can wait in a heap.

* `Heap.insert`, `Heap.pop?`: a value in, the smallest value out.
* `Heap.toList`: the values of a heap in no particular order.
* `Heap.toList_insert`, `Heap.toList_pop?`: no value is lost, and none is invented.
-/

set_option autoImplicit false

namespace TileRealm

/-- A forest: a value on top of a forest of its own, beside the rest of the trees. -/
inductive Heap (α : Type) where
  | nil
  | node (top : α) (below beside : Heap α)

namespace Heap

variable {α : Type}

/-- The values of a heap, tree after tree. -/
def toList : Heap α → List α
  | nil => []
  | node top below beside => top :: (below.toList ++ beside.toList)

/-- Joins two trees: the one with the larger top goes below the other. -/
def join (le : α → α → Bool) : Heap α → Heap α → Heap α
  | node a below _, node b below' _ =>
    if le a b then node a (node b below' below) nil else node b (node a below below') nil
  | nil, tree => tree
  | tree, nil => tree

/-- A heap with one more value. -/
def insert (le : α → α → Bool) (a : α) (heap : Heap α) : Heap α :=
  join le (node a nil nil) heap

/-- Joins the trees of a forest into one, in pairs. -/
def gather (le : α → α → Bool) : Heap α → Heap α
  | nil => nil
  | node a below nil => node a below nil
  | node a below (node b below' beside) =>
    join le (join le (node a below nil) (node b below' nil)) (gather le beside)

/-- The smallest value and the heap without it. -/
def pop? (le : α → α → Bool) : Heap α → Option (α × Heap α)
  | nil => none
  | node top below _ => some (top, gather le below)

/-! ## The values of a heap -/

/-- One tree at most: nothing stands beside the top. -/
def IsTree : Heap α → Prop
  | nil => True
  | node _ _ beside => beside = nil

theorem isTree_join (le : α → α → Bool) {s t : Heap α} (hs : s.IsTree) (ht : t.IsTree) :
    (join le s t).IsTree := by
  cases s with
  | nil => cases t <;> simpa [join] using ht
  | node a below beside =>
    cases t with
    | nil => simpa [join] using hs
    | node b below' beside' =>
      simp only [join]
      split <;> rfl

theorem isTree_insert (le : α → α → Bool) (a : α) {s : Heap α} (hs : s.IsTree) :
    (insert le a s).IsTree :=
  isTree_join le rfl hs

theorem isTree_gather (le : α → α → Bool) : ∀ s : Heap α, (gather le s).IsTree
  | nil => trivial
  | node _ _ nil => rfl
  | node _ _ (node _ _ beside) =>
    isTree_join le (isTree_join le rfl rfl) (isTree_gather le beside)

theorem toList_join (le : α → α → Bool) {s t : Heap α} (hs : s.IsTree) (ht : t.IsTree) :
    (join le s t).toList.Perm (s.toList ++ t.toList) := by
  cases s with
  | nil => cases t <;> simp [join, toList]
  | node a below beside =>
    cases t with
    | nil => simp [join, toList]
    | node b below' beside' =>
      cases hs
      cases ht
      simp only [join]
      split
      · simpa [toList] using (List.perm_append_comm : (b :: below'.toList ++ below.toList).Perm _)
      · simp only [toList, List.append_nil, List.cons_append]
        exact (List.Perm.swap a b _).trans (List.perm_middle.symm.cons a)

theorem toList_insert (le : α → α → Bool) (a : α) {s : Heap α} (hs : s.IsTree) :
    (insert le a s).toList.Perm (a :: s.toList) := by
  simpa [insert, toList] using toList_join le (s := node a nil nil) rfl hs

theorem toList_gather (le : α → α → Bool) : ∀ s : Heap α, (gather le s).toList.Perm s.toList
  | nil => .refl _
  | node _ _ nil => .refl _
  | node a below (node b below' beside) => by
    have pair := toList_join le (s := node a below nil) (t := node b below' nil) rfl rfl
    have all := toList_join le (isTree_join le (s := node a below nil) (t := node b below' nil)
      rfl rfl) (isTree_gather le beside)
    have rest := toList_gather le beside
    simpa [gather, toList] using all.trans (pair.append rest)

theorem toList_pop? (le : α → α → Bool) {s rest : Heap α} {a : α} (hs : s.IsTree)
    (h : s.pop? le = some (a, rest)) : (a :: rest.toList).Perm s.toList := by
  cases s with
  | nil => simp [pop?] at h
  | node top below beside =>
    cases hs
    simp only [pop?, Option.some.injEq, Prod.mk.injEq] at h
    obtain ⟨rfl, rfl⟩ := h
    simpa [toList] using toList_gather le below

end Heap

end TileRealm
