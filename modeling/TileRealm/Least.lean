/-!
# The first of the least

* `leastBy`: the first value of a list whose key is least.
-/

set_option autoImplicit false

namespace TileRealm

variable {α : Type}

/-- The one with the smaller key; the earlier one if neither is smaller. -/
def lesser (key : α → Float) (earlier later : α) : α :=
  if key later < key earlier then later else earlier

/-- The first value of a list whose key is least. -/
def leastBy (key : α → Float) : List α → Option α
  | [] => none
  | a :: rest => some (rest.foldl (lesser key) a)

theorem lesser_eq_or (key : α → Float) (a b : α) : lesser key a b = a ∨ lesser key a b = b := by
  unfold lesser
  split
  · exact .inr rfl
  · exact .inl rfl

theorem foldl_lesser_mem (key : α → Float) (l : List α) (a : α) :
    l.foldl (lesser key) a ∈ a :: l := by
  induction l generalizing a with
  | nil => simp
  | cons b rest ih =>
    rcases lesser_eq_or key a b with h | h <;> have := ih (lesser key a b) <;> grind

theorem mem_of_leastBy {key : α → Float} {l : List α} {a : α} (h : leastBy key l = some a) :
    a ∈ l := by
  cases l with
  | nil => simp [leastBy] at h
  | cons b rest =>
    simp only [leastBy, Option.some.injEq] at h
    exact h ▸ foldl_lesser_mem key rest b

theorem leastBy_eq_none_iff {key : α → Float} {l : List α} : leastBy key l = none ↔ l = [] := by
  cases l <;> simp [leastBy]

end TileRealm
