import Mathlib.Data.List.Nodup
import Mathlib.Logic.Function.Iterate
import TileRealm.Handle.Issuer
import TileRealm.Proofs.Handle

/-!
# The handles of an issuer

- `Counter.iterate_next`: where a counter stands after a number of handles;
- `Issuer.after`, `Issuer.issues`: an issuer that is asked for handles one after the other, and what it gives out;
- `Issuer.counter_issue`, `Issuer.counter_after`: a request moves the counter of its own tag and no other, so every
  counter has moved as often as its tag was asked for;
- `Issuer.exists_nth`, `Issuer.getElem?_issues_eq_iff`, `Issuer.nodup_issues`: the handles of a new issuer one by one,
  and which of them are equal;
- `Issuer.handles_of_requests`: all of this for every series of requests, and how many they are.
-/

set_option autoImplicit false

namespace TileRealm

/-! ## One counter -/

namespace Counter

variable {limit : UInt64}

/-- The counter of a tag after one more than `n` handles. -/
theorem iterate_next (hlimit : 0 < limit) (n : Nat) :
    ((next limit)^[n + 1] fresh).lastIndex.toNat = n % limit.toNat + 1 ∧
      ((next limit)^[n + 1] fresh).epoch.toNat = n / limit.toNat % 256 := by
  have hpos : 0 < limit.toNat := UInt64.lt_iff_toNat_lt.mp hlimit
  induction n with
  | zero =>
    have hne : limit ≠ 0 := by
      rintro rfl
      exact absurd hlimit (by decide)
    simp [next, fresh, Nat.mod_eq_of_lt, Nat.div_eq_of_lt, hne, hpos]
  | succ n ih =>
    obtain ⟨hindex, hepoch⟩ := ih
    rw [Function.iterate_succ_apply']
    generalize (next limit)^[n + 1] fresh = c at hindex hepoch ⊢
    have hn := Nat.div_add_mod n limit.toNat
    have hlt := Nat.mod_lt n hpos
    unfold next
    split
    · -- the last index of an epoch was given out
      rename_i hfull
      rw [ge_iff_le, UInt64.le_iff_toNat_le, hindex] at hfull
      have hnext : n + 1 = limit.toNat * (n / limit.toNat + 1) := by
        rw [Nat.mul_succ]
        omega
      rw [hnext, Nat.mul_mod_right, Nat.mul_div_cancel_left _ hpos, UInt8.toNat_add, hepoch]
      exact ⟨rfl, Nat.mod_add_mod _ _ _⟩
    · rename_i hroom
      rw [ge_iff_le, UInt64.le_iff_toNat_le, hindex, Nat.not_le] at hroom
      have hnext : n + 1 = limit.toNat * (n / limit.toNat) + (n % limit.toNat + 1) := by omega
      have hmod : (n + 1) % limit.toNat = n % limit.toNat + 1 := by
        rw [hnext, Nat.mul_add_mod, Nat.mod_eq_of_lt hroom]
      have hdiv : (n + 1) / limit.toNat = n / limit.toNat := by
        rw [hnext, Nat.mul_add_div hpos, Nat.div_eq_of_lt hroom, Nat.add_zero]
      have hword := limit.toNat_lt
      rw [hmod, hdiv, UInt64.toNat_add, hindex]
      exact ⟨Nat.mod_eq_of_lt (Nat.lt_of_le_of_lt hroom hword), hepoch⟩

end Counter

/-! ## Many requests -/

/-- How often a tag is asked for. -/
def Kind.asked (kinds : List Kind) (tag : UInt8) : Nat :=
  kinds.countP (·.tag = tag)

namespace Issuer

variable {issuer : Issuer} {limit : UInt64} {kind : Kind} {kinds : List Kind} {tag : UInt8}

/-- Where a tag stands. -/
def counter (issuer : Issuer) (tag : UInt8) : Counter :=
  (issuer.counters[tag]?).getD .fresh

/-- The issuer after it was asked for handles of these kinds, one after the other. -/
def after (issuer : Issuer) (kinds : List Kind) : Issuer :=
  kinds.foldl (fun issuer kind => (issuer.issue kind).2) issuer

/-- The handles that it gives out. -/
def issues (issuer : Issuer) : List Kind → List Handle
  | [] => []
  | kind :: kinds => (issuer.issue kind).1 :: (issuer.issue kind).2.issues kinds

theorem after_cons (issuer : Issuer) (kind : Kind) (kinds : List Kind) :
    issuer.after (kind :: kinds) = (issuer.issue kind).2.after kinds :=
  rfl

theorem issues_append (issuer : Issuer) (earlier later : List Kind) :
    issuer.issues (earlier ++ later) = issuer.issues earlier ++ (issuer.after earlier).issues later := by
  induction earlier generalizing issuer with
  | nil => rfl
  | cons kind earlier ih => rw [List.cons_append, issues, ih, issues, after_cons, List.cons_append]

@[simp]
theorem length_issues (issuer : Issuer) (kinds : List Kind) : (issuer.issues kinds).length = kinds.length := by
  induction kinds generalizing issuer with
  | nil => rfl
  | cons kind kinds ih => rw [issues, List.length_cons, ih, List.length_cons]

theorem getElem?_issues (issuer : Issuer) (kinds : List Kind) (i : Nat) :
    (issuer.issues kinds)[i]? = kinds[i]?.map fun kind => ((issuer.after (kinds.take i)).issue kind).1 := by
  induction kinds generalizing issuer i with
  | nil => rfl
  | cons kind kinds ih =>
    cases i with
    | zero => rfl
    | succ i => rw [issues, List.getElem?_cons_succ, ih, List.getElem?_cons_succ, List.take_succ_cons, after_cons]

theorem issued_after (issuer : Issuer) (kinds : List Kind) :
    (issuer.after kinds).issued.toNat = (issuer.issued.toNat + kinds.length) % 2 ^ 64 := by
  induction kinds generalizing issuer with
  | nil => exact (Nat.mod_eq_of_lt issuer.issued.toNat_lt).symm
  | cons kind kinds ih =>
    rw [after_cons, ih, List.length_cons]
    simp only [issue, UInt64.toNat_add]
    rw [Nat.mod_add_mod, show (1 : UInt64).toNat = 1 from rfl]
    congr 1
    omega

/-! ## What a request changes -/

@[simp]
theorem limit_after (issuer : Issuer) (kinds : List Kind) : (issuer.after kinds).limit = issuer.limit :=
  List.foldlRecOn (motive := fun i : Issuer => i.limit = issuer.limit) kinds _ rfl fun _ h _ _ => h

/-- A request moves the counter of its tag alone. -/
theorem counter_issue (issuer : Issuer) (kind : Kind) (tag : UInt8) : (issuer.issue kind).2.counter tag =
    if kind.tag = tag then (issuer.counter tag).next issuer.limit else issuer.counter tag := by
  simp only [counter, issue, Std.ExtTreeMap.getElem?_insert, Std.LawfulEqCmp.compare_eq_iff_eq]
  by_cases htag : kind.tag = tag
  · subst htag
    simp
  · simp [htag]

/-- A counter has moved as often as its tag was asked for. -/
theorem counter_after (issuer : Issuer) (kinds : List Kind) (tag : UInt8) : (issuer.after kinds).counter tag =
    (Counter.next issuer.limit)^[Kind.asked kinds tag] (issuer.counter tag) := by
  induction kinds generalizing issuer with
  | nil => rfl
  | cons kind kinds ih =>
    have hlimit : (issuer.issue kind).2.limit = issuer.limit := rfl
    rw [after_cons, ih, hlimit, counter_issue]
    by_cases htag : kind.tag = tag
    · simp [Kind.asked, htag, Function.iterate_succ_apply]
    · simp [Kind.asked, htag]

/-! ## A new issuer -/

/-- The number of different indices that an issuer gives out in an epoch. -/
def span (limit : UInt64) : Nat :=
  min (max limit.toNat 1) (2 ^ 48 - 1)

theorem toNat_limit (limit : UInt64) : (withLimit limit).limit.toNat = span limit := by
  have hmax : (max limit 1).toNat = max limit.toNat 1 := by
    change (if limit ≤ 1 then 1 else limit).toNat = _
    rw [apply_ite UInt64.toNat, Nat.max_def]
    rfl
  rw [withLimit, Std.min_eq_if, apply_ite UInt64.toNat, span, ← hmax, Nat.min_def]
  rfl

theorem span_pos (limit : UInt64) : 0 < span limit := by
  unfold span
  omega

theorem span_lt (limit : UInt64) : span limit < 2 ^ 48 := by
  unfold span
  omega

@[simp]
theorem counter_withLimit (limit : UInt64) (tag : UInt8) : (withLimit limit).counter tag = .fresh := by
  simp [counter, withLimit]

/-- The fields of the handle that a tag gets after it was asked for so often. -/
structure Nth (limit : UInt64) (tag : UInt8) (n : Nat) (h : Handle) : Prop where
  kindTag : h.kindTag = tag
  epoch : h.epoch.toNat = n / span limit % 256
  index : h.index.toNat = n % span limit + 1

theorem nth_issue (limit : UInt64) (kinds : List Kind) (kind : Kind) :
    Nth limit kind.tag (Kind.asked kinds kind.tag) (((withLimit limit).after kinds).issue kind).1 := by
  have hcounter : (((withLimit limit).after kinds).counter kind.tag).next ((withLimit limit).after kinds).limit =
      (Counter.next (withLimit limit).limit)^[Kind.asked kinds kind.tag + 1] .fresh := by
    rw [counter_after, limit_after, counter_withLimit, Function.iterate_succ_apply']
  have hpos : 0 < (withLimit limit).limit := by
    rw [UInt64.lt_iff_toNat_lt, toNat_limit]
    exact span_pos limit
  obtain ⟨hindex, hepoch⟩ := Counter.iterate_next hpos (Kind.asked kinds kind.tag)
  rw [← hcounter, toNat_limit] at hindex hepoch
  have hspan := span_lt limit
  have hlt := Nat.mod_lt (Kind.asked kinds kind.tag) (span_pos limit)
  exact {
    kindTag := Handle.kindTag_pack _ _ _
    epoch := (congrArg UInt8.toNat (Handle.epoch_pack _ _ _)).trans hepoch
    index := (Handle.toNat_index_pack _ _ _).trans (by
      rw [← counter, hindex]
      omega) }

/-- Of two handles with known places in the order of their tags, it is known whether they are equal. -/
theorem Nth.eq_iff {tag' : UInt8} {n n' : Nat} {h h' : Handle} (hn : Nth limit tag n h) (hn' : Nth limit tag' n' h') :
    h = h' ↔ tag = tag' ∧ n % (256 * span limit) = n' % (256 * span limit) := by
  rw [Handle.eq_iff, hn.kindTag, hn'.kindTag, hn.epoch, hn'.epoch, hn.index, hn'.index, Nat.mul_comm 256]
  refine and_congr_right fun _ => ⟨?_, fun hmod => ?_⟩
  · rintro ⟨hepoch, hindex⟩
    rw [Nat.mod_mul, Nat.mod_mul, hepoch, Nat.add_right_cancel hindex]
  · have hindex := congrArg (· % span limit) hmod
    have hepoch := congrArg (· / span limit) hmod
    simp only [Nat.mod_mul_right_mod, Nat.mod_mul_right_div_self] at hindex hepoch
    exact ⟨hepoch, congrArg (· + 1) hindex⟩

/-- A tag was asked for less often before an earlier request for it. -/
theorem asked_take_lt {i j : Nat} (hij : i < j) (hi : kinds[i]? = some kind) :
    Kind.asked (kinds.take i) kind.tag < Kind.asked (kinds.take j) kind.tag := by
  have hsplit : kinds.take (i + 1) = kinds.take i ++ [kind] := by
    rw [List.take_add_one, hi, Option.toList_some]
  have hle : Kind.asked (kinds.take (i + 1)) kind.tag ≤ Kind.asked (kinds.take j) kind.tag :=
    (List.take_prefix_take_left hij).sublist.countP_le
  rw [Kind.asked, hsplit, List.countP_append] at hle
  have hself : List.countP (fun k : Kind => k.tag = kind.tag) [kind] = 1 := by simp
  rw [hself] at hle
  exact hle

/-- Each request is answered with the next handle of its tag. -/
theorem exists_nth (limit : UInt64) {i : Nat} (hi : kinds[i]? = some kind) :
    ∃ h, ((withLimit limit).issues kinds)[i]? = some h ∧ Nth limit kind.tag (Kind.asked (kinds.take i) kind.tag) h := by
  refine ⟨_, ?_, nth_issue limit (kinds.take i) kind⟩
  rw [getElem?_issues, hi]
  rfl

/-- Two requests are answered alike just if their handles are whole rounds of a tag apart. -/
theorem getElem?_issues_eq_iff (limit : UInt64) {i j : Nat} {kind' : Kind} (hi : kinds[i]? = some kind)
    (hj : kinds[j]? = some kind') :
    ((withLimit limit).issues kinds)[i]? = ((withLimit limit).issues kinds)[j]? ↔ kind.tag = kind'.tag ∧
      Kind.asked (kinds.take i) kind.tag % (256 * span limit) =
        Kind.asked (kinds.take j) kind'.tag % (256 * span limit) := by
  obtain ⟨h, hh, hn⟩ := exists_nth limit hi
  obtain ⟨h', hh', hn'⟩ := exists_nth limit hj
  rw [hh, hh', Option.some_inj, hn.eq_iff hn']

/-- No handle comes twice while no tag has used up all of its own. -/
theorem nodup_issues (hfew : ∀ tag, Kind.asked kinds tag ≤ 256 * span limit) :
    ((withLimit limit).issues kinds).Nodup := by
  rw [List.nodup_iff_getElem?_ne_getElem?]
  intro i j hij hj heq
  rw [length_issues] at hj
  have hgi := List.getElem?_eq_getElem (Nat.lt_trans hij hj)
  have hgj := List.getElem?_eq_getElem hj
  obtain ⟨htag, hmod⟩ := (getElem?_issues_eq_iff limit hgi hgj).mp heq
  have hlt := asked_take_lt hij hgi
  have hend := asked_take_lt hj hgj
  rw [List.take_length] at hend
  have hmost := hfew kinds[j].tag
  rw [← htag] at hmod hend hmost
  rw [Nat.mod_eq_of_lt (by omega), Nat.mod_eq_of_lt (by omega)] at hmod
  omega

/-- **The handles of a new issuer.** Each request is answered with the next handle of its tag, whatever other tags are
asked for.  Two answers are equal just if they are for the same tag and a number of requests apart that is a multiple of
all epochs and indices, so that no handle comes twice before a tag has used them all up.  The requests are counted. -/
theorem handles_of_requests (limit : UInt64) (kinds : List Kind) :
    (∀ (i : Nat) kind, kinds[i]? = some kind → ∃ h, ((withLimit limit).issues kinds)[i]? = some h ∧
        Nth limit kind.tag (Kind.asked (kinds.take i) kind.tag) h) ∧
      (∀ (i j : Nat) kind kind', kinds[i]? = some kind → kinds[j]? = some kind' →
        (((withLimit limit).issues kinds)[i]? = ((withLimit limit).issues kinds)[j]? ↔ kind.tag = kind'.tag ∧
          Kind.asked (kinds.take i) kind.tag % (256 * span limit) =
            Kind.asked (kinds.take j) kind'.tag % (256 * span limit))) ∧
      ((∀ tag, Kind.asked kinds tag ≤ 256 * span limit) → ((withLimit limit).issues kinds).Nodup) ∧
      ((withLimit limit).issues kinds).length = kinds.length ∧
      ((withLimit limit).after kinds).issued.toNat = kinds.length % 2 ^ 64 := by
  refine ⟨fun _ _ hi => exists_nth limit hi, fun _ _ _ _ hi hj => getElem?_issues_eq_iff limit hi hj, nodup_issues,
    length_issues _ _, ?_⟩
  rw [issued_after]
  exact congrArg (· % 2 ^ 64) (Nat.zero_add _)

end Issuer

end TileRealm
