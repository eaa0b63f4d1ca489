import Std.Data.ExtTreeMap
import Std.Data.ExtTreeSet

/-!
# Entity handles

A handle names one entity.  It packs the kind of the entity, an epoch and an index into one 64-bit
word, so that its order is the lexicographic order of those three.

* `Kind`: what sort of thing an entity is, `Kind.tag` and `Kind.ofTag` its byte.
* `Handle.pack`, `Handle.kindTag`, `Handle.epoch`, `Handle.index`: the packing and its three fields.
* `Roster`, `HandleSet`: data kept by handle, in ascending order of the handles.
-/

set_option autoImplicit false

namespace TileRealm

/-! ## Kinds -/

/-- What sort of thing an entity is; a tag without a name of its own is kept as it is. -/
inductive Kind where
  | role
  | monster
  | npc
  | drop
  | other (tag : UInt8)
deriving DecidableEq

namespace Kind

/-- The byte that stands for a kind in a handle. -/
def tag : Kind → UInt8
  | role => 1
  | monster => 2
  | npc => 3
  | drop => 4
  | other tag => tag

/-- The kind of a tag; a named kind is preferred over `other`. -/
def ofTag (tag : UInt8) : Kind :=
  if tag = 1 then role
  else if tag = 2 then monster
  else if tag = 3 then npc
  else if tag = 4 then drop
  else other tag

/-- Only the named kind is a role: `other 1` shares its tag and is none. -/
def isRole (kind : Kind) : Bool :=
  decide (kind = role)

/-- The written name of a kind. -/
def text : Kind → String
  | role => "role"
  | monster => "monster"
  | npc => "npc"
  | drop => "drop"
  | other tag => "kind" ++ toString tag.toNat

theorem tag_ofTag (t : UInt8) : (ofTag t).tag = t := by
  unfold ofTag
  split
  · simp_all [tag]
  split
  · simp_all [tag]
  split
  · simp_all [tag]
  split
  · simp_all [tag]
  · rfl

end Kind

/-! ## Handles -/

/-- The number of different indices, `2 ^ 48`. -/
def indexCount : Nat := 1 <<< 48

/-- The largest index that a handle can carry. -/
def maxIndex : UInt64 := UInt64.ofNat (indexCount - 1)

/-- A 64-bit name of an entity: kind tag, epoch and index from the highest byte down. -/
structure Handle where
  raw : UInt64
deriving DecidableEq

namespace Handle

/-- Packs the three fields; of the index only the low 48 bits are kept. -/
def pack (kind : Kind) (epoch : UInt8) (index : UInt64) : Handle :=
  ⟨UInt64.ofNat ((kind.tag.toNat <<< 56) + (epoch.toNat <<< 48) + index.toNat % indexCount)⟩

/-- The tag of the kind, from the highest byte. -/
def kindTag (h : Handle) : UInt8 :=
  UInt8.ofNat (h.raw.toNat >>> 56)

/-- The kind that the tag stands for. -/
def kind (h : Handle) : Kind :=
  Kind.ofTag h.kindTag

/-- The epoch, from the second byte. -/
def epoch (h : Handle) : UInt8 :=
  UInt8.ofNat (h.raw.toNat >>> 48)

/-- The index, from the low 48 bits. -/
def index (h : Handle) : UInt64 :=
  UInt64.ofNat (h.raw.toNat % indexCount)

/-- Whether the handle names a player's entity. -/
def isRole (h : Handle) : Bool :=
  h.kind.isRole

/-- The written form of a handle, `H(kind:epoch:index)`. -/
def text (h : Handle) : String :=
  "H(" ++ h.kind.text ++ ":" ++ toString h.epoch.toNat ++ ":" ++ toString h.index.toNat ++ ")"

/-! ### Order -/

instance : Ord Handle where
  compare := compareOn Handle.raw

instance : Std.TransOrd Handle :=
  inferInstanceAs (Std.TransCmp (compareOn Handle.raw))

instance : Std.LawfulEqOrd Handle where
  eq_of_compare {a b} h := by
    cases a
    cases b
    exact congrArg Handle.mk (Std.LawfulEqOrd.eq_of_compare h)

end Handle

/-- Values kept by handle, in ascending order of the handles. -/
abbrev Roster (α : Type) : Type :=
  Std.ExtTreeMap Handle α

/-- A set of handles, in ascending order. -/
abbrev HandleSet : Type :=
  Std.ExtTreeSet Handle

end TileRealm
