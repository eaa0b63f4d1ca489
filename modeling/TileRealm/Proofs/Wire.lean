import TileRealm.Proofs.Json
import TileRealm.Proofs.Tile.Pixel
import TileRealm.Wire

/-!
# Reading back an event

A client reads the text of an event with a JSON reader and turns pixels into tiles.  What it gets is the event, as
long as the first pixel of its tile exists.

- `Wire.read?`: the event that a text tells of;
- `Event.Fits`: the events that are read back;
- `Wire.lossless`: they are, and no two of them have the same text.
-/

set_option autoImplicit false

namespace TileRealm

/-! ## The client's side -/

namespace Wire

/-- The handle that a value is, if it is a whole number of 64 bits. -/
def handle? : Json → Option Handle
  | .integer n => if 0 ≤ n ∧ n < UInt64.size then some ⟨UInt64.ofNat n.toNat⟩ else none
  | _ => none

/-- The text that a value is, if it is a string. -/
def string? : Json → Option String
  | .string s => some s
  | _ => none

/-- The number under a key. -/
def number? (fields : List (String × Json)) (key : String) : Option UInt32 := do
  (← fields.lookup key).coordinate?

/-- The string under a key. -/
def word? (fields : List (String × Json)) (key : String) : Option String := do
  string? (← fields.lookup key)

/-- The tile of the pixel that the fields name. -/
def tile? (scale : Scale) (fields : List (String × Json)) : Option Tile := do
  return scale.toTile ⟨← number? fields "px", ← number? fields "py"⟩

/-- The event of a type that the fields of an object tell of an entity.  What comes into view is of the kind of its
handle. -/
def event? (scale : Scale) (fields : List (String × Json)) (h : Handle) : String → Option Event
  | "entity_move" => do
    return .move h (← tile? scale fields) (← number? fields "speed") (← number? fields "seq")
  | "entity_stop_move" => do
    return .stop h (← tile? scale fields) (← number? fields "seq")
  | "entity_appear" => do
    let kind ← word? fields "kind"
    let portrait := ⟨h, h.kind, ← word? fields "name", ← tile? scale fields, ← number? fields "speed"⟩
    if kind = h.kind.text then return .appear portrait else none
  | "entity_disappear" => return .disappear h
  | _ => none

/-- The event that the fields of an object tell of. -/
def decode? (scale : Scale) (fields : List (String × Json)) : Option Event := do
  event? scale fields (← handle? (← fields.lookup "handle")) (← word? fields "type")

/-- The event that a text tells of. -/
def read? (scale : Scale) (text : String) : Option Event := do
  match ← Json.parse? text with
  | .object fields => decode? scale fields
  | _ => none

end Wire

/-! ## What is read back -/

/-- Whether the first pixel of a tile exists. -/
def Tile.Fits (scale : Scale) (t : Tile) : Prop :=
  t.x.toNat ≤ scale.lastExact ∧ t.y.toNat ≤ scale.lastExact

/-- Whether the first pixel of an event's tile exists, and whatever comes into view is of the kind of its handle. -/
def Event.Fits (scale : Scale) : Event → Prop
  | .move _ pos _ _ => pos.Fits scale
  | .stop _ pos _ => pos.Fits scale
  | .appear p => p.pos.Fits scale ∧ p.kind = p.handle.kind
  | .disappear _ => True

/-- An entity comes into view with the kind of its handle. -/
theorem Entity.fits_portrait {scale : Scale} {e : Entity} (he : e.pos.Fits scale) :
    (Event.appear e.portrait).Fits scale :=
  ⟨he, rfl⟩

namespace Wire

variable {scale : Scale} {fields : List (String × Json)} {key : String}

theorem handle?_integer (h : Handle) : handle? (.integer h.raw.toNat) = some h := by
  have hlt : (h.raw.toNat : Int) < UInt64.size := Int.ofNat_lt.mpr h.raw.toNat_lt
  rw [handle?, if_pos ⟨Int.natCast_nonneg _, hlt⟩, Int.toNat_natCast, UInt64.ofNat_toNat]

theorem number?_of_lookup {n : UInt32} (h : fields.lookup key = some (.integer n.toNat)) :
    number? fields key = some n := by
  have hlt : (n.toNat : Int) < UInt32.size := Int.ofNat_lt.mpr n.toNat_lt
  rw [number?, h, Option.bind_eq_bind, Option.bind_some, Json.coordinate?, if_pos ⟨Int.natCast_nonneg _, hlt⟩,
    Int.toNat_natCast, UInt32.ofNat_toNat]

theorem tile?_of_lookup {t : Tile} (ht : t.Fits scale)
    (hx : fields.lookup "px" = some (.integer (scale.toPixel t).x.toNat))
    (hy : fields.lookup "py" = some (.integer (scale.toPixel t).y.toNat)) : tile? scale fields = some t := by
  simp only [tile?, number?_of_lookup hx, number?_of_lookup hy, Option.bind_eq_bind, Option.bind_some]
  exact congrArg some (Scale.toTile_toPixel ht.1 ht.2)

theorem word?_of_lookup {s : String} (h : fields.lookup key = some (.string s)) : word? fields key = some s := by
  rw [word?, h]
  rfl

theorem decode?_of_lookup (h : Handle) (name : String)
    (hhandle : fields.lookup "handle" = some (.integer h.raw.toNat))
    (htype : fields.lookup "type" = some (.string name)) : decode? scale fields = event? scale fields h name := by
  rw [decode?, hhandle, word?_of_lookup htype, Option.bind_eq_bind, Option.bind_some, handle?_integer,
    Option.bind_eq_bind, Option.bind_some, Option.bind_eq_bind, Option.bind_some]

/-- The text of an object of strings and numbers tells of the event of its fields. -/
theorem read?_render (hfields : ∀ f ∈ fields, (∃ s, f.2 = .string s) ∨ ∃ n : Nat, f.2 = .integer n) :
    read? scale (Json.object fields).render = decode? scale fields := by
  rw [read?, Json.parse?_render hfields, Option.bind_eq_bind, Option.bind_some]

/-- An event is read back from its text. -/
theorem read?_text {e : Event} (he : e.Fits scale) : read? scale (text scale e) = some e := by
  cases e with
  | move h pos speed seq =>
    rw [text, encode, read?_render (by simp [entity, place, number, type]),
      decode?_of_lookup h "entity_move" rfl rfl, event?,
      tile?_of_lookup (t := pos) he rfl rfl, number?_of_lookup (n := speed) rfl, number?_of_lookup (n := seq) rfl]
    rfl
  | stop h pos seq =>
    rw [text, encode, read?_render (by simp [entity, place, number, type]),
      decode?_of_lookup h "entity_stop_move" rfl rfl, event?,
      tile?_of_lookup (t := pos) he rfl rfl, number?_of_lookup (n := seq) rfl]
    rfl
  | appear p =>
    obtain ⟨hpos, hkind⟩ := he
    rw [text, encode, read?_render (by simp [entity, place, number, type]),
      decode?_of_lookup p.handle "entity_appear" rfl rfl, event?,
      word?_of_lookup (s := p.kind.text) rfl, word?_of_lookup (s := p.name) rfl,
      tile?_of_lookup (t := p.pos) hpos rfl rfl, number?_of_lookup (n := p.speed) rfl]
    simp only [Option.bind_eq_bind, Option.bind_some, ← hkind]
    rfl
  | disappear h =>
    rw [text, encode, read?_render (by simp [entity, type]),
      decode?_of_lookup h "entity_disappear" rfl rfl, event?]
    rfl

/-- **Nothing is lost on the wire.** Whoever reads the text of an event with a JSON reader and turns its pixels into
tiles gets the event: its variant, all 64 bits of the handle, the tile, the numbers and the name, whatever characters
that is made of.  So no two events have the same text. -/
theorem lossless (scale : Scale) {e e' : Event} (he : e.Fits scale) (he' : e'.Fits scale) :
    read? scale (text scale e) = some e ∧ (text scale e = text scale e' → e = e') := by
  refine ⟨read?_text he, fun htext => ?_⟩
  have hread : some e = some e' := by rw [← read?_text he, htext, read?_text he']
  exact Option.some.inj hread

/-- Two names that need escapes, on the last row that comes back. -/
theorem lossless_escapes :
    let e : Entity := .outside ⟨0xFFFFFFFFFFFFFFFF⟩ "\"\\\x01\n/\u00e9😀" ⟨0, 134217727⟩ 4294967295
    let f : Entity := { e with name := "\\\"" }
    read? ⟨32⟩ (text ⟨32⟩ (.appear e.portrait)) = some (.appear e.portrait) ∧
      text ⟨32⟩ (.appear e.portrait) ≠ text ⟨32⟩ (.appear f.portrait) := by
  intro e f
  have hfits : e.pos.Fits ⟨32⟩ := by
    constructor <;> decide
  obtain ⟨hread, hinjective⟩ := lossless ⟨32⟩ (Entity.fits_portrait (e := e) hfits)
    (Entity.fits_portrait (e := f) hfits)
  refine ⟨hread, fun htext => ?_⟩
  have hname := hinjective htext
  revert hname
  decide

end Wire

end TileRealm
