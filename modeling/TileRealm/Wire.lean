import TileRealm.Event
import TileRealm.Json
import TileRealm.Tile.Pixel

/-!
# Wire texts

Clients are told of events in compact JSON texts, with the keys in alphabetical order and places in
pixels.

* `Wire.text`: the text of an event.
-/

set_option autoImplicit false

namespace TileRealm

namespace Wire

/-- The keys of a place. -/
def place (scale : Scale) (pos : Tile) : List (String × Json) :=
  let pixel := scale.toPixel pos
  [("px", .integer pixel.x.toNat), ("py", .integer pixel.y.toNat)]

/-- The key of an entity. -/
def entity (h : Handle) : String × Json :=
  ("handle", .integer h.raw.toNat)

/-- A key with a number. -/
def number (key : String) (n : UInt32) : String × Json :=
  (key, .integer n.toNat)

/-- The key that tells one event from another. -/
def type (name : String) : String × Json :=
  ("type", .string name)

/-- An event as a JSON object. -/
def encode (scale : Scale) : Event → Json
  | .move h pos speed seq =>
    .object (entity h :: place scale pos
      ++ [number "seq" seq, number "speed" speed, type "entity_move"])
  | .stop h pos seq =>
    .object (entity h :: place scale pos ++ [number "seq" seq, type "entity_stop_move"])
  | .appear p =>
    .object (entity p.handle :: ("kind", .string p.kind.text) :: ("name", .string p.name)
      :: place scale p.pos ++ [number "speed" p.speed, type "entity_appear"])
  | .disappear h => .object [entity h, type "entity_disappear"]

/-- The text of an event. -/
def text (scale : Scale) (e : Event) : String :=
  (encode scale e).render

end Wire

end TileRealm
