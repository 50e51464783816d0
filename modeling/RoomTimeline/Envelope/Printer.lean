import RoomTimeline.Envelope
import RoomTimeline.Json.Printer

/-!
# Envelopes as JSON

What a reader of the published timeline gets to see of an entry. An event is written with its
delivery status and its reactions, a virtual entry without either; a collapsed run is written
with its members, each as an entry of its own.
-/

namespace RoomTimeline

/-- An event is written with its identity, time, sender and content. -/
def Event.toJson (details : Event) : Json :=
  .object [
    ("id", details.id.toJson),
    ("timestamp", Json.nat details.timestamp.toNat),
    ("sender", details.sender.toJson),
    ("content", details.content.toJson)]

namespace Envelope

/-- A virtual entry with the fields of its item. -/
def virtualJson (header : Header) (fields : List (String × Json)) : Json :=
  .object [("uniqueId", header.uniqueId.toJson), ("virtual", .object fields)]

mutual

/-- The entry as it is written. -/
def toJson : Envelope → Json
  | .event header details =>
    .object [
      ("uniqueId", header.uniqueId.toJson),
      ("event", details.toJson),
      ("deliveryStatus", (DeliveryStatus.derive details.id header.sendState).toJson),
      ("reactions", (ReactionSummary.ofReactions header.reactions).toJson)]
  | .virtual header (.dateDivider timestamp) =>
    virtualJson header [("kind", .string "dateDivider"),
      ("timestamp", Json.nat timestamp.toNat)]
  | .virtual header .readMarker => virtualJson header [("kind", .string "readMarker")]
  | .virtual header .timelineStart => virtualJson header [("kind", .string "timelineStart")]
  | .virtual header (.paginationIndicator edge) =>
    virtualJson header [("kind", .string "paginationIndicator"), ("position", .string edge.name)]
  | .virtual header (.collapsed members) =>
    virtualJson header [("kind", .string "collapsed"), ("items", .array (toJsonList members))]

/-- The entries of a list as they are written. -/
def toJsonList : List Envelope → List Json
  | [] => []
  | first :: rest => toJson first :: toJsonList rest

end

/-- The compact text of an entry. -/
def render (envelope : Envelope) : String := envelope.toJson.render

end Envelope

end RoomTimeline
