import RoomTimeline.Moment
import RoomTimeline.Pagination.Kind

/-!
# Configuration of a timeline

A configuration fixes what a timeline shows and how it groups. It is built in code from the
default one, or read from a document in which every field may be absent. A field that is
repeated, or that holds something else than its type, is refused; unknown fields are skipped.

Reading starts from the default configuration and enters one field after another, in the order
of the document.
-/

namespace RoomTimeline

/-- The settings of one timeline. -/
structure Config where
  /-- Where the timeline is shown, which fixes what pagination can do. -/
  kind : TimelineKind := .live
  /-- Show a spinner at an edge while entries are loaded there. -/
  showPaginationIndicators : Bool := true
  /-- Do not show the read marker as the last entry. -/
  hideTrailingReadMarker : Bool := true
  /-- Fold neighbouring changes of membership and state into one entry. -/
  collapseStateEvents : Bool := true
  /-- The most milliseconds between two messages of one block. -/
  groupingMaxGapMs : Option UInt64 := none
  /-- Log every batch before it is applied. -/
  logDiffs : Bool := false
  /-- How many events the bridge should keep. -/
  bridgeCapacity : UInt64 := 100
  deriving DecidableEq

namespace Config

/-- The default settings for a kind of timeline. -/
def ofKind (kind : TimelineKind) : Config := { kind }

/-- Limit the time between two messages of one block. -/
def withGroupingMaxGap (config : Config) (span : TimeSpan) : Config :=
  { config with groupingMaxGapMs := some span.milliseconds }

/-- An absent limit is written as null. -/
def optionalNat : Option UInt64 → Json
  | some n => Json.nat n.toNat
  | none => .null

/-- The fields of a configuration, in the order in which they are written. -/
inductive Field where
  | kind
  | showPaginationIndicators
  | hideTrailingReadMarker
  | collapseStateEvents
  | groupingMaxGapMs
  | logDiffs
  | bridgeCapacity
  deriving DecidableEq

namespace Field

/-- The key of a field. -/
def name : Field → String
  | .kind => "kind"
  | .showPaginationIndicators => "showPaginationIndicators"
  | .hideTrailingReadMarker => "hideTrailingReadMarker"
  | .collapseStateEvents => "collapseStateEvents"
  | .groupingMaxGapMs => "groupingMaxGapMs"
  | .logDiffs => "logDiffs"
  | .bridgeCapacity => "bridgeCapacity"

/-- All fields in order. -/
def all : List Field :=
  [.kind, .showPaginationIndicators, .hideTrailingReadMarker, .collapseStateEvents,
    .groupingMaxGapMs, .logDiffs, .bridgeCapacity]

/-- The field with a key. -/
def ofName? (key : String) : Option Field := all.find? fun field => field.name = key

end Field

/-- What a field holds, as it is written. -/
def value (config : Config) : Field → Json
  | .kind => config.kind.toJson
  | .showPaginationIndicators => .bool config.showPaginationIndicators
  | .hideTrailingReadMarker => .bool config.hideTrailingReadMarker
  | .collapseStateEvents => .bool config.collapseStateEvents
  | .groupingMaxGapMs => optionalNat config.groupingMaxGapMs
  | .logDiffs => .bool config.logDiffs
  | .bridgeCapacity => Json.nat config.bridgeCapacity.toNat

/-- A configuration is written with all its fields. -/
def toJson (config : Config) : Json :=
  .object (Field.all.map fun field => (field.name, config.value field))

/-- A number, or null for none. -/
def toOptionalUInt64? : Json → Option (Option UInt64)
  | .null => some none
  | document => document.toUInt64?.map some

/-- Read the value of one field into a configuration. -/
def enter (config : Config) (value : Draft) : Field → Except ReadFault Config
  | .kind => return { config with kind := ← TimelineKind.ofDraft 1 value }
  | .showPaginationIndicators =>
    return { config with showPaginationIndicators := ← value.expect Json.toBool? }
  | .hideTrailingReadMarker =>
    return { config with hideTrailingReadMarker := ← value.expect Json.toBool? }
  | .collapseStateEvents =>
    return { config with collapseStateEvents := ← value.expect Json.toBool? }
  | .groupingMaxGapMs =>
    return { config with groupingMaxGapMs := ← value.expect toOptionalUInt64? }
  | .logDiffs => return { config with logDiffs := ← value.expect Json.toBool? }
  | .bridgeCapacity => return { config with bridgeCapacity := ← value.expect Json.toUInt64? }

/-- Enter the members of an object, of which those in `seen` may not come again. -/
def ofMembers : Config → List Field → List (Option String × Draft) → Except ReadFault Config
  | config, _, [] => .ok config
  | _, _, (none, _) :: _ => .error .malformed
  | config, seen, (some key, value) :: rest =>
    match Field.ofName? key with
    | none => ofMembers config seen rest
    | some field =>
      if field ∈ seen then .error .misfit
      else do ofMembers (← config.enter value field) (field :: seen) rest

/-- Enter the items of an array, one for each field; there may be fewer items than fields. -/
def ofItems : Config → List Field → List Draft → Except ReadFault Config
  | config, _, [] => .ok config
  | _, [], _ :: _ => .error .malformed
  | config, field :: fields, item :: rest => do
    ofItems (← config.enter item field) fields rest

/-- Read a configuration: an object with any of the fields, or an array of the fields in order
    of which the last ones may be left out. -/
def ofDraft : Draft → Except ReadFault Config
  | .object members => ofMembers {} [] members
  | .array items => ofItems {} Field.all items
  | draft => .error draft.refusal

/-- Read a configuration that stands in a document, as if it were written out by itself with the
    members of its objects sorted by key. -/
def ofJson (document : Json) : Except ReadFault Config := ofDraft document.sorted.draft

/-- Read a configuration from a text. -/
def ofText (text : String) : Except ReadFault Config := Draft.read ofDraft text

end Config

end RoomTimeline
