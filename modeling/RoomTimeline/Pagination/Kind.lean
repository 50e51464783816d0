import RoomTimeline.Json.Printer
import RoomTimeline.Pagination.Direction

/-!
# Kinds of timelines

Where a timeline is shown decides which directions it can be extended in, and whether the source
pushes the status of loading older entries. All else about pagination follows from these three
capabilities.

A kind is written as an object of a type and its data, or as an array of the two. In an object
the type may stand behind the data, in which case the data has to be held until the type is known.
-/

namespace RoomTimeline

/-- The screen that a gallery of media was opened from. -/
inductive MediaPresentation where
  | roomScreenLive
  | roomScreenDetached
  | pinnedEventsScreen
  | mediaFilesScreen
  deriving DecidableEq

namespace MediaPresentation

/-- The name of a screen in documents. -/
def name : MediaPresentation → String
  | .roomScreenLive => "roomScreenLive"
  | .roomScreenDetached => "roomScreenDetached"
  | .pinnedEventsScreen => "pinnedEventsScreen"
  | .mediaFilesScreen => "mediaFilesScreen"

/-- The name of a screen in messages. -/
def title : MediaPresentation → String
  | .roomScreenLive => "RoomScreenLive"
  | .roomScreenDetached => "RoomScreenDetached"
  | .pinnedEventsScreen => "PinnedEventsScreen"
  | .mediaFilesScreen => "MediaFilesScreen"

/-- A screen is written as its name. -/
def toJson (presentation : MediaPresentation) : Json := .string presentation.name

/-- The screens by their names in documents. -/
def names : List (String × MediaPresentation) :=
  [.roomScreenLive, .roomScreenDetached, .pinnedEventsScreen, .mediaFilesScreen].map
    fun presentation => (presentation.name, presentation)

/-- Read a screen. -/
def ofDraft : Draft → Except ReadFault MediaPresentation := Draft.choice names

/-- Read a screen from a held value. -/
def ofHeld : Json → Except ReadFault MediaPresentation := Json.heldChoice names

end MediaPresentation

/-- Where a timeline is shown: the newest entries of a room, the surroundings of one event, a
    thread, the pinned events, or a gallery of media. -/
inductive TimelineKind where
  | live
  | detached (focusedEventId : String)
  | thread (rootEventId : String)
  | pinned
  | media (presentation : MediaPresentation)
  deriving DecidableEq

/-- What a timeline can do: load older entries, load newer ones, and hear from the source how
    loading older entries stands. -/
structure Capabilities where
  backwards : Bool
  forwards : Bool
  live : Bool
  deriving DecidableEq

/-- The capabilities as a set of bits: one, two and four. -/
def Capabilities.bits (capabilities : Capabilities) : Nat :=
  capabilities.backwards.toNat + 2 * capabilities.forwards.toNat + 4 * capabilities.live.toNat

/-- The kinds without their data. -/
inductive KindTag where
  | live
  | detached
  | thread
  | pinned
  | media
  deriving DecidableEq

namespace KindTag

/-- The name of a kind. -/
def name : KindTag → String
  | .live => "live"
  | .detached => "detached"
  | .thread => "thread"
  | .pinned => "pinned"
  | .media => "media"

/-- The kinds by their names. -/
def names : List (String × KindTag) :=
  [.live, .detached, .thread, .pinned, .media].map fun tag => (tag.name, tag)

/-- Read the type of a kind in an object, where it may be written in any way of a choice. -/
def ofDraft : Draft → Except ReadFault KindTag := Draft.choice names

/-- Read the type of a kind in an array, where it is a plain string. -/
def ofName (draft : Draft) : Except ReadFault KindTag := do
  named names (← draft.expect Json.toText?)

end KindTag

namespace TimelineKind

/-- How a kind reads in messages. -/
def display : TimelineKind → String
  | .live => "live"
  | .detached focusedEventId => s!"detached({focusedEventId})"
  | .thread rootEventId => s!"thread({rootEventId})"
  | .pinned => "pinned"
  | .media presentation => s!"media({presentation.title})"

/-- What a timeline of this kind can do. -/
def capabilities : TimelineKind → Capabilities
  | .live | .media .roomScreenLive => ⟨true, false, true⟩
  | .detached _ | .thread _ | .media .roomScreenDetached => ⟨true, true, false⟩
  | .media .mediaFilesScreen => ⟨true, false, false⟩
  | .pinned | .media .pinnedEventsScreen => ⟨false, false, false⟩

/-- Whether the timeline shows pinned events, which are never grouped. -/
def isPinned : TimelineKind → Bool
  | .pinned | .media .pinnedEventsScreen => true
  | _ => false

/-- The kind without its data. -/
def tag : TimelineKind → KindTag
  | .live => .live
  | .detached _ => .detached
  | .thread _ => .thread
  | .pinned => .pinned
  | .media _ => .media

/-- The data of a kind, where it has any. -/
def data? : TimelineKind → Option Json
  | .live | .pinned => none
  | .detached focusedEventId => some (.object [("focusedEventId", .string focusedEventId)])
  | .thread rootEventId => some (.object [("rootEventId", .string rootEventId)])
  | .media presentation => some presentation.toJson

/-- A kind is written as its type and, where it has any, its data. -/
def toJson (kind : TimelineKind) : Json :=
  .object (("type", .string kind.tag.name) ::
    match kind.data? with
    | some data => [("data", data)]
    | none => [])

/-- The kind of a type that stands alone. -/
def ofTag : KindTag → Except ReadFault TimelineKind
  | .live => .ok .live
  | .pinned => .ok .pinned
  | .detached | .thread | .media => .error .misfit

/-- Read the data of a kind. A kind without data admits a null. -/
def ofData (data : Draft) : KindTag → Except ReadFault TimelineKind
  | .live => (data.expect Json.toNull?).map fun _ => .live
  | .pinned => (data.expect Json.toNull?).map fun _ => .pinned
  | .detached => (data.textMember "focusedEventId").map .detached
  | .thread => (data.textMember "rootEventId").map .thread
  | .media => (MediaPresentation.ofDraft data).map .media

/-- Read held data of a kind. -/
def ofHeld (data : Json) : KindTag → Except ReadFault TimelineKind
  | .media => (MediaPresentation.ofHeld data).map .media
  | tag => ofData data.draft tag

/-- A member of an object as far as it concerns a kind. -/
inductive Part where
  | tag (value : Draft)
  | data (value : Draft)
  /-- A member without a key, which cannot be told to be of no concern. -/
  | unknown

/-- The members that concern a kind, in their order. -/
def parts (members : List (Option String × Draft)) : List Part :=
  members.filterMap fun (key, value) =>
    match key with
    | none => some .unknown
    | some key =>
      if key = "type" then some (.tag value) else if key = "data" then some (.data value) else none

/-- A kind that is complete, unless a part follows. -/
def alone (kind : TimelineKind) : List Part → Except ReadFault TimelineKind
  | [] => .ok kind
  | .unknown :: _ => .error .malformed
  | .tag _ :: _ | .data _ :: _ => .error .misfit

/-- Read a kind from the parts of an object that begin with its type. -/
def ofTagFirst (tag : Draft) (rest : List Part) : Except ReadFault TimelineKind := do
  let tag ← KindTag.ofDraft tag
  match rest with
  | [] => ofTag tag
  | .unknown :: _ => .error .malformed
  | .tag _ :: _ => .error .misfit
  | .data data :: rest => alone (← ofData data tag) rest

/-- Read a kind from the parts of an object that begin with its data, which has been held. -/
def ofDataFirst (data : Json) : List Part → Except ReadFault TimelineKind
  | [] => .error .misfit
  | .unknown :: _ => .error .malformed
  | .data _ :: _ => .error .misfit
  | .tag tag :: rest => do
    let tag ← KindTag.ofDraft tag
    alone (← ofHeld data tag) rest

/-- Read a kind from the parts of an object that lies `outer` levels deep in a document. -/
def ofParts (outer : Nat) : List Part → Except ReadFault TimelineKind
  | [] => .error .misfit
  | .unknown :: _ => .error .malformed
  | .tag tag :: rest => ofTagFirst tag rest
  | .data data :: rest =>
    match data.held? (outer + 1) with
    | some data => ofDataFirst data rest
    | none => .error .malformed

/-- Read a kind from the items of an array: the type and the data. -/
def ofItems : List Draft → Except ReadFault TimelineKind
  | [] => .error .misfit
  | tag :: rest => do
    let tag ← KindTag.ofName tag
    match rest with
    | [] => .error .misfit
    | data :: rest =>
      let kind ← ofData data tag
      if rest.isEmpty then .ok kind else .error .malformed

/-- Read a kind that lies `outer` levels deep in a document. -/
def ofDraft (outer : Nat) : Draft → Except ReadFault TimelineKind
  | .object members => ofParts outer (parts members)
  | .array items => ofItems items
  | draft => .error draft.refusal

end TimelineKind

end RoomTimeline
