import RoomTimeline.Content
import RoomTimeline.Delivery
import RoomTimeline.Reaction

/-!
# Envelopes

An envelope is one entry of the timeline as it is shown: an event with its identity, or a
virtual entry that stands for no event. It is made once from what the source delivers and never
changed; what is shown of it (delivery status, reactions) is derived from it.

Two envelopes made from the same raw item are different entries as far as updates are
concerned. `serial` records this: it is the number of the making, and entries of one timeline
with the same serial are the same entry. No text, no equality and no rendering depends on it.
-/

namespace RoomTimeline

/-- The edge of the timeline that a pagination indicator stands at. -/
inductive Edge where
  | start
  | finish
  deriving DecidableEq

/-- The name of an edge. -/
def Edge.name : Edge → String
  | .start => "start"
  | .finish => "end"

/-- An entry that stands for no event. Pagination indicators and collapsed runs are made by
    rendering; `α` is the type of the entries that a run holds. -/
inductive VirtualItem (α : Type) where
  | dateDivider (timestamp : UInt64)
  | readMarker
  | timelineStart
  | paginationIndicator (edge : Edge)
  | collapsed (members : List α)

/-- An event as an envelope holds it. -/
structure Event where
  id : Identity
  timestamp : UInt64
  sender : Sender
  content : Content
  deriving DecidableEq

/-- What every envelope holds, whatever its kind. -/
structure Header where
  serial : Nat
  uniqueId : EntryId
  sendState : Option SendState
  reactions : List Reaction
  debugInfo : String
  deriving DecidableEq

/-- One entry of the timeline. -/
inductive Envelope where
  | event (header : Header) (details : Event)
  | virtual (header : Header) (item : VirtualItem Envelope)

namespace Envelope

/-- What the envelope holds whatever its kind. -/
def header : Envelope → Header
  | .event header _ | .virtual header _ => header

/-- The number of the envelope's making. -/
def serial (envelope : Envelope) : Nat := envelope.header.serial

/-- The identifier of the entry. -/
def uniqueId (envelope : Envelope) : EntryId := envelope.header.uniqueId

/-- The source's own description of the entry. -/
def debugInfo (envelope : Envelope) : String := envelope.header.debugInfo

/-- The event, if the entry is one. -/
def event? : Envelope → Option Event
  | .event _ details => some details
  | .virtual _ _ => none

/-- The virtual item, if the entry is one. -/
def virtual? : Envelope → Option (VirtualItem Envelope)
  | .event _ _ => none
  | .virtual _ item => some item

/-- The identity of the event, if the entry is one. -/
def identity? (envelope : Envelope) : Option Identity := envelope.event?.map Event.id

/-- Whether a test holds of the content of the event; of no virtual entry it does. -/
def hasContent (test : Content → Bool) (envelope : Envelope) : Bool :=
  envelope.event?.any fun details => test details.content

/-- Whether the entry is a change of membership. -/
def isMembershipChange : Envelope → Bool := hasContent Content.isMembershipChange

/-- Whether the entry may be folded with its neighbours: a change of membership or state. -/
def isCollapsible : Envelope → Bool := hasContent Content.isStateLike

/-- Whether the entry is the user's read marker. -/
def isReadMarker : Envelope → Bool
  | .virtual _ .readMarker => true
  | _ => false

/-- The delivery status of the event, if the entry is one. -/
def deliveryStatus? (envelope : Envelope) : Option DeliveryStatus :=
  envelope.event?.map fun details => .derive details.id envelope.header.sendState

/-- The reactions to the entry, summarised. -/
def reactions (envelope : Envelope) : ReactionSummary :=
  .ofReactions envelope.header.reactions

/-- The name of the sender to show, if the entry is an event. -/
def senderName? (envelope : Envelope) : Option String :=
  envelope.event?.map fun details => details.sender.disambiguatedName

/-- Whether two envelopes stand for the same entry with the same identity. Contents and the
    making of the envelopes do not matter. -/
def same (first second : Envelope) : Bool :=
  first.uniqueId == second.uniqueId && first.identity? == second.identity?

/-- An entry that exists only in what is rendered. -/
def synthesized (serial : Nat) (uniqueId : EntryId) (item : VirtualItem Envelope) : Envelope :=
  .virtual ⟨serial, uniqueId, none, [], ""⟩ item

end Envelope

namespace VirtualItem

/-- Whether two lists of members stand for the same entries in the same order. -/
def sameMembers : List Envelope → List Envelope → Bool
  | [], [] => true
  | first :: rest, second :: others => first.same second && sameMembers rest others
  | _, _ => false

/-- Whether two virtual items are equal, where members of collapsed runs are compared as
    entries. -/
def same : VirtualItem Envelope → VirtualItem Envelope → Bool
  | .dateDivider first, .dateDivider second => first == second
  | .readMarker, .readMarker => true
  | .timelineStart, .timelineStart => true
  | .paginationIndicator first, .paginationIndicator second => first == second
  | .collapsed first, .collapsed second => sameMembers first second
  | _, _ => false

end VirtualItem

/-- What a raw item is, before its identity has been looked at. -/
inductive RawKind where
  | event (timestamp : UInt64) (sender : Sender) (content : Content)
  | virtual (item : VirtualItem Envelope)

/-- An entry as the source delivers it. -/
structure RawItem where
  uniqueId : EntryId
  identity : Option Identity
  kind : RawKind
  sendState : Option SendState
  reactions : List Reaction
  debugInfo : String

/-- Why a raw item makes no envelope. -/
inductive EnvelopeFault where
  /-- An event must carry an identity. -/
  | missingIdentity (uniqueId : EntryId)
  /-- A virtual item must not carry one. -/
  | virtualWithIdentity (uniqueId : EntryId) (identity : Identity)
  deriving DecidableEq

/-- The wording of an envelope fault. -/
def EnvelopeFault.message : EnvelopeFault → String
  | .missingIdentity uniqueId =>
    s!"event item {uniqueId.text} has neither an event ID nor a transaction ID"
  | .virtualWithIdentity uniqueId identity =>
    s!"virtual item {uniqueId.text} carries {identity.display}"

/-- Make the envelope with a given serial from a raw item. Events carry exactly one identity and
    virtual items none; anything else is a fault. -/
def Envelope.ofRaw (serial : Nat) (raw : RawItem) : Except EnvelopeFault Envelope :=
  let header : Header := ⟨serial, raw.uniqueId, raw.sendState, raw.reactions, raw.debugInfo⟩
  match raw.kind, raw.identity with
  | .event timestamp sender content, some id =>
    .ok (.event header ⟨id, timestamp, sender, content⟩)
  | .event _ _ _, none => .error (.missingIdentity raw.uniqueId)
  | .virtual item, none => .ok (.virtual header item)
  | .virtual _, some id => .error (.virtualWithIdentity raw.uniqueId id)

/-- An envelope keeps the serial that it is made with. -/
theorem Envelope.serial_ofRaw {serial : Nat} {raw : RawItem} {envelope : Envelope}
    (made : Envelope.ofRaw serial raw = .ok envelope) : envelope.serial = serial := by
  unfold Envelope.ofRaw at made
  split at made <;> cases made <;> rfl

/-- An envelope keeps the identifier of the raw item that it is made from. -/
theorem Envelope.uniqueId_ofRaw {serial : Nat} {raw : RawItem} {envelope : Envelope}
    (made : Envelope.ofRaw serial raw = .ok envelope) : envelope.uniqueId = raw.uniqueId := by
  unfold Envelope.ofRaw at made
  split at made <;> cases made <;> rfl

end RoomTimeline
