import RoomTimeline.Json.Understand

/-!
# Identifiers

An entry of a timeline has an `EntryId`, which is stable as long as the timeline lives and is
what updates name. An event has in addition an `Identity`: the server's event ID, or the
transaction ID of a local echo that the server has not confirmed yet.

An identity is read field by field, and the first field at fault decides the answer.
-/

namespace RoomTimeline

/-- The identifier of an entry within one timeline. -/
structure EntryId where
  text : String
  deriving DecidableEq

namespace EntryId

/-- The order of identifiers is that of their characters, which is also the order of their
    UTF-8 bytes. -/
def le (first second : EntryId) : Bool := ¬ second.text < first.text

/-- Identifiers in ascending order, repeated ones kept. -/
def sort (ids : List EntryId) : List EntryId := ids.mergeSort le

/-- An identifier is written as a plain string. -/
def toJson (id : EntryId) : Json := .string id.text

/-- Read an identifier: any string. -/
def ofDraft (draft : Draft) : Except ReadFault EntryId :=
  (draft.expect Json.toText?).map EntryId.mk

end EntryId

/-- What identifies an event: the server's ID, or the transaction ID of a local echo. -/
inductive Identity where
  | event (id : String)
  | transaction (id : String)
  deriving DecidableEq

/-- What is wrong with a document that should be an identity. -/
inductive IdentityFault where
  /-- The ID is absent or not a string, or the document is not an object. -/
  | missingId
  /-- The flag that tells local echoes apart is absent or not a truth value. -/
  | missingFlag
  /-- The ID is the empty string. -/
  | emptyId
  deriving DecidableEq

/-- The wording of an identity fault. -/
def IdentityFault.message : IdentityFault → String
  | .missingId => "missing field `timelineItemId`"
  | .missingFlag => "missing field `isLocal`"
  | .emptyId => "timelineItemId must not be empty"

namespace Identity

/-- Whether the server has not confirmed the event yet. -/
def isLocal : Identity → Bool
  | .event _ => false
  | .transaction _ => true

/-- The ID itself, of either kind. -/
def raw : Identity → String
  | .event id | .transaction id => id

/-- The event ID, if the server has confirmed the event. -/
def eventId? : Identity → Option String
  | .event id => some id
  | .transaction _ => none

/-- The transaction ID, if the event is a local echo. -/
def transactionId? : Identity → Option String
  | .event _ => none
  | .transaction id => some id

/-- How an identity reads in messages. -/
def display : Identity → String
  | .event id => "event " ++ id
  | .transaction id => "transaction " ++ id

/-- The identity with a given ID, local or not. -/
def ofFlag (isLocal : Bool) (id : String) : Identity :=
  if isLocal then .transaction id else .event id

/-- An identity is written as its ID and the flag that tells local echoes apart. -/
def toJson (identity : Identity) : Json :=
  .object [("timelineItemId", .string identity.raw), ("isLocal", .bool identity.isLocal)]

/-- Read an identity; of repeated members the last counts. The ID is looked at first, then the
    flag, and only then whether the ID is empty. -/
def ofJson (document : Json) : Except IdentityFault Identity :=
  match (document.field? "timelineItemId").bind Json.toText? with
  | none => .error .missingId
  | some id =>
    match (document.field? "isLocal").bind Json.toBool? with
    | none => .error .missingFlag
    | some isLocal => if id = "" then .error .emptyId else .ok (ofFlag isLocal id)

/-- Read an identity from a text. The document is held as a whole before it is looked at. -/
def ofText (text : String) : Except ReadFault Identity :=
  Draft.readHeld (fun document => (ofJson document).mapError fun _ => .misfit) text

end Identity

end RoomTimeline
