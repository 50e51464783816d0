import RoomTimeline.Json.Value

/-!
# Senders and contents of events

What an event says and who said it, as far as the timeline shows it. Membership changes and
state changes are *state-like*: they are shown as a notice and may be folded into one entry,
while all other contents are shown on their own.
-/

namespace RoomTimeline

/-- The sender of an event. The display name may not be known yet, and another member of the
    room may bear the same one. -/
structure Sender where
  userId : String
  displayName : Option String
  displayNameAmbiguous : Bool
  avatarUrl : Option String
  deriving DecidableEq

namespace Sender

/-- A sender of whom only the user ID is known. -/
def ofUserId (userId : String) : Sender := ⟨userId, none, false, none⟩

/-- The name to show: the display name, followed by the user ID where the name is ambiguous,
    and the user ID alone where no name is known. -/
def disambiguatedName (sender : Sender) : String :=
  match sender.displayName with
  | some name => if sender.displayNameAmbiguous then s!"{name} ({sender.userId})" else name
  | none => sender.userId

/-- A sender is written with all its fields. -/
def toJson (sender : Sender) : Json :=
  .object [
    ("userId", .string sender.userId),
    ("displayName", Json.optionalString sender.displayName),
    ("displayNameAmbiguous", .bool sender.displayNameAmbiguous),
    ("avatarUrl", Json.optionalString sender.avatarUrl)]

end Sender

/-- What kind of message a message is. -/
inductive MessageKind where
  | text
  | emote
  | notice
  | serverNotice
  | image
  | video
  | audio
  | file
  | verificationRequest
  | unknown (name : String)
  deriving DecidableEq

/-- A message kind is written as its name, an unknown one as an object with the name. -/
def MessageKind.toJson : MessageKind → Json
  | .text => .string "text"
  | .emote => .string "emote"
  | .notice => .string "notice"
  | .serverNotice => .string "serverNotice"
  | .image => .string "image"
  | .video => .string "video"
  | .audio => .string "audio"
  | .file => .string "file"
  | .verificationRequest => .string "verificationRequest"
  | .unknown name => .object [("unknown", .string name)]

/-- How a member's relation to the room changed. -/
inductive MembershipChange where
  | joined
  | left
  | invited
  | invitationRejected
  | kicked
  | banned
  | unbanned
  | knocked
  deriving DecidableEq

/-- The name of a membership change. -/
def MembershipChange.name : MembershipChange → String
  | .joined => "joined"
  | .left => "left"
  | .invited => "invited"
  | .invitationRejected => "invitationRejected"
  | .kicked => "kicked"
  | .banned => "banned"
  | .unbanned => "unbanned"
  | .knocked => "knocked"

/-- A message: its kind and body, whether it was edited, the root of its thread and the event
    that it answers. -/
structure Message where
  kind : MessageKind
  body : String
  edited : Bool
  threadRoot : Option String
  inReplyTo : Option String
  deriving DecidableEq

/-- A plain text message. -/
def Message.ofText (body : String) : Message := ⟨.text, body, false, none, none⟩

/-- A message is written with all its fields. -/
def Message.toJson (message : Message) : Json :=
  .object [
    ("msgtype", message.kind.toJson),
    ("body", .string message.body),
    ("edited", .bool message.edited),
    ("threadRoot", Json.optionalString message.threadRoot),
    ("inReplyTo", Json.optionalString message.inReplyTo)]

/-- What an event says. A reaction appears here only if it could not be attached to the event
    that it reacts to. -/
inductive Content where
  | message (details : Message)
  | membershipChange (userId : String) (change : MembershipChange)
  | redaction
  | reaction (key relatesTo : String)
  | poll (question : String) (hasEnded : Bool)
  | sticker (body : String)
  | location (body geoUri : String)
  | stateChange (eventType stateKey : String)
  | unsupported (eventType reason : String)
  | other (eventType : String)
  deriving DecidableEq

namespace Content

/-- Whether the content is a change of membership. -/
def isMembershipChange : Content → Bool
  | .membershipChange _ _ => true
  | _ => false

/-- Whether the content is shown as a notice: a change of membership or of other state. -/
def isStateLike : Content → Bool
  | .membershipChange _ _ | .stateChange _ _ => true
  | _ => false

/-- The name under which a content is written. -/
def name : Content → String
  | .message _ => "message"
  | .membershipChange _ _ => "membershipChange"
  | .redaction => "redaction"
  | .reaction _ _ => "reaction"
  | .poll _ _ => "poll"
  | .sticker _ => "sticker"
  | .location _ _ => "location"
  | .stateChange _ _ => "stateChange"
  | .unsupported _ _ => "unsupported"
  | .other _ => "other"

/-- The fields of a content; a redaction has none to write. -/
def data? : Content → Option Json
  | .message details => some details.toJson
  | .membershipChange userId change =>
    some (.object [("userId", .string userId), ("change", .string change.name)])
  | .redaction => none
  | .reaction key relatesTo =>
    some (.object [("key", .string key), ("relatesTo", .string relatesTo)])
  | .poll question hasEnded =>
    some (.object [("question", .string question), ("hasEnded", .bool hasEnded)])
  | .sticker body => some (.object [("body", .string body)])
  | .location body geoUri =>
    some (.object [("body", .string body), ("geoUri", .string geoUri)])
  | .stateChange eventType stateKey =>
    some (.object [("eventType", .string eventType), ("stateKey", .string stateKey)])
  | .unsupported eventType reason =>
    some (.object [("eventType", .string eventType), ("reason", .string reason)])
  | .other eventType => some (.object [("eventType", .string eventType)])

/-- A content is written as its name and, where it has fields, an object of them. -/
def toJson (content : Content) : Json :=
  .object (("kind", .string content.name) ::
    match content.data? with
    | some data => [("data", data)]
    | none => [])

end Content

end RoomTimeline
