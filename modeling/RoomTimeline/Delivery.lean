import RoomTimeline.Identity

/-!
# Delivery of own messages

A source may state how far sending an event has got. Where it does not, the identity decides:
a local echo is still being sent, and an event that the server knows has been sent.
-/

namespace RoomTimeline

/-- Why sending failed. Verified users may block sending, by an unsigned device or by a changed
    identity. -/
inductive SendFailure where
  | unknown
  | unsignedDevice (users : List String)
  | changedIdentity (users : List String)
  deriving DecidableEq

/-- A failure is written as its reason and, where users caused it, their IDs. -/
def SendFailure.toJson : SendFailure → Json
  | .unknown => .object [("reason", .string "unknown")]
  | .unsignedDevice users =>
    .object [("reason", .string "verifiedUserHasUnsignedDevice"),
      ("users", .array (users.map .string))]
  | .changedIdentity users =>
    .object [("reason", .string "verifiedUserChangedIdentity"),
      ("users", .array (users.map .string))]

/-- What the source states about sending. -/
inductive SendState where
  | notSentYet
  | sent
  | failed (failure : SendFailure)
  deriving DecidableEq

/-- What is shown about sending. -/
inductive DeliveryStatus where
  | sending
  | sent
  | sendingFailed (failure : SendFailure)
  deriving DecidableEq

namespace DeliveryStatus

/-- The status of an event with a given identity: what the source states, or else what the
    identity implies. -/
def derive (identity : Identity) : Option SendState → DeliveryStatus
  | some .notSentYet => .sending
  | some .sent => .sent
  | some (.failed failure) => .sendingFailed failure
  | none => if identity.isLocal then .sending else .sent

/-- A status is written as its name and, for a failure, what went wrong. -/
def toJson : DeliveryStatus → Json
  | .sending => .object [("status", .string "sending")]
  | .sent => .object [("status", .string "sent")]
  | .sendingFailed failure =>
    .object [("status", .string "sendingFailed"), ("failure", failure.toJson)]

end DeliveryStatus

end RoomTimeline
