import RoomTimeline.Proofs.CommonOrder
import RoomTimeline.Proofs.Json.Written
import RoomTimeline.Proofs.Reactions
import RoomTimeline.Snapshot

/-!
# What the text of a snapshot tells

Readers of a published timeline get its text. `Visible` is what they can rely on about an entry:
what it is, of an event all that was said and by whom and how far it was sent and who reacted, and
of a collapsed run the same about each of its members. The text tells all of this and nothing else
(`Snapshot.render_tells`): how an envelope was numbered, what the source stated about sending beyond
the status shown, and repeated reactions leave no trace.

Every type is written in a way of its own, so each has its lemma that what is written alike is the
same, and the one about a type rests on those about its parts.
-/

namespace RoomTimeline

/-! ## Names -/

/-- Changes of membership with the same name are the same. -/
@[simp] theorem MembershipChange.name_inj {first second : MembershipChange} :
    first.name = second.name ↔ first = second := by
  cases first <;> cases second <;> simp [name]

/-- Positions with the same name are the same. -/
@[simp] theorem GroupPosition.name_inj {first second : GroupPosition} :
    first.name = second.name ↔ first = second := by
  cases first <;> cases second <;> simp [name]

/-- Statuses of pagination with the same name are the same. -/
@[simp] theorem PaginationStatus.name_inj {first second : PaginationStatus} :
    first.name = second.name ↔ first = second := by
  cases first <;> cases second <;> simp [name]

/-- Edges of a timeline with the same name are the same. -/
@[simp] theorem Edge.name_inj {first second : Edge} :
    first.name = second.name ↔ first = second := by
  cases first <;> cases second <;> simp [name]

/-! ## Parts of an event -/

/-- Identifiers that are written alike are the same. -/
@[simp] theorem EntryId.toJson_inj {first second : EntryId} :
    first.toJson = second.toJson ↔ first = second := by
  cases first
  cases second
  simp [toJson]

/-- Identities that are written alike are the same: the flag tells an event from a local echo. -/
@[simp] theorem Identity.toJson_inj {first second : Identity} :
    first.toJson = second.toJson ↔ first = second := by
  cases first <;> cases second <;> simp [toJson, raw, isLocal]

/-- Senders that are written alike are the same. -/
@[simp] theorem Sender.toJson_inj {first second : Sender} :
    first.toJson = second.toJson ↔ first = second := by
  cases first
  cases second
  simp [toJson]

/-- Kinds of messages that are written alike are the same: an unknown one is written as an object,
whatever its name. -/
@[simp] theorem MessageKind.toJson_inj {first second : MessageKind} :
    first.toJson = second.toJson ↔ first = second := by
  cases first <;> cases second <;> simp [toJson]

/-- Messages that are written alike are the same. -/
@[simp] theorem Message.toJson_inj {first second : Message} :
    first.toJson = second.toJson ↔ first = second := by
  cases first
  cases second
  simp [toJson]

/-- Contents that are written alike are the same: their names tell what they are, and then their
fields are those of one kind of content. -/
@[simp] theorem Content.toJson_inj {first second : Content} :
    first.toJson = second.toJson ↔ first = second := by
  refine ⟨fun same => ?_, congrArg toJson⟩
  obtain ⟨kind, fields⟩ := List.cons_eq_cons.mp (Json.object.inj same)
  have named : first.name = second.name := Json.string.inj (congrArg Prod.snd kind)
  have told : first.data? = second.data? := by
    cases isFirst : first.data? <;> cases isSecond : second.data? <;>
      simp [isFirst, isSecond] at fields ⊢
    exact fields
  cases first <;> cases second <;> simp [name] at named <;> simp_all [data?]

/-- Failures of sending that are written alike are the same. -/
@[simp] theorem SendFailure.toJson_inj {first second : SendFailure} :
    first.toJson = second.toJson ↔ first = second := by
  have texts : Function.Injective Json.string := fun _ _ => Json.string.inj
  cases first <;> cases second <;> simp [toJson, texts.list_map.eq_iff]

/-- Statuses of delivery that are written alike are the same. -/
@[simp] theorem DeliveryStatus.toJson_inj {first second : DeliveryStatus} :
    first.toJson = second.toJson ↔ first = second := by
  cases first <;> cases second <;> simp [toJson]

/-- Summaries of reactions that are written alike are the same, their orders included. -/
@[simp] theorem ReactionSummary.toJson_inj {first second : ReactionSummary} :
    first.toJson = second.toJson ↔ first = second := by
  refine ⟨fun same => ?_, congrArg toJson⟩
  have entries := Json.object.inj same
  refine eq_of_map_eq entries ?_
  rintro ⟨key, senders⟩ - ⟨otherKey, others⟩ - equal
  obtain ⟨rfl, written⟩ := Prod.mk.inj equal
  refine congrArg (key, ·) (eq_of_map_eq (Json.object.inj written) ?_)
  rintro ⟨sender, timestamp⟩ - ⟨otherSender, otherTimestamp⟩ - equal
  obtain ⟨rfl, times⟩ := Prod.mk.inj equal
  rw [Json.nat_toNat_inj.mp times]

/-- Events that are written alike are the same. -/
@[simp] theorem Event.toJson_inj {first second : Event} :
    first.toJson = second.toJson ↔ first = second := by
  cases first
  cases second
  simp [toJson]

/-! ## Keys

The keys of an object are fixed by the type that it is written for, so it is seen at once that they
differ. Only a summary of reactions has keys of its own. -/

/-- No key is repeated where an identity is written. -/
@[simp] theorem Identity.keysDistinct (id : Identity) : id.toJson.KeysDistinct := by
  simp [toJson]

/-- No key is repeated where a sender is written. -/
@[simp] theorem Sender.keysDistinct (sender : Sender) : sender.toJson.KeysDistinct := by
  simp [toJson]

/-- No key is repeated where a kind of message is written. -/
@[simp] theorem MessageKind.keysDistinct (kind : MessageKind) : kind.toJson.KeysDistinct := by
  cases kind <;> simp [toJson]

/-- No key is repeated where a message is written. -/
@[simp] theorem Message.keysDistinct (message : Message) : message.toJson.KeysDistinct := by
  simp [toJson]

/-- No key is repeated where a content is written. -/
@[simp] theorem Content.keysDistinct (content : Content) : content.toJson.KeysDistinct := by
  cases content <;> simp [toJson, data?]

/-- No key is repeated where a failure of sending is written. -/
@[simp] theorem SendFailure.keysDistinct (failure : SendFailure) :
    failure.toJson.KeysDistinct := by
  cases failure <;> simp [toJson]

/-- No key is repeated where a status of delivery is written. -/
@[simp] theorem DeliveryStatus.keysDistinct (status : DeliveryStatus) :
    status.toJson.KeysDistinct := by
  cases status <;> simp [toJson]

/-- No key is repeated where a summary of reactions is written that holds each key and each sender
once. -/
theorem ReactionSummary.Distinct.keysDistinct {summary : ReactionSummary}
    (distinct : summary.Distinct) : summary.toJson.KeysDistinct := by
  refine .object ?_ (List.forall_mem_map.mpr fun entry member => .object ?_ ?_)
  · rw [List.map_map]
    exact distinct.keys
  · rw [List.map_map]
    exact distinct.senders entry member
  · exact List.forall_mem_map.mpr fun _ _ => Json.keysDistinct_nat _

/-- No key is repeated where an event is written. -/
@[simp] theorem Event.keysDistinct (details : Event) : details.toJson.KeysDistinct := by
  simp [toJson]

/-! ## Entries -/

/-- What is told of an entry. -/
inductive Visible where
  | event (uniqueId : EntryId) (details : Event) (delivery : DeliveryStatus)
      (reactions : ReactionSummary)
  | virtual (uniqueId : EntryId) (item : VirtualItem Visible)

namespace Envelope

mutual

/-- What is told of an envelope: nothing of a virtual one but its item, with the members of a
    collapsed run as they are told themselves. -/
def visible : Envelope → Visible
  | .event header details =>
    .event header.uniqueId details (.derive details.id header.sendState)
      (.ofReactions header.reactions)
  | .virtual header (.dateDivider timestamp) => .virtual header.uniqueId (.dateDivider timestamp)
  | .virtual header .readMarker => .virtual header.uniqueId .readMarker
  | .virtual header .timelineStart => .virtual header.uniqueId .timelineStart
  | .virtual header (.paginationIndicator edge) =>
    .virtual header.uniqueId (.paginationIndicator edge)
  | .virtual header (.collapsed members) =>
    .virtual header.uniqueId (.collapsed (visibleList members))

/-- What is told of a list of envelopes. -/
def visibleList : List Envelope → List Visible
  | [] => []
  | first :: rest => visible first :: visibleList rest

end

mutual

/-- Envelopes are written alike exactly when the same is told of them: an event has fields that no
virtual entry has, and a virtual item tells its kind. -/
theorem toJson_eq_iff : (first second : Envelope) →
    (first.toJson = second.toJson ↔ first.visible = second.visible)
  | .event _ _, .event _ _ => by simp [toJson, visible]
  | .event _ _, .virtual _ item => by cases item <;> simp [toJson, virtualJson, visible]
  | .virtual _ item, .event _ _ => by cases item <;> simp [toJson, virtualJson, visible]
  | .virtual _ (.collapsed members), .virtual _ (.collapsed others) => by
    simp [toJson, virtualJson, visible, toJsonList_eq_iff members others]
  | .virtual _ (.collapsed _), .virtual _ (.dateDivider _)
  | .virtual _ (.collapsed _), .virtual _ .readMarker
  | .virtual _ (.collapsed _), .virtual _ .timelineStart
  | .virtual _ (.collapsed _), .virtual _ (.paginationIndicator _) => by
    simp [toJson, virtualJson, visible]
  | .virtual _ (.dateDivider _), .virtual _ item | .virtual _ .readMarker, .virtual _ item
  | .virtual _ .timelineStart, .virtual _ item
  | .virtual _ (.paginationIndicator _), .virtual _ item => by
    cases item <;> simp [toJson, virtualJson, visible]

/-- Lists of envelopes are written alike exactly when the same is told of them. -/
theorem toJsonList_eq_iff : (first second : List Envelope) →
    (toJsonList first = toJsonList second ↔ visibleList first = visibleList second)
  | [], [] => by simp [toJsonList, visibleList]
  | [], _ :: _ => by simp [toJsonList, visibleList]
  | _ :: _, [] => by simp [toJsonList, visibleList]
  | head :: tail, other :: others => by
    simp [toJsonList, visibleList, toJson_eq_iff head other, toJsonList_eq_iff tail others]

end

mutual

/-- No key is repeated where an envelope is written, nor where members of a collapsed run are. -/
theorem keysDistinct : (envelope : Envelope) → envelope.toJson.KeysDistinct
  | .event header _ => by
    have distinct := ReactionSummary.distinct_ofReactions header.reactions
    simp [toJson, EntryId.toJson, distinct.keysDistinct]
  | .virtual _ (.dateDivider _) | .virtual _ .readMarker | .virtual _ .timelineStart
  | .virtual _ (.paginationIndicator _) => by simp [toJson, virtualJson, EntryId.toJson]
  | .virtual _ (.collapsed members) => by
    simpa [toJson, virtualJson, EntryId.toJson] using keysDistinctList members

/-- No key is repeated where a list of envelopes is written. -/
theorem keysDistinctList : (envelopes : List Envelope) →
    ∀ item ∈ toJsonList envelopes, item.KeysDistinct
  | [] => fun _ member => absurd member List.not_mem_nil
  | first :: rest => List.forall_mem_cons.mpr ⟨keysDistinct first, keysDistinctList rest⟩

end

end Envelope

/-- What is told of an entry as it is shown: what it is, and its position in its block. -/
def Entry.visible (entry : Entry) : Visible × GroupPosition := (entry.envelope.visible, entry.group)

/-- Entries are written alike exactly when the same is told of them. -/
theorem Entry.toJson_eq_iff (first second : Entry) :
    first.toJson = second.toJson ↔ first.visible = second.visible := by
  simp [toJson, visible, Envelope.toJson_eq_iff]

/-- Pairs of statuses that are written alike are the same. -/
@[simp] theorem PaginationPair.toJson_inj {first second : PaginationPair} :
    first.toJson = second.toJson ↔ first = second := by
  cases first
  cases second
  simp [toJson]

/-- No key is repeated where a snapshot is written. -/
theorem Snapshot.keysDistinct (snapshot : Snapshot) : snapshot.toJson.KeysDistinct := by
  simp [toJson, Entry.toJson, PaginationPair.toJson, Envelope.keysDistinct]

end RoomTimeline
