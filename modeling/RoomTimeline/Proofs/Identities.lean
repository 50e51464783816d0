import RoomTimeline.Identity
import RoomTimeline.Proofs.Json.Written

/-!
# Identities are read as they are written

An identity is written by one function and read by another, and the reader accepts far more than
what is ever written: members in any order, among any others, and keys that repeat. `Json.Has` says
which value stands under a key of a document without looking it up. In these terms the reader
accepts what holds an identity that is not empty and nothing else, names the first of its demands
that a document does not meet, and gives back every identity that is not empty from its own text
(`Identity.reads_what_is_written`).
-/

namespace RoomTimeline

namespace Json

/-- A document is an object with this value under this key; where the key repeats, the last value
counts. -/
def Has (document : Json) (key : String) (value : Json) : Prop :=
  ∃ before after, document = .object (before ++ (key, value) :: after) ∧
    ∀ member ∈ after, member.1 ≠ key

/-- The value that is found under a key is the last one that the document has there. -/
theorem field?_eq_some {document : Json} {key : String} {value : Json} :
    document.field? key = some value ↔ document.Has key value := by
  unfold Has
  cases document with
  | object members =>
    rw [field?, List.getLast?_filterMap, List.findSome?_eq_some_iff]
    constructor
    · rintro ⟨after, ⟨name, found⟩, before, split, named, others⟩
      obtain ⟨rfl, rfl⟩ : name = key ∧ found = value := by simpa using named
      refine ⟨before.reverse, after.reverse, ?_, ?_⟩
      · rw [← List.reverse_reverse members, split]
        simp
      · simpa [eq_comm] using others
    · rintro ⟨before, after, split, last⟩
      cases split
      refine ⟨after.reverse, (key, value), before.reverse, by simp, by simp, ?_⟩
      simpa using last
  | _ => simp [field?]

/-- At most one value counts under a key of a document. -/
theorem Has.unique {document : Json} {key : String} {first second : Json}
    (has : document.Has key first) (hasToo : document.Has key second) : first = second :=
  Option.some.inj ((field?_eq_some.mpr has).symm.trans (field?_eq_some.mpr hasToo))

/-- Just the strings among documents have a text, which is the one that they hold. -/
theorem toText?_eq_some {document : Json} {text : String} :
    document.toText? = some text ↔ document = .string text := by
  cases document <;> simp [toText?]

/-- Just the literals of truth values among documents have a truth value, which is the one that they
stand for. -/
theorem toBool?_eq_some {document : Json} {value : Bool} :
    document.toBool? = some value ↔ document = .bool value := by
  cases document <;> simp [toBool?]

/-- A look-up for a string finds the text of the string that a document has under the key. -/
theorem field?_toText?_eq_some {document : Json} {key text : String} :
    (document.field? key).bind toText? = some text ↔ document.Has key (.string text) := by
  simp [Option.bind_eq_some_iff, field?_eq_some, toText?_eq_some]

/-- A look-up for a truth value finds the value of the literal that a document has under the key. -/
theorem field?_toBool?_eq_some {document : Json} {key : String} {value : Bool} :
    (document.field? key).bind toBool? = some value ↔ document.Has key (.bool value) := by
  simp [Option.bind_eq_some_iff, field?_eq_some, toBool?_eq_some]

/-- A text that holds a document is understood as the document is, if this is neither too deep to be
held nor has numbers beyond all bounds. -/
theorem readHeld_of_ofText? {α : Type} {understand : Json → Except ReadFault α} {text : String}
    {document : Json} (consists : ofText? text = some document) (shallow : document.depth ≤ 127)
    (finite : document.isFinite = true) : Draft.readHeld understand text = understand document := by
  unfold ofText? at consists
  unfold Draft.readHeld Draft.read
  cases scanned : Draft.scan text.toList with
  | mk draft rest =>
    rw [scanned] at consists
    dsimp only at consists ⊢
    split at consists
    · rename_i finished
      have held : draft.held? 0 = some document := by
        simp [Draft.held?, consists, shallow, finite]
      rw [held]
      dsimp only
      cases understand document with
      | error fault => rfl
      | ok value => exact if_pos finished
    · cases consists

end Json

namespace Identity

/-- What is read is what has been written, unless the identity is empty. -/
theorem ofJson_toJson (identity : Identity) :
    ofJson identity.toJson = if identity.raw = "" then .error .emptyId else .ok identity := by
  cases identity <;> rfl

/-- An identity made of an ID and a flag is written as just these. -/
theorem toJson_ofFlag (isLocal : Bool) (id : String) :
    (ofFlag isLocal id).toJson =
      .object [("timelineItemId", .string id), ("isLocal", .bool isLocal)] := by
  cases isLocal <;> rfl

variable {document : Json}

/-- What the reader makes of a document, by what this has under the two keys. -/
theorem ofJson_eq_iff {verdict : Except IdentityFault Identity} :
    ofJson document = verdict ↔
      (verdict = .error .missingId ∧ ¬ ∃ id, document.Has "timelineItemId" (.string id)) ∨
      (verdict = .error .missingFlag ∧ (∃ id, document.Has "timelineItemId" (.string id)) ∧
        ¬ ∃ isLocal, document.Has "isLocal" (.bool isLocal)) ∨
      ∃ id isLocal, document.Has "timelineItemId" (.string id) ∧
        document.Has "isLocal" (.bool isLocal) ∧
        verdict = if id = "" then .error .emptyId else .ok (ofFlag isLocal id) := by
  simp only [← Json.field?_toText?_eq_some, ← Json.field?_toBool?_eq_some]
  unfold ofJson
  cases (document.field? "timelineItemId").bind Json.toText? with
  | none => simp [eq_comm]
  | some id =>
    cases (document.field? "isLocal").bind Json.toBool? with
    | none => simp [eq_comm]
    | some isLocal => simp [eq_comm]

/-- The reader accepts just the documents that have a flag and an ID that is not empty. -/
theorem ofJson_eq_ok {identity : Identity} :
    ofJson document = .ok identity ↔
      ∃ id isLocal, document.Has "timelineItemId" (.string id) ∧
        document.Has "isLocal" (.bool isLocal) ∧ id ≠ "" ∧ identity = ofFlag isLocal id := by
  rw [ofJson_eq_iff]
  constructor
  · rintro (⟨differ, -⟩ | ⟨differ, -⟩ | ⟨id, isLocal, named, flagged, same⟩)
    · cases differ
    · cases differ
    · split at same
      · cases same
      · rename_i filled
        cases same
        exact ⟨id, isLocal, named, flagged, filled, rfl⟩
  · rintro ⟨id, isLocal, named, flagged, filled, rfl⟩
    exact .inr (.inr ⟨id, isLocal, named, flagged, (if_neg filled).symm⟩)

/-- The reader misses the ID of just the documents that have no string under its key. -/
theorem ofJson_eq_missingId :
    ofJson document = .error .missingId ↔
      ¬ ∃ id, document.Has "timelineItemId" (.string id) := by
  rw [ofJson_eq_iff]
  constructor
  · rintro (⟨-, absent⟩ | ⟨differ, -⟩ | ⟨id, isLocal, -, -, same⟩)
    · exact absent
    · cases differ
    · split at same <;> cases same
  · intro absent
    exact .inl ⟨rfl, absent⟩

/-- The reader misses the flag of just the documents that have an ID and no truth value under the
key of the flag. -/
theorem ofJson_eq_missingFlag :
    ofJson document = .error .missingFlag ↔
      (∃ id, document.Has "timelineItemId" (.string id)) ∧
        ¬ ∃ isLocal, document.Has "isLocal" (.bool isLocal) := by
  rw [ofJson_eq_iff]
  constructor
  · rintro (⟨differ, -⟩ | ⟨-, lacks⟩ | ⟨id, isLocal, -, -, same⟩)
    · cases differ
    · exact lacks
    · split at same <;> cases same
  · intro lacks
    exact .inr (.inl ⟨rfl, lacks⟩)

/-- The reader refuses for an empty ID just the documents that have an empty ID and a flag. -/
theorem ofJson_eq_emptyId :
    ofJson document = .error .emptyId ↔
      document.Has "timelineItemId" (.string "") ∧
        ∃ isLocal, document.Has "isLocal" (.bool isLocal) := by
  rw [ofJson_eq_iff]
  constructor
  · rintro (⟨differ, -⟩ | ⟨differ, -⟩ | ⟨id, isLocal, named, flagged, same⟩)
    · cases differ
    · cases differ
    · split at same
      · rename_i empty
        exact ⟨empty ▸ named, isLocal, flagged⟩
      · cases same
  · rintro ⟨named, isLocal, flagged⟩
    exact .inr (.inr ⟨"", isLocal, named, flagged, rfl⟩)

/-- An identity is read back from its own text, unless it is empty. -/
theorem ofText_render (identity : Identity) :
    ofText identity.toJson.render =
      if identity.raw = "" then .error .misfit else .ok identity := by
  have shallow : identity.toJson.depth ≤ 127 := by
    simp [toJson, Json.depth, Json.depthMembers]
  have finite : identity.toJson.isFinite = true := by
    simp [toJson, Json.isFinite, Json.isFiniteMembers]
  unfold ofText
  rw [Json.readHeld_of_ofText? identity.toJson.ofText?_render shallow finite, ofJson_toJson]
  split <;> rfl

/-- Reading and writing of identities match.
- An identity that is not empty is read back from its text, as the same ID of the same kind.
- Just those documents are read that have a string that is not empty under the key of the ID and a
  truth value under the key of the flag. What is read is written as an object of these two.
- Of any other document it is said what it lacks: first the string, then the truth value, and last
  that the string is not empty.
- A text is read as the document it consists of, if this can be held. -/
theorem reads_what_is_written :
    (∀ identity : Identity, identity.raw ≠ "" → ofText identity.toJson.render = .ok identity) ∧
    (∀ document : Json, (∃ identity, ofJson document = .ok identity) ↔
      ∃ id isLocal, document.Has "timelineItemId" (.string id) ∧
        document.Has "isLocal" (.bool isLocal) ∧ id ≠ "") ∧
    (∀ (document : Json) identity, ofJson document = .ok identity →
      ∃ id isLocal, document.Has "timelineItemId" (.string id) ∧
        document.Has "isLocal" (.bool isLocal) ∧
        identity.toJson = .object [("timelineItemId", .string id), ("isLocal", .bool isLocal)]) ∧
    (∀ document : Json, ofJson document = .error .missingId ↔
      ¬ ∃ id, document.Has "timelineItemId" (.string id)) ∧
    (∀ document : Json, ofJson document = .error .missingFlag ↔
      (∃ id, document.Has "timelineItemId" (.string id)) ∧
        ¬ ∃ isLocal, document.Has "isLocal" (.bool isLocal)) ∧
    (∀ document : Json, ofJson document = .error .emptyId ↔
      document.Has "timelineItemId" (.string "") ∧
        ∃ isLocal, document.Has "isLocal" (.bool isLocal)) ∧
    ∀ text document, Json.ofText? text = some document → document.depth ≤ 127 →
      document.isFinite = true →
        ofText text = (ofJson document).mapError fun _ => ReadFault.misfit := by
  refine ⟨?_, ?_, ?_, fun _ => ofJson_eq_missingId, fun _ => ofJson_eq_missingFlag,
    fun _ => ofJson_eq_emptyId, ?_⟩
  · intro identity filled
    rw [ofText_render, if_neg filled]
  · intro document
    constructor
    · rintro ⟨identity, read⟩
      obtain ⟨id, isLocal, named, flagged, filled, -⟩ := ofJson_eq_ok.mp read
      exact ⟨id, isLocal, named, flagged, filled⟩
    · rintro ⟨id, isLocal, named, flagged, filled⟩
      exact ⟨ofFlag isLocal id, ofJson_eq_ok.mpr ⟨id, isLocal, named, flagged, filled, rfl⟩⟩
  · intro document identity read
    obtain ⟨id, isLocal, named, flagged, -, rfl⟩ := ofJson_eq_ok.mp read
    exact ⟨id, isLocal, named, flagged, toJson_ofFlag isLocal id⟩
  · intro text document consists shallow finite
    exact Json.readHeld_of_ofText? consists shallow finite

/-- An ID of quotes, control characters and characters of several bytes is read back. An object that
repeats keys, among others and in no order, is read by its last values, and one that lacks more than
one thing is refused for the first. A text may have blanks and say a thing in its own way. -/
theorem reads_what_is_written_of_awkward_members :
    ofText (transaction "\"\\\n\x01é😀").toJson.render = .ok (transaction "\"\\\n\x01é😀") ∧
    (∃ identity, ofJson (.object [("isLocal", .bool true), ("timelineItemId", .null),
        ("more", .array []), ("timelineItemId", .string "$abc"), ("isLocal", .bool false)]) =
          .ok identity ∧
        identity.toJson = .object [("timelineItemId", .string "$abc"), ("isLocal", .bool false)]) ∧
    ofJson (.object [("timelineItemId", .string ""), ("timelineItemId", .null)]) =
      .error .missingId ∧
    ofJson (.object [("timelineItemId", .string ""), ("isLocal", .string "true")]) =
      .error .missingFlag ∧
    ofJson (.object [("timelineItemId", .string ""), ("isLocal", .bool true)]) = .error .emptyId ∧
    ofText " \x7b\"isLocal\" : true, \"timelineItemId\" : \"$a\\/b\"\x7d\n" =
      .ok (transaction "$a/b") := by
  obtain ⟨readBack, accepts, rewritten, missingId, missingFlag, emptyId, held⟩ :=
    reads_what_is_written
  refine ⟨readBack _ (by decide), ?_, ?_, ?_, ?_, ?_⟩
  · let document : Json := .object [("isLocal", .bool true), ("timelineItemId", .null),
      ("more", .array []), ("timelineItemId", .string "$abc"), ("isLocal", .bool false)]
    have named : document.Has "timelineItemId" (.string "$abc") :=
      ⟨[_, _, _], [_], rfl, by simp⟩
    have flagged : document.Has "isLocal" (.bool false) := ⟨[_, _, _, _], [], rfl, by simp⟩
    obtain ⟨identity, read⟩ := (accepts document).mpr ⟨_, _, named, flagged, by decide⟩
    obtain ⟨id, isLocal, namedSo, flaggedSo, written⟩ := rewritten document identity read
    cases named.unique namedSo
    cases flagged.unique flaggedSo
    exact ⟨identity, read, written⟩
  · refine (missingId _).mpr ?_
    simp [← Json.field?_eq_some, Json.field?]
  · refine (missingFlag _).mpr ⟨⟨"", [], [_], rfl, by simp⟩, ?_⟩
    simp [← Json.field?_eq_some, Json.field?]
  · exact (emptyId _).mpr ⟨⟨[], [_], rfl, by simp⟩, true, [_], [], rfl, by simp⟩
  · have scanned : Draft.scan
        " \x7b\"isLocal\" : true, \"timelineItemId\" : \"$a\\/b\"\x7d\n".toList =
          (.object [(some "isLocal", .bool true), (some "timelineItemId", .string (some "$a/b"))],
            ['\n']) := by cbv
    have consists : Json.ofText?
        " \x7b\"isLocal\" : true, \"timelineItemId\" : \"$a\\/b\"\x7d\n" =
          some (.object [("isLocal", .bool true), ("timelineItemId", .string "$a/b")]) := by
      unfold Json.ofText?
      rw [scanned]
      rfl
    exact held _ _ consists (by decide) (by decide)

end Identity

end RoomTimeline
