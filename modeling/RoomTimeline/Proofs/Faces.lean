import RoomTimeline.Proofs.Depiction

/-!
# Renderings up to the makings of collapsed entries

Which making a collapsed entry is depends on the renderings before. Its face, the entry without
that number, does not: what is shown of a collection has the same faces whatever was folded before
(`Shows.map_face`). Everything that rendering adds to this, indicators, the trailing read marker
and the positions in blocks, looks at faces only. Positions do so because a policy is asked about
events alone, which have no face but themselves.
-/

namespace RoomTimeline

/-- The entry, without its number if it is a collapsed one. -/
def Envelope.face : Envelope → Envelope
  | .virtual header (.collapsed members) =>
    .virtual { header with serial := 0 } (.collapsed members)
  | entry => entry

/-- What is seen of an entry: its face in its position. -/
def Entry.face (entry : Entry) : Entry := ⟨entry.envelope.face, entry.group⟩

namespace Envelope

/-- The face of an entry shows the same event as the entry, or none if that is no event. -/
@[simp] theorem event?_face (entry : Envelope) : entry.face.event? = entry.event? := by
  unfold face
  split <;> rfl

/-- A face tells read markers from other entries. -/
@[simp] theorem isReadMarker_face (entry : Envelope) :
    entry.face.isReadMarker = entry.isReadMarker := by
  unfold face
  split <;> rfl

/-- An event is its own face. -/
theorem face_of_event {entry : Envelope} {details : Event} (event : entry.event? = some details) :
    entry.face = entry := by
  cases entry with
  | event header found => rfl
  | virtual header item => cases event

/-- The number of a collapsed entry is not seen. -/
theorem face_runEntry (serial other : Nat) (first : Envelope) (members : List Envelope) :
    (runEntry serial first members).face = (runEntry other first members).face := rfl

end Envelope

/-- Two ways of showing the same blocks show the same faces. -/
theorem Shows.map_face {blocks : List (List Envelope)} {shown others : List Envelope}
    {runs otherRuns : Runs} (shows : Shows blocks shown runs)
    (otherShows : Shows blocks others otherRuns) :
    shown.map Envelope.face = others.map Envelope.face := by
  induction shows generalizing others otherRuns with
  | nil =>
    cases otherShows
    rfl
  | single entry rest inductionHypothesis =>
    cases otherShows with
    | single entry otherRest =>
      rw [List.map_cons, List.map_cons, inductionHypothesis otherRest]
  | run serial first second more rest inductionHypothesis =>
    cases otherShows with
    | run other first second more otherRest =>
      rw [List.map_cons, List.map_cons, inductionHypothesis otherRest,
        Envelope.face_runEntry serial other]

/-- Two depictions of a collection show the same faces. -/
theorem Depicts.map_face {config : Config} {items shown others : List Envelope}
    {runs otherRuns : Runs} (depicts : Depicts config items runs shown)
    (otherDepicts : Depicts config items otherRuns others) :
    shown.map Envelope.face = others.map Envelope.face := by
  unfold Depicts at depicts otherDepicts
  split at depicts
  case isTrue folds =>
    rw [if_pos folds] at otherDepicts
    exact depicts.map_face otherDepicts
  case isFalse plain =>
    rw [if_neg plain] at otherDepicts
    rw [depicts.1, otherDepicts.1]

/-! ## What rendering adds -/

/-- Whether two neighbours share a block is seen from their faces. -/
theorem canGroup_face (policy : GroupingPolicy) (earlier later : Envelope) :
    canGroup policy earlier.face later.face = canGroup policy earlier later := by
  unfold canGroup
  rw [Envelope.event?_face, Envelope.event?_face]
  cases first : earlier.event? with
  | none => rfl
  | some _ =>
    cases second : later.event? with
    | none => rfl
    | some _ => rw [Envelope.face_of_event first, Envelope.face_of_event second]

/-- The links of a sequence are seen from its faces. -/
theorem links_face (policy : GroupingPolicy) (entries : List Envelope) :
    links policy (entries.map Envelope.face) = links policy entries := by
  unfold links
  fun_induction neighbours (canGroup policy) entries with
  | case1 earlier later rest inductionHypothesis =>
    simp only [List.map_cons, neighbours, canGroup_face] at inductionHypothesis ⊢
    rw [inductionHypothesis]
  | case2 entries short =>
    match entries, short with
    | [], _ => rfl
    | [_], _ => rfl
    | earlier :: later :: rest, short => exact absurd rfl (short earlier later rest)

/-- The positions of entries are those of their faces. -/
theorem grouped_face (policy : GroupingPolicy) (entries : List Envelope) :
    (grouped policy entries).map Entry.face = grouped policy (entries.map Envelope.face) := by
  unfold grouped classifyAll
  rw [links_face, List.length_map, List.map_zipWith, List.zipWith_map_left]
  rfl

/-- Whether the last entry is left out is seen from the faces. -/
theorem dropTrailingReadMarker_face (entries : List Envelope) :
    (dropTrailingReadMarker entries).map Envelope.face =
      dropTrailingReadMarker (entries.map Envelope.face) := by
  unfold dropTrailingReadMarker
  rw [List.getLast?_map]
  cases entries.getLast? with
  | none => rfl
  | some last =>
    simp only [Option.map_some, Envelope.isReadMarker_face]
    split
    · exact List.map_dropLast ..
    · rfl

/-- The indicators and the trailing read marker are added and left out by faces. -/
theorem arrange_face (config : Config) (pair : PaginationPair) (body : List Envelope) :
    (arrange config pair body).map Envelope.face =
      arrange config pair (body.map Envelope.face) := by
  have start : (indicator config pair.backward startIndicator).map Envelope.face =
      indicator config pair.backward startIndicator := by
    unfold indicator
    split <;> rfl
  have finish : (indicator config pair.forward finishIndicator).map Envelope.face =
      indicator config pair.forward finishIndicator := by
    unfold indicator
    split <;> rfl
  unfold arrange
  dsimp only
  rw [List.map_append, finish]
  split
  · rw [dropTrailingReadMarker_face, List.map_append, start]
  · rw [List.map_append, start]

/-- Bodies with the same faces are rendered with the same faces. -/
theorem grouped_arrange_face (config : Config) (policy : GroupingPolicy) (pair : PaginationPair)
    {body other : List Envelope} (same : body.map Envelope.face = other.map Envelope.face) :
    (grouped policy (arrange config pair body)).map Entry.face =
      (grouped policy (arrange config pair other)).map Entry.face := by
  rw [grouped_face, grouped_face, arrange_face, arrange_face, same]

end RoomTimeline
