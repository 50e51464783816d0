import RoomTimeline.Collapse
import RoomTimeline.Config
import RoomTimeline.Snapshot

/-!
# Rendering a collection

What is shown of a collection: an indicator at each edge that is being loaded, between them the
entries, folded where this is configured and without a trailing read marker, and each entry with
its position in a block. Rendering adds and leaves out entries but never reorders them.
-/

namespace RoomTimeline

/-- The indicator at the edge of older entries. Both indicators are made once for all, under
    serials that no collection uses. -/
def startIndicator : Envelope :=
  .synthesized 0 ⟨"pagination-indicator-start"⟩ (.paginationIndicator .start)

/-- The indicator at the edge of newer entries. -/
def finishIndicator : Envelope :=
  .synthesized 1 ⟨"pagination-indicator-end"⟩ (.paginationIndicator .finish)

/-- The first serial that is free for the entries of a collection. -/
def firstSerial : Nat := 2

/-- An indicator, if entries are being loaded and indicators are shown. -/
def indicator (config : Config) (status : PaginationStatus) (entry : Envelope) : List Envelope :=
  if config.showPaginationIndicators ∧ status = .paginating then [entry] else []

/-- Leave out the last entry if it is a read marker. -/
def dropTrailingReadMarker (entries : List Envelope) : List Envelope :=
  match entries.getLast? with
  | some last => if last.isReadMarker then entries.dropLast else entries
  | none => entries

/-- The envelopes shown of a collection, before grouping. -/
def arrange (config : Config) (pair : PaginationPair) (body : List Envelope) : List Envelope :=
  let opened := indicator config pair.backward startIndicator ++ body
  (if config.hideTrailingReadMarker then dropTrailingReadMarker opened else opened) ++
    indicator config pair.forward finishIndicator

/-- Give each envelope its position in a block. -/
def grouped (policy : GroupingPolicy) (envelopes : List Envelope) : List Entry :=
  envelopes.zipWith Entry.mk (classifyAll policy envelopes)

/-- The policy in force: pinned events are never grouped, other timelines follow the policy they
    were given, or else the ordinary one. -/
def Config.policy (config : Config) (custom : Option GroupingPolicy) : GroupingPolicy :=
  if config.kind.isPinned then .never else custom.getD (.ordinary config.groupingMaxGapMs)

/-- A rendering, the collapsed entries in use from now on, and the next free serial. -/
structure Rendering where
  entries : List Entry
  runs : Runs
  serial : Nat

/-- The entries of a collection, folded where this is configured. -/
def bodyOf (config : Config) (runs : Runs) (serial : Nat) (items : List Envelope) : Collapsed :=
  if config.collapseStateEvents then collapse runs serial items else ⟨items, runs, serial⟩

/-- Render a collection. -/
def render (config : Config) (policy : GroupingPolicy) (pair : PaginationPair) (runs : Runs)
    (serial : Nat) (items : List Envelope) : Rendering :=
  let body := bodyOf config runs serial items
  ⟨grouped policy (arrange config pair body.shown), body.runs, body.serial⟩

end RoomTimeline
