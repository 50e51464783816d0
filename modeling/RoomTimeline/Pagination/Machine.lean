import RoomTimeline.Pagination.Kind

/-!
# Pagination status

Each direction is idle, paginating or at its end. How its status moves depends on its mode: a
fixed direction is at its end for good, a request-driven one follows the timeline's own
requests, and a push-driven one follows both these and what the source pushes. The modes follow
from the kind of the timeline and never change.
-/

namespace RoomTimeline

/-- The status of one direction. -/
inductive PaginationStatus where
  | idle
  | paginating
  | endReached
  deriving DecidableEq

/-- The name of a status. -/
def PaginationStatus.name : PaginationStatus → String
  | .idle => "idle"
  | .paginating => "paginating"
  | .endReached => "endReached"

/-- The status of both directions. -/
abbrev PaginationPair := Sides PaginationStatus

/-- A pair is written side by side. -/
def PaginationPair.toJson (pair : PaginationPair) : Json :=
  .object [("backward", .string pair.backward.name), ("forward", .string pair.forward.name)]

/-- What a source pushes about loading older entries. -/
inductive LiveStatus where
  | idle (atStart : Bool)
  | paginating
  deriving DecidableEq

/-- The status that a pushed one stands for. -/
def LiveStatus.status : LiveStatus → PaginationStatus
  | .idle true => .endReached
  | .idle false => .idle
  | .paginating => .paginating

/-- What moves the status of a direction. -/
inductive DirectionMode where
  /-- What the source pushes; requests are accepted too. -/
  | pushDriven
  /-- Own requests only. -/
  | requestDriven
  /-- Nothing: the direction is at its end. -/
  | fixed
  deriving DecidableEq

/-- The name of a mode. -/
def DirectionMode.name : DirectionMode → String
  | .pushDriven => "pushDriven"
  | .requestDriven => "requestDriven"
  | .fixed => "fixed"

/-- The answer to a wish to paginate. -/
inductive BeginOutcome where
  /-- The direction is paginating from now on, and a fetch is due. -/
  | started
  /-- The direction was paginating already. -/
  | inFlight
  /-- There is nothing left to load. -/
  | endReached
  deriving DecidableEq

/-- The name of an answer. -/
def BeginOutcome.name : BeginOutcome → String
  | .started => "started"
  | .inFlight => "inFlight"
  | .endReached => "endReached"

/-- Why a pagination failed. -/
inductive PaginationFault where
  /-- The source failed to fetch. -/
  | transport (direction : Direction) (reason : String)
  /-- The fetch came to no end. -/
  | aborted
  deriving DecidableEq

/-- The wording of a pagination fault. -/
def PaginationFault.message : PaginationFault → String
  | .transport direction reason => s!"failed paginating {direction.name}: {reason}"
  | .aborted => "the timeline was dropped while paginating"

/-- What a fetch came to: whether it hit the end of the timeline, or a fault. -/
abbrev FetchResult := Except PaginationFault Bool

/-- The mode and the status of one direction. -/
structure DirectionState where
  mode : DirectionMode
  status : PaginationStatus
  deriving DecidableEq

namespace DirectionState

/-- A direction starts idle, or at its end where it can do nothing. -/
def initial : DirectionMode → DirectionState
  | .fixed => ⟨.fixed, .endReached⟩
  | mode => ⟨mode, .idle⟩

/-- Move to a status, and say whether that changed anything. A fixed direction does not move. -/
def move (state : DirectionState) (status : PaginationStatus) : Bool × DirectionState :=
  if state.mode = .fixed ∨ state.status = status then (false, state)
  else (true, { state with status })

/-- Start paginating if idle. -/
def begin (state : DirectionState) : BeginOutcome × DirectionState :=
  match state.status with
  | .idle => (.started, { state with status := .paginating })
  | .paginating => (.inFlight, state)
  | .endReached => (.endReached, state)

/-- Where the end of a fetch leaves the direction. After a failure it is idle, so that the fetch
    can be tried again. -/
def finish (state : DirectionState) : FetchResult → Bool × DirectionState
  | .ok true => state.move .endReached
  | .ok false | .error _ => state.move .idle

/-- Follow a pushed status, in a direction that is driven by them. -/
def push (state : DirectionState) (live : LiveStatus) : Bool × DirectionState :=
  if state.mode = .pushDriven then state.move live.status else (false, state)

/-- After the source has started anew, an exhausted direction can load again. -/
def reset (state : DirectionState) : Bool × DirectionState :=
  if state.status = .endReached then state.move .idle else (false, state)

/-- Moving leaves the mode. -/
@[simp] theorem mode_move (state : DirectionState) (status : PaginationStatus) :
    (state.move status).2.mode = state.mode := by
  unfold move
  split <;> rfl

end DirectionState

/-- The state of both directions. -/
abbrev Machine := Sides DirectionState

namespace Machine

/-- The mode of loading older entries. -/
def backwardMode (capabilities : Capabilities) : DirectionMode :=
  if !capabilities.backwards then .fixed
  else if capabilities.live then .pushDriven
  else .requestDriven

/-- The mode of loading newer entries, which no source pushes. -/
def forwardMode (capabilities : Capabilities) : DirectionMode :=
  if capabilities.forwards then .requestDriven else .fixed

/-- Both directions of a new timeline. -/
def ofKind (kind : TimelineKind) : Machine :=
  ⟨.initial (backwardMode kind.capabilities), .initial (forwardMode kind.capabilities)⟩

/-- The status of both directions. -/
def pair (machine : Machine) : PaginationPair := machine.map DirectionState.status

/-- Start paginating in a direction if it is idle. -/
def begin (machine : Machine) (direction : Direction) : BeginOutcome × Machine :=
  let begun := (machine.get direction).begin
  (begun.1, machine.set direction begun.2)

/-- Record the end of a fetch, and say whether it changed the status. -/
def finish (machine : Machine) (direction : Direction) (result : FetchResult) : Bool × Machine :=
  let finished := (machine.get direction).finish result
  (finished.1, machine.set direction finished.2)

/-- Record a pushed status, and say whether it changed the status. -/
def push (machine : Machine) (live : LiveStatus) : Bool × Machine :=
  let pushed := machine.backward.push live
  (pushed.1, machine.set .backwards pushed.2)

/-- Record that the source has started anew, and say whether it changed the status. -/
def reset (machine : Machine) : Bool × Machine :=
  let backward := machine.backward.reset
  let forward := machine.forward.reset
  (backward.1 || forward.1, ⟨backward.2, forward.2⟩)

end Machine

/-- The number of entries to fetch when a caller wishes for some: at least one, and no more than
    a hundred. -/
def boundedSize (requested : UInt16) : UInt16 :=
  if requested < 1 then 1 else if 100 < requested then 100 else requested

end RoomTimeline
