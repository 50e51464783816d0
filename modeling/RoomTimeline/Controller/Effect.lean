import RoomTimeline.Batch.Fault
import RoomTimeline.Bridge
import RoomTimeline.Snapshot

/-!
# What a controller does to the outside

Everything that a step of the controller lets anyone notice is an effect: what it asks of the
source, what it publishes, what it tells those who watch, what it logs, and how calls return.
Effects of a step are listed in the order in which they happen.
-/

namespace RoomTimeline.Controller

/-- What a caller asks of the controller. -/
inductive Call where
  /-- Start listening to the source, and wait for the first batch. -/
  | subscribe
  /-- Wait until the source's first batch is reflected. -/
  | waitForItems
  /-- Load more entries in a direction. -/
  | paginate (direction : Direction) (size : UInt16)
  deriving DecidableEq

/-- How a call returns. -/
abbrev CallResult := Except PaginationFault Unit

/-- How much a notice matters. -/
inductive Level where
  | debug
  | warn
  | error
  deriving DecidableEq

/-- The name of a level. -/
def Level.name : Level → String
  | .debug => "debug"
  | .warn => "warn"
  | .error => "error"

/-- What the controller logs. -/
inductive Notice where
  | batchReceived (description : String)
  | batchDropped (fault : BatchFault)
  | alreadySubscribed (kind : TimelineKind)
  | updatesAlreadyTaken
  | updaterFailed (reason : String)
  | paginationFailed (fault : PaginationFault)
  deriving DecidableEq

namespace Notice

/-- A dropped batch is an error of the source; what was received is for debugging; all else is a
    warning. -/
def level : Notice → Level
  | .batchReceived _ => .debug
  | .batchDropped _ => .error
  | .alreadySubscribed _ | .updatesAlreadyTaken | .updaterFailed _ | .paginationFailed _ => .warn

/-- The wording of a notice. -/
def message : Notice → String
  | .batchReceived description => s!"Received timeline diffs: {description}"
  | .batchDropped fault => s!"Dropping malformed timeline diff batch: {fault.message}"
  | .alreadySubscribed kind => s!"Timeline {kind.display} is already subscribed"
  | .updatesAlreadyTaken => "Timeline update receiver was already taken"
  | .updaterFailed reason => s!"Failed to update the timeline state: {reason}"
  | .paginationFailed fault => fault.message

end Notice

/-- What a step lets others notice. -/
inductive Effect where
  /-- The source is asked for its stream of pagination statuses, and hands it over. -/
  | askedStatuses
  /-- The source is asked for its stream of pagination statuses, and has none. -/
  | askedStatusesInVain
  /-- The source is asked for its stream of batches. -/
  | askedBatches
  /-- The source is asked to fetch entries. -/
  | fetched (direction : Direction) (size : UInt16)
  /-- A snapshot is there for readers. -/
  | published (snapshot : Snapshot)
  /-- The holder of the update receiver is told of a difference. -/
  | updated (update : Update)
  /-- The state updater is given a snapshot. -/
  | stored (snapshot : Snapshot)
  /-- An event is handed to the bridge. -/
  | emitted (event : TimelineEvent)
  /-- The gate is opened for those who wait for the first batch. -/
  | gateOpened
  /-- An assertion of the controller fails, and says what is not as it is relied on to be. -/
  | assertionFailed (message : String)
  /-- A listener hears what the bridge holds for it. -/
  | heard (listener : Nat) (news : List Heard)
  /-- Something is logged. -/
  | noted (notice : Notice)
  /-- A call returns. -/
  | returned (call : Nat) (result : CallResult)

end RoomTimeline.Controller
