import RoomTimeline.Batch
import RoomTimeline.Controller.Effect
import RoomTimeline.Render

/-!
# The state of a controller

A controller owns one timeline. Its worker takes batches and statuses from the source and is the
only one to change the collection; callers start calls and fetches run on their own beside it.
The state holds all of them, together with what the source has ready, so that every interleaving
is a sequence of steps from one state to the next.
-/

namespace RoomTimeline.Controller

/-- A stream from the source: what is ready in it, whether the source has closed it, and whether
    someone has taken it to read. -/
structure Feed (α : Type) where
  queue : List α := []
  ended : Bool := false
  taken : Bool := false

/-- The source as the controller sees it. -/
structure Source where
  batches : Feed Batch := {}
  statuses : Feed LiveStatus := {}
  /-- Whether the source offers a stream of pagination statuses at all. -/
  offersStatuses : Bool := true
  /-- Whether the source hands over its batches when it is asked for them. -/
  ready : Bool := true

/-- How far the worker has got. -/
inductive Phase where
  /-- Nobody has subscribed. -/
  | absent
  /-- The worker exists and has not asked for batches yet. -/
  | starting
  /-- The worker waits for the source to hand over its batches. -/
  | asking
  /-- The worker takes what comes. -/
  | running
  deriving DecidableEq

/-- The worker: its collection, the collapsed entries of the last rendering, the next free serial
    and the streams that it has seen end. -/
structure Worker where
  phase : Phase := .absent
  items : List Envelope := []
  runs : Runs := []
  serial : Nat := firstSerial
  batchesOver : Bool := false
  statusesOver : Bool := false

/-- A fetch that the source is working on. -/
structure Fetch where
  number : Nat
  direction : Direction
  size : UInt16
  deriving DecidableEq

/-- The fetch that callers of a direction share. A crashed one stays, and they share its end. -/
structure SharedFetch where
  fetch : Nat
  crashed : Bool
  deriving DecidableEq

/-- What a running call waits for. -/
inductive Wait where
  /-- That the first batch has been processed. -/
  | gate
  /-- That a fetch ends. -/
  | fetch (number : Nat)
  /-- Nothing: the call returns as soon as it is resumed. -/
  | done (result : CallResult)

/-- A call that has not returned. -/
structure RunningCall where
  number : Nat
  call : Call
  wait : Wait

/-- Who listens to fine-grained updates. -/
inductive UpdateReceiver where
  | untaken
  | connected
  | disconnected
  deriving DecidableEq

/-- What a controller is built with: the configuration, a grouping policy of one's own, and what
    is to be given each snapshot. The updater learns how many snapshots it has been given before
    and answers with a text if it failed. -/
structure Setup where
  config : Config
  customPolicy : Option GroupingPolicy := none
  updater : Option (Nat → Snapshot → Option String) := none

/-- The grouping policy in force. -/
def Setup.policy (setup : Setup) : GroupingPolicy := setup.config.policy setup.customPolicy

/-- The state of a controller and of all that runs beside it. -/
structure State where
  source : Source
  worker : Worker := {}
  machine : Machine
  /-- For each direction the fetch that further callers join. -/
  shared : Sides (Option SharedFetch) := ⟨none, none⟩
  /-- The fetches that the source has not finished, oldest first. -/
  fetches : List Fetch := []
  nextFetch : Nat := 0
  /-- The last snapshot published. -/
  snapshot : Snapshot
  /-- Whether the first batch has been processed, or cannot come any more. -/
  gateOpen : Bool := false
  /-- How many wishes to publish again the worker has not followed yet. -/
  republish : Nat := 0
  receiver : UpdateReceiver := .untaken
  bridge : Bridge
  /-- How many snapshots the updater has been given. -/
  stored : Nat := 0
  /-- The calls that have not returned, oldest first. -/
  calls : List RunningCall := []
  nextCall : Nat := 0
  /-- Whether the controller is gone. -/
  dropped : Bool := false

/-- A controller that nobody has used yet: nothing is shown, and each direction is where its
    kind lets it start. -/
def State.initial (setup : Setup) (source : Source) : State :=
  let machine := Machine.ofKind setup.config.kind
  { source, machine
    snapshot := ⟨[], machine.pair⟩
    bridge := .ofCapacity setup.config.bridgeCapacity.toNat }

end RoomTimeline.Controller
