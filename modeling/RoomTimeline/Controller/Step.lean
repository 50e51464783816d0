import RoomTimeline.Controller.State

/-!
# Steps of a controller

A step is one thing that happens without interruption: a caller starts a call, the source adds
to a stream, the worker takes one item, a fetch ends, a call returns. `step` gives the state
after it and its effects, or nothing where the step is not possible.

A batch that cannot be applied changes nothing but the gate. Whoever moves the pagination status
outside the worker leaves a wish to publish again, so that what is shown follows.
-/

namespace RoomTimeline.Controller

/-- A state and the effects that led to it. -/
abbrev Moved := State × List Effect

/-- The same state, reached by earlier effects too. -/
def Moved.after (moved : Moved) (effects : List Effect) : Moved := (moved.1, effects ++ moved.2)

namespace State

/-! ## Publishing -/

/-- Tell the holder of the update receiver, if there is one. -/
def tell (state : State) (updates : List Update) : List Effect :=
  if state.receiver = .connected then updates.map .updated else []

/-- Give a snapshot to the state updater, if there is one. Its failure is logged and nothing
    more. -/
def store (setup : Setup) (state : State) (snapshot : Snapshot) : Moved :=
  match setup.updater with
  | none => (state, [])
  | some updater =>
    ({ state with stored := state.stored + 1 },
      .stored snapshot ::
        match updater state.stored snapshot with
        | some reason => [.noted (.updaterFailed reason)]
        | none => [])

/-- Render the collection under the pagination status of this moment, and publish it: first the
    snapshot, then the updates that lead to it, then the state updater. -/
def publish (setup : Setup) (state : State) : Moved :=
  let pair := state.machine.pair
  let rendering := render setup.config setup.policy pair state.worker.runs state.worker.serial
    state.worker.items
  let snapshot : Snapshot := ⟨rendering.entries, pair⟩
  let worker := { state.worker with runs := rendering.runs, serial := rendering.serial }
  (store setup { state with worker, snapshot } snapshot).after
    (.published snapshot :: state.tell (state.snapshot.updates snapshot))

/-! ## The worker -/

/-- Hand events to the bridge. -/
def emit (state : State) (events : List TimelineEvent) : Moved :=
  ({ state with bridge := state.bridge.emitAll events }, events.map .emitted)

/-- Take over what a batch has come to: the collection, and after a reset the directions that can
    load again. The batch's events follow the snapshot that shows it. -/
def commit (setup : Setup) (state : State) (outcome : Outcome) : Moved :=
  let worker := { state.worker with items := outcome.items, serial := outcome.serial }
  let machine := if outcome.didReset then state.machine.reset.2 else state.machine
  let shown := publish setup { state with worker, machine }
  (shown.1.emit (outcome.memberships.map .membershipChanged)).after shown.2

/-- Apply a batch to the collection, or drop it as a whole. -/
def commitOrDrop (setup : Setup) (state : State) (batch : Batch) : Moved :=
  match applyBatch state.worker.serial state.worker.items batch with
  | .ok outcome => commit setup state outcome
  | .error fault => (state, [.noted (.batchDropped fault)])

/-- The line that a batch leaves in the log where this is configured. -/
def received (setup : Setup) (batch : Batch) : List Effect :=
  if setup.config.logDiffs then [.noted (.batchReceived batch.describe)] else []

/-- Open the gate. This may be done once only. -/
def openGate (state : State) : Moved :=
  ({ state with gateOpen := true },
    .gateOpened ::
      if state.gateOpen then [.assertionFailed "initial items gate opened twice"] else [])

/-- Open the gate if it is still closed. -/
def ensureOpen (state : State) : Moved :=
  if state.gateOpen then (state, []) else state.openGate

/-- A state whose gate is open if it was closed before differs in the gate at most. -/
theorem ensureOpen_fst (state : State) : state.ensureOpen.1 = { state with gateOpen := true } := by
  unfold ensureOpen
  split
  case isTrue opened => rw [← opened]
  case isFalse => rfl

/-- Process a batch. Whatever becomes of it, those who wait for the first batch can go on. -/
def process (setup : Setup) (state : State) (batch : Batch) : Moved :=
  let moved := commitOrDrop setup state batch
  (ensureOpen moved.1).after (received setup batch ++ moved.2)

/-- Ask the source for its batches. -/
def ask (state : State) : Option Moved :=
  if state.worker.phase = .starting then
    some ({ state with worker := { state.worker with phase := .asking } }, [.askedBatches])
  else none

/-- The source hands over its batches, and the worker runs. -/
def handOver (state : State) : Option Moved :=
  if state.worker.phase = .asking ∧ state.source.ready then
    let batches := { state.source.batches with taken := true }
    some ({ state with
      source := { state.source with batches }
      worker := { state.worker with phase := .running } }, [])
  else none

/-- The worker takes the next batch. -/
def takeBatch (setup : Setup) (state : State) : Option Moved :=
  if state.worker.phase = .running then
    match state.source.batches.queue with
    | batch :: rest =>
      let batches := { state.source.batches with queue := rest }
      some (process setup { state with source := { state.source with batches } } batch)
    | [] => none
  else none

/-- The worker sees that no batch will come any more. Nobody need wait for one from then on. -/
def seeBatchesEnd (state : State) : Option Moved :=
  if state.worker.phase = .running ∧ state.source.batches.queue.isEmpty ∧
      state.source.batches.ended ∧ ¬ state.worker.batchesOver then
    some (ensureOpen { state with worker := { state.worker with batchesOver := true } })
  else none

/-- Follow a status that the source pushed; what is shown follows if it changed anything. -/
def follow (setup : Setup) (state : State) (live : LiveStatus) : Moved :=
  let pushed := state.machine.push live
  if pushed.1 then publish setup { state with machine := pushed.2 }
  else ({ state with machine := pushed.2 }, [])

/-- The worker takes the next pushed status, if it has taken that stream. -/
def takeStatus (setup : Setup) (state : State) : Option Moved :=
  if state.worker.phase = .running ∧ state.source.statuses.taken then
    match state.source.statuses.queue with
    | live :: rest =>
      let statuses := { state.source.statuses with queue := rest }
      some (follow setup { state with source := { state.source with statuses } } live)
    | [] => none
  else none

/-- The worker sees that no status will be pushed any more. -/
def seeStatusesEnd (state : State) : Option Moved :=
  if state.worker.phase = .running ∧ state.source.statuses.taken ∧
      state.source.statuses.queue.isEmpty ∧ state.source.statuses.ended ∧
      ¬ state.worker.statusesOver then
    some ({ state with worker := { state.worker with statusesOver := true } }, [])
  else none

/-- The worker follows one wish to publish again. -/
def takeRepublish (setup : Setup) (state : State) : Option Moved :=
  if state.worker.phase = .running ∧ 0 < state.republish then
    some (publish setup { state with republish := state.republish - 1 })
  else none

/-! ## Calls -/

/-- Enter a new call with what it waits for. -/
def enter (state : State) (call : Call) (wait : Wait) : State :=
  { state with
    calls := state.calls ++ [⟨state.nextCall, call, wait⟩]
    nextCall := state.nextCall + 1 }

/-- Start the worker. The stream of statuses is asked for only where older entries are driven by
    it, and taken if the source has one. -/
def startWorker (state : State) : Moved :=
  let worker := { state.worker with phase := .starting }
  if state.machine.backward.mode = .pushDriven then
    if state.source.offersStatuses then
      let statuses := { state.source.statuses with taken := true }
      ({ state with worker, source := { state.source with statuses } }, [.askedStatuses])
    else ({ state with worker }, [.askedStatusesInVain])
  else ({ state with worker }, [])

/-- Subscribe. Only the first call starts a worker; all wait for the first batch. -/
def subscribe (setup : Setup) (state : State) : Moved :=
  let moved : Moved :=
    if state.worker.phase = .absent then startWorker state
    else (state, [.noted (.alreadySubscribed setup.config.kind)])
  (moved.1.enter .subscribe .gate, moved.2)

/-- Wait for the first items. Where something is shown already there is nothing to wait for. -/
def waitForItems (state : State) : Moved :=
  let wait : Wait := if state.snapshot.entries.isEmpty then .gate else .done (.ok ())
  (state.enter .waitForItems wait, [])

/-- Issue a fetch, which callers of the same direction join from now on. -/
def startFetch (state : State) (direction : Direction) (size : UInt16) : Moved :=
  let fetch : Fetch := ⟨state.nextFetch, direction, boundedSize size⟩
  ({ state with
    shared := state.shared.set direction (some ⟨fetch.number, false⟩)
    fetches := state.fetches ++ [fetch]
    nextFetch := state.nextFetch + 1
    republish := state.republish + 1 }, [.fetched direction fetch.size])

/-- Paginate. A call joins the fetch of its direction if there is one, issues one if the
    direction is idle, and otherwise has nothing to do. -/
def paginate (state : State) (direction : Direction) (size : UInt16) : Moved :=
  let call := Call.paginate direction size
  match state.shared.get direction with
  | some request =>
    let wait : Wait :=
      if request.crashed then .done (.error .aborted) else .fetch request.fetch
    (state.enter call wait, [])
  | none =>
    match state.machine.begin direction with
    | (.started, machine) =>
      let moved := startFetch { state with machine } direction size
      (moved.1.enter call (.fetch state.nextFetch), moved.2)
    | (.inFlight, _) | (.endReached, _) => (state.enter call (.done (.ok ())), [])

/-- A caller starts a call. -/
def start (setup : Setup) (state : State) : Call → Moved
  | .subscribe => subscribe setup state
  | .waitForItems => waitForItems state
  | .paginate direction size => paginate state direction size

/-- How a call would return if it were resumed now. -/
def result? (state : State) (call : RunningCall) : Option CallResult :=
  match call.wait with
  | .gate => if state.gateOpen then some (.ok ()) else none
  | .fetch _ => none
  | .done result => some result

/-- The state without a call. -/
def leave (state : State) (number : Nat) : State :=
  { state with calls := state.calls.filter fun call => call.number ≠ number }

/-- A call that can return does so. -/
def resume (state : State) (number : Nat) : Option Moved :=
  (state.calls.findSome? fun call =>
    if call.number = number then state.result? call else none).map fun result =>
      (state.leave number, [.returned number result])

/-- A caller gives up a call; what the call has started goes on. -/
def abandon (state : State) (number : Nat) : Option Moved :=
  if state.calls.any fun call => call.number = number then some (state.leave number, []) else none

/-! ## Fetches -/

/-- Those who wait for a fetch learn how it ended. -/
def settleCalls (state : State) (number : Nat) (result : CallResult) : State :=
  { state with
    calls := state.calls.map fun call =>
      match call.wait with
      | .fetch awaited => if awaited = number then { call with wait := .done result } else call
      | _ => call }

/-- The state without a fetch. -/
def forget (state : State) (number : Nat) : State :=
  { state with fetches := state.fetches.filter fun fetch => fetch.number ≠ number }

/-- Take over how a fetch ended: further callers start anew, the status moves on, and a failure
    is told to the holder of the update receiver. -/
def conclude (state : State) (fetch : Fetch) (result : FetchResult) : Moved :=
  let finished := state.machine.finish fetch.direction result
  let failure : List Update :=
    match result with
    | .ok _ => []
    | .error fault => [.paginationFailed fault fetch.direction]
  let concluded := { state with
    machine := finished.2
    shared := state.shared.set fetch.direction none
    republish := if finished.1 then state.republish + 1 else state.republish }
  (concluded.settleCalls fetch.number (result.map fun _ => ()), state.tell failure)

/-- How the source can end a fetch. -/
inductive FetchEnd where
  | loaded (hitEnd : Bool)
  | failed (reason : String)
  deriving DecidableEq

/-- What the end of a fetch means in a direction. -/
def FetchEnd.result (direction : Direction) : FetchEnd → FetchResult
  | .loaded hitEnd => .ok hitEnd
  | .failed reason => .error (.transport direction reason)

/-- The fetch with a number, if the source is working on it. -/
def fetch? (state : State) (number : Nat) : Option Fetch :=
  state.fetches.find? fun fetch => fetch.number = number

/-- The line that the end of a fetch leaves in the log: none unless it failed. -/
def logged : FetchResult → List Effect
  | .ok _ => []
  | .error fault => [.noted (.paginationFailed fault)]

/-- A fetch ends. A failure is logged even when the controller is gone; all else then comes too
    late and is discarded. -/
def endFetch (state : State) (number : Nat) (ending : FetchEnd) : Option Moved :=
  (state.fetch? number).map fun fetch =>
    let result := ending.result fetch.direction
    let moved : Moved :=
      if state.dropped then (state.forget number, [])
      else conclude (state.forget number) fetch result
    moved.after (logged result)

/-- A fetch crashes. Those who wait for it fail, and so do all who join it later; the status
    stays where it is. -/
def crashFetch (state : State) (number : Nat) : Option Moved :=
  (state.fetch? number).map fun fetch =>
    let shared := state.shared.set fetch.direction (some ⟨number, true⟩)
    ((({ state with shared }.forget number).settleCalls number (.error .aborted)), [])

/-! ## The source -/

/-- Whether something added to a stream can still arrive: the source has not closed it, and its
    reader is not gone. A stream that nobody has taken accepts whatever comes. -/
def accepts {α : Type} (state : State) (feed : Feed α) : Bool :=
  !feed.ended && !(feed.taken && state.dropped)

/-- The source adds a batch. -/
def sendBatch (state : State) (batch : Batch) : Option Moved :=
  if state.accepts state.source.batches then
    let batches := { state.source.batches with queue := state.source.batches.queue ++ [batch] }
    some ({ state with source := { state.source with batches } }, [])
  else none

/-- The source adds a status. -/
def sendStatus (state : State) (live : LiveStatus) : Option Moved :=
  if state.accepts state.source.statuses then
    let statuses := { state.source.statuses with queue := state.source.statuses.queue ++ [live] }
    some ({ state with source := { state.source with statuses } }, [])
  else none

/-- The source closes its stream of batches. -/
def endBatches (state : State) : State :=
  { state with
    source := { state.source with batches := { state.source.batches with ended := true } } }

/-- The source closes its stream of statuses. -/
def endStatuses (state : State) : State :=
  { state with
    source := { state.source with statuses := { state.source.statuses with ended := true } } }

/-- From now on the source hands over its batches when asked. -/
def release (state : State) : State :=
  { state with source := { state.source with ready := true } }

/-! ## Watchers and the end -/

/-- Take the update receiver, which is there only once. -/
def takeUpdates (state : State) : Moved :=
  if state.receiver = .untaken then ({ state with receiver := .connected }, [])
  else (state, [.noted .updatesAlreadyTaken])

/-- The holder of the update receiver lets go of it. -/
def dropUpdates (state : State) : State :=
  if state.receiver = .connected then { state with receiver := .disconnected } else state

/-- A new listener hears events from now on. -/
def listen (state : State) : State := { state with bridge := state.bridge.listen }

/-- A listener hears what the bridge holds for it. -/
def hear (state : State) (listener : Nat) : Moved :=
  let heard := state.bridge.hear listener
  ({ state with bridge := heard.2 }, [.heard listener heard.1])

/-- The controller goes. Its worker stops and its calls are given up; fetches run on. -/
def drop (state : State) : State :=
  { state with calls := [], dropped := true }

end State

/-- What can happen. -/
inductive Action where
  /-- A caller starts a call. -/
  | start (call : Call)
  /-- A call returns. -/
  | resume (call : Nat)
  /-- A caller gives up a call. -/
  | abandon (call : Nat)
  | takeUpdates
  | dropUpdates
  | listen
  | hear (listener : Nat)
  | drop
  /-- The source adds to a stream, or closes it. -/
  | sendBatch (batch : Batch)
  | endBatches
  | sendStatus (live : LiveStatus)
  | endStatuses
  | release
  /-- A fetch ends or crashes. -/
  | endFetch (fetch : Nat) (ending : State.FetchEnd)
  | crashFetch (fetch : Nat)
  /-- The worker does one thing. -/
  | ask
  | handOver
  | takeBatch
  | seeBatchesEnd
  | takeStatus
  | seeStatusesEnd
  | takeRepublish

/-- Whether an action needs the controller. Without it only the source, the fetches and those who
    already hold something act. -/
def Action.needsController : Action → Bool
  | .dropUpdates | .hear _ | .sendBatch _ | .endBatches | .sendStatus _ | .endStatuses | .release
  | .endFetch _ _ | .crashFetch _ => false
  | _ => true

/-- One step, if it is possible. -/
def step (setup : Setup) (state : State) (action : Action) : Option Moved :=
  if state.dropped ∧ action.needsController then none
  else
    match action with
    | .start call => some (state.start setup call)
    | .resume number => state.resume number
    | .abandon number => state.abandon number
    | .takeUpdates => some state.takeUpdates
    | .dropUpdates => some (state.dropUpdates, [])
    | .listen => some (state.listen, [])
    | .hear listener => some (state.hear listener)
    | .drop => some (state.drop, [])
    | .sendBatch batch => state.sendBatch batch
    | .endBatches => some (state.endBatches, [])
    | .sendStatus live => state.sendStatus live
    | .endStatuses => some (state.endStatuses, [])
    | .release => some (state.release, [])
    | .endFetch number ending => state.endFetch number ending
    | .crashFetch number => state.crashFetch number
    | .ask => state.ask
    | .handOver => state.handOver
    | .takeBatch => state.takeBatch setup
    | .seeBatchesEnd => state.seeBatchesEnd
    | .takeStatus => state.takeStatus setup
    | .seeStatusesEnd => state.seeStatusesEnd
    | .takeRepublish => state.takeRepublish setup

end RoomTimeline.Controller
