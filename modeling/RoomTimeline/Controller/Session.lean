import RoomTimeline.Controller.Settle

/-!
# Sessions

A session uses a controller from outside: it makes requests one at a time, lets everything run
until nothing can proceed, and then looks at what has happened. `State.perform` answers a request
with a report, which holds what a reader sees at that moment and all that was noticed since the
request before.
-/

namespace RoomTimeline.Controller

/-- How a session ends a fetch. -/
inductive Completion where
  | ended (ending : State.FetchEnd)
  | crashed

/-- What a session can ask for. -/
inductive Request where
  | call (call : Call)
  | send (batches : List Batch)
  | endBatches
  | status (live : LiveStatus)
  | endStatuses
  | release
  /-- End the oldest fetch of a direction. -/
  | complete (direction : Direction) (completion : Completion)
  | abandon (call : Nat)
  | takeUpdates
  | dropUpdates
  | listen
  | snapshot
  | position (id : EntryId)
  | info
  | drop

/-- What can be read off a controller at a moment. -/
structure Info where
  kind : TimelineKind
  snapshot : Snapshot

/-- The direct answer to a request. -/
inductive Reply where
  | done
  /-- The stream is closed or its reader is gone. -/
  | notListening
  /-- No fetch of the direction is running. -/
  | noFetch
  /-- No such call is running. -/
  | notRunning
  | alreadyTaken
  /-- The controller is gone. -/
  | dropped
  | text (text : String)
  | place (index : Option Nat)
  | info (info : Info)

/-- What has happened since the request before, and what can be seen now. -/
structure Report where
  reply : Reply
  /-- The last snapshot published. -/
  snapshot : Snapshot
  /-- The pagination status of this moment, while there is a controller. -/
  pagination : Option PaginationPair
  closed : Bool
  /-- The calls that returned, by number. -/
  returned : List (Nat × CallResult)
  /-- What was noticed, in order. -/
  effects : List Effect
  /-- What each listener heard. -/
  heard : List (List Heard)

namespace State

/-- Take steps as long as they are possible. -/
def steps (setup : Setup) (state : State) : List Action → Moved × Bool
  | [] => ((state, []), true)
  | action :: rest =>
    match step setup state action with
    | none => ((state, []), false)
    | some (next, effects) =>
      let further := steps setup next rest
      (further.1.after effects, further.2)

/-- Take one step, and answer with one reply if it was possible and with another if not. -/
def attempt (setup : Setup) (state : State) (action : Action) (granted refused : Reply) :
    Moved × Reply :=
  match step setup state action with
  | some moved => (moved, granted)
  | none => ((state, []), refused)

/-- The step that ends the oldest fetch of a direction. -/
def completion? (state : State) (direction : Direction) (completion : Completion) :
    Option Action :=
  (state.fetches.find? fun fetch => fetch.direction = direction).map fun fetch =>
    match completion with
    | .ended ending => .endFetch fetch.number ending
    | .crashed => .crashFetch fetch.number

/-- Make a request that needs the controller, or learn that it is gone. -/
def unlessDropped (state : State) (answer : Moved × Reply) : Moved × Reply :=
  if state.dropped then ((state, []), .dropped) else answer

/-- Make a request, before anything else runs. -/
def request (setup : Setup) (state : State) : Request → Moved × Reply
  | .call call => state.attempt setup (.start call) .done .dropped
  | .send batches =>
    let sent := state.steps setup (batches.map .sendBatch)
    (sent.1, if sent.2 then .done else .notListening)
  | .endBatches => state.attempt setup .endBatches .done .notListening
  | .status live => state.attempt setup (.sendStatus live) .done .notListening
  | .endStatuses => state.attempt setup .endStatuses .done .notListening
  | .release => state.attempt setup .release .done .notListening
  | .complete direction completion =>
    match state.completion? direction completion with
    | some action => state.attempt setup action .done .noFetch
    | none => ((state, []), .noFetch)
  | .abandon call => state.attempt setup (.abandon call) .done .notRunning
  | .takeUpdates =>
    state.attempt setup .takeUpdates
      (if state.receiver = .untaken then .done else .alreadyTaken) .dropped
  | .dropUpdates => state.attempt setup .dropUpdates .done .notListening
  | .listen => state.attempt setup .listen .done .dropped
  | .snapshot => state.unlessDropped ((state, []), .text state.snapshot.render)
  | .position id => state.unlessDropped ((state, []), .place (state.snapshot.position? id))
  | .info => state.unlessDropped ((state, []), .info ⟨setup.config.kind, state.snapshot⟩)
  | .drop => state.attempt setup .drop .done .dropped

/-- The calls that returned among some effects, by number. -/
def returnedCalls (effects : List Effect) : List (Nat × CallResult) :=
  (effects.filterMap fun
    | .returned call result => some (call, result)
    | _ => none).mergeSort fun first second => first.1 ≤ second.1

/-- Make a request, let everything run, and report. -/
def perform (setup : Setup) (state : State) (wish : Request) : State × Report :=
  let (requested, reply) := state.request setup wish
  let (settled, effects) := (settle setup requested.1).after requested.2
  let (heard, bridge) := settled.bridge.hearAll
  ({ settled with bridge }, {
    reply
    snapshot := settled.snapshot
    pagination := if settled.dropped then none else some settled.machine.pair
    closed := settled.dropped
    returned := returnedCalls effects
    effects
    heard })

/-- Make requests one after another. -/
def performAll (setup : Setup) : State → List Request → List Report
  | _, [] => []
  | state, wish :: rest =>
    let (next, report) := state.perform setup wish
    report :: performAll setup next rest

end State

end RoomTimeline.Controller
