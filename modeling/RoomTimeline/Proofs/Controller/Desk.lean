import RoomTimeline.Proofs.Controller.Deeds

/-!
# What a step does to calls and fetches

Calls and fetches meet at the desk of a controller: the calls that have not returned, the fetches
that the source works on, the fetch that callers of a direction share, and the pagination status. As
long as the controller is there and fetches do not crash, a step does one of eight things to the
desk (`step_turns`). A call starts that needs no fetch, joins one, issues one or declines to; a call
returns or is given up; a fetch ends; or the status drifts while calls and fetches stay as they are.
-/

namespace RoomTimeline.Controller

/-- Whether an action leaves the controller in place and brings no fetch to a crash. -/
def Action.orderly : Action → Bool
  | .drop | .crashFetch _ => false
  | _ => true

/-- Whether an action is about calls or fetches. -/
def Action.turnsDesk : Action → Bool
  | .start _ | .resume _ | .abandon _ | .endFetch _ _ | .drop | .crashFetch _ => true
  | _ => false

/-- Whether an action can issue a fetch or answer a call. -/
def Action.outspoken : Action → Bool
  | .start (.paginate _ _) | .resume _ => true
  | _ => false

/-- What is asked of the source: a direction and how many entries to fetch. -/
def Effect.issued? : Effect → Option (Direction × UInt16)
  | .fetched direction size => some (direction, size)
  | _ => none

/-- The call that returns, and how. -/
def Effect.answer? : Effect → Option (Nat × CallResult)
  | .returned call result => some (call, result)
  | _ => none

/-- The fetches issued, in order. -/
def issued (effects : List Effect) : List (Direction × UInt16) :=
  effects.filterMap Effect.issued?

/-- The calls that returned, in order. -/
def answers (effects : List Effect) : List (Nat × CallResult) := effects.filterMap Effect.answer?

@[simp] theorem issued_append (effects more : List Effect) :
    issued (effects ++ more) = issued effects ++ issued more :=
  List.filterMap_append

@[simp] theorem answers_append (effects more : List Effect) :
    answers (effects ++ more) = answers effects ++ answers more :=
  List.filterMap_append

/-- Calls, fetches and what both depend on. -/
structure Desk where
  machine : Machine
  shared : Sides (Option SharedFetch)
  fetches : List Fetch
  nextFetch : Nat
  calls : List RunningCall
  nextCall : Nat
  dropped : Bool

/-- The desk of a state. -/
def State.desk (state : State) : Desk :=
  ⟨state.machine, state.shared, state.fetches, state.nextFetch, state.calls, state.nextCall,
    state.dropped⟩

/-- The fetches of one direction that the source works on. -/
def inFlight (fetches : List Fetch) (direction : Direction) : List Fetch :=
  fetches.filter fun fetch => fetch.direction = direction

namespace Desk

/-- The desk with a new call. -/
def enter (desk : Desk) (call : Call) (wait : Wait) : Desk :=
  { desk with
    calls := desk.calls ++ [⟨desk.nextCall, call, wait⟩]
    nextCall := desk.nextCall + 1 }

/-- The desk without a call. -/
def leave (desk : Desk) (number : Nat) : Desk :=
  { desk with calls := desk.calls.filter fun call => call.number ≠ number }

/-- The desk with a new fetch in a direction, which is paginating from then on. -/
def issue (desk : Desk) (direction : Direction) (size : UInt16) : Desk :=
  { desk with
    machine := desk.machine.set direction
      { desk.machine.get direction with status := .paginating }
    shared := desk.shared.set direction (some ⟨desk.nextFetch, false⟩)
    fetches := desk.fetches ++ [⟨desk.nextFetch, direction, boundedSize size⟩]
    nextFetch := desk.nextFetch + 1 }

/-- What a call waits for after a fetch has ended. -/
def settled (number : Nat) (result : CallResult) (call : RunningCall) : RunningCall :=
  match call.wait with
  | .fetch awaited => if awaited = number then { call with wait := .done result } else call
  | _ => call

/-- The desk after a fetch has ended. -/
def conclude (desk : Desk) (fetch : Fetch) (result : FetchResult) : Desk :=
  { desk with
    machine := (desk.machine.finish fetch.direction result).2
    shared := desk.shared.set fetch.direction none
    fetches := desk.fetches.filter fun other => other.number ≠ fetch.number
    calls := desk.calls.map (settled fetch.number (result.map fun _ => ())) }

/-- What a call that joins a shared fetch waits for. A crashed one has nothing left to wait for. -/
def joined (request : SharedFetch) : Wait :=
  if request.crashed then .done (.error .aborted) else .fetch request.fetch

/-- What a step can do to the desk, the fetches that it issues and the calls that it answers. -/
inductive Turn (desk : Desk) : Action → Desk → List (Direction × UInt16) →
    List (Nat × CallResult) → Prop
  /-- The step is not about calls or fetches. -/
  | aside {action : Action} {machine : Machine} (other : action.turnsDesk = false)
      (drifts : desk.machine.Drifts machine) : Turn desk action { desk with machine } [] []
  /-- A call starts that has nothing to do with fetches. -/
  | waits {call : Call} (wait : Wait) (other : ∀ direction size, call ≠ .paginate direction size) :
      Turn desk (.start call) (desk.enter call wait) [] []
  | joins {direction : Direction} (size : UInt16) {request : SharedFetch}
      (found : desk.shared.get direction = some request) :
      Turn desk (.start (.paginate direction size))
        (desk.enter (.paginate direction size) (joined request)) [] []
  | issues {direction : Direction} (size : UInt16) (free : desk.shared.get direction = none)
      (idle : (desk.machine.get direction).status = .idle) :
      Turn desk (.start (.paginate direction size))
        ((desk.issue direction size).enter (.paginate direction size) (.fetch desk.nextFetch))
        [(direction, boundedSize size)] []
  /-- There is nothing to load, or the source is loading by itself. -/
  | declines {direction : Direction} (size : UInt16) (free : desk.shared.get direction = none)
      (busy : (desk.machine.get direction).status ≠ .idle) :
      Turn desk (.start (.paginate direction size))
        (desk.enter (.paginate direction size) (.done (.ok ()))) [] []
  | returns {call : RunningCall} {result : CallResult} (member : call ∈ desk.calls)
      (ready : call.wait = .done result ∨ call.wait = .gate ∧ result = .ok ()) :
      Turn desk (.resume call.number) (desk.leave call.number) [] [(call.number, result)]
  | abandons (number : Nat) : Turn desk (.abandon number) (desk.leave number) [] []
  | ends {fetch : Fetch} (member : fetch ∈ desk.fetches) (ending : State.FetchEnd) :
      Turn desk (.endFetch fetch.number ending)
        (desk.conclude fetch (ending.result fetch.direction)) [] []

end Desk

/-- An effect list issues no fetch and answers no call. -/
def State.Aloof (effects : List Effect) : Prop := issued effects = [] ∧ answers effects = []

/-- A step that is neither a request for more entries nor the return of a call issues no fetch and
answers no call. -/
theorem Deed.aloof {setup : Setup} {state next : State} {action : Action} {more : List Effect}
    (deed : Deed setup state action next more) (quiet : action.outspoken = false) :
    State.Aloof more := by
  have reports (silent : action.converses = false) : State.Aloof more :=
    ⟨deed.unseen silent (fun _ => rfl) (fun _ => rfl) (fun _ => rfl) (fun _ => rfl) (fun _ => rfl)
        rfl,
      deed.unseen silent (fun _ => rfl) (fun _ => rfl) (fun _ => rfl) (fun _ => rfl) (fun _ => rfl)
        rfl⟩
  cases deed with
  | issues | returns => cases quiet
  | subscribesDriven | subscribesInVain | subscribesUndriven | subscribesAgain | waits | joins
  | declines | hears | asks => exact ⟨rfl, rfl⟩
  | _ => exact reports rfl

namespace State

variable (state : State)

/-- A move from a state does one of the eight things to the desk that a step can do, and issues and
answers what belongs to it. -/
def Turns (action : Action) (moved : Moved) : Prop :=
  state.desk.Turn action moved.1.desk (issued moved.2) (answers moved.2)

variable {state : State}

/-- A move that moves the pagination status at most, and neither issues a fetch nor answers a call,
does nothing else to the desk. -/
theorem Turns.of_aside {action : Action} {moved : Moved} {machine : Machine}
    (other : action.turnsDesk = false) (drifts : state.machine.Drifts machine)
    (desk : moved.1.desk = { state.desk with machine }) (aloof : Aloof moved.2) :
    state.Turns action moved := by
  unfold Turns
  rw [desk, aloof.1, aloof.2]
  exact .aside other drifts

/-- A move that leaves the desk as it is, and neither issues a fetch nor answers a call, does
nothing to it. -/
theorem Turns.of_still {action : Action} {moved : Moved} (other : action.turnsDesk = false)
    (desk : moved.1.desk = state.desk) (aloof : Aloof moved.2) : state.Turns action moved :=
  .of_aside other (Machine.Drifts.refl _) desk aloof

variable (state)

/-- A call returns the result that it has been waiting for, or, if it has been waiting at the gate,
that all went well. -/
theorem wait_of_result {call : RunningCall} {result : CallResult}
    (ready : state.result? call = some result) :
    call.wait = .done result ∨ call.wait = .gate ∧ result = .ok () := by
  unfold result? at ready
  split at ready
  · rename_i gate
    split at ready
    · exact Or.inr ⟨gate, (Option.some.inj ready).symm⟩
    · cases ready
  · cases ready
  · rename_i done
    exact Or.inl (done.trans (congrArg Wait.done (Option.some.inj ready)))

end State

/-- Every step of a controller that is there does one of the eight things to the desk. -/
theorem step_turns {setup : Setup} {state next : State} {action : Action} {more : List Effect}
    (alive : state.dropped = false) (orderly : action.orderly = true)
    (taken : step setup state action = some (next, more)) : state.Turns action (next, more) := by
  have deed := step_deeds taken
  have aloof := deed.aloof
  cases deed with
  | subscribesDriven | subscribesInVain | subscribesUndriven | subscribesAgain =>
    exact .waits .gate (by simp)
  | waits => exact .waits _ (by simp)
  | joins size found => exact .joins size found
  | issues size free idle => exact .issues size free idle
  | declines size free busy => exact .declines size free busy
  | returns member ready => exact .returns member (state.wait_of_result ready)
  | abandons number known => exact .abandons number
  | endsFetch member alive ending =>
    obtain ⟨issuesNone, answersNone⟩ := aloof rfl
    unfold State.Turns
    rw [issuesNone, answersNone]
    exact .ends member ending
  | endsLate member gone ending =>
    rw [alive] at gone
    cases gone
  | goes | crashes => cases orderly
  | @commits batch rest outcome running queue applied =>
    have drifts : state.machine.Drifts
        (if outcome.didReset then state.machine.reset.2 else state.machine) := by
      split
      · exact state.machine.drifts_reset
      · exact Machine.Drifts.refl _
    exact State.Turns.of_aside rfl drifts rfl (aloof rfl)
  | @follows live rest running reads queue changed =>
    exact State.Turns.of_aside rfl (state.machine.drifts_push live) rfl (aloof rfl)
  | _ => exact State.Turns.of_still rfl rfl (aloof rfl)

end RoomTimeline.Controller
