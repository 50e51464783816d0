import RoomTimeline.Proofs.Controller.Parts
import RoomTimeline.Proofs.Pagination

/-!
# All that a step can do

`Deed` lists what a step can do, each time with what must hold for it, the state after it and its
effects. A step does one of these things (`step_deeds`), and none that needs the controller once the
controller is gone (`alive_of_step`); otherwise each of them can be done (`Deed.taken`). Whoever
asks what steps keep of one part of a state goes through the list and need not know how the moves
are written.
-/

namespace RoomTimeline.Controller

/-- Once the controller is gone nothing happens that needs it. -/
theorem alive_of_step {setup : Setup} {state : State} {action : Action} {moved : Moved}
    (taken : step setup state action = some moved) (needed : action.needsController = true) :
    state.dropped = false := by
  unfold step at taken
  split at taken
  case isTrue => cases taken
  case isFalse possible => simpa [needed] using possible

namespace State

variable (setup : Setup) (state : State)

/-- The state after a batch that can be applied has been published and its events emitted. -/
def committed (outcome : Outcome) : State :=
  { (state.grown outcome).shown setup with
    bridge := state.bridge.emitAll (outcome.memberships.map .membershipChanged)
    gateOpen := true }

/-- The state with a fetch for a direction, which is paginating from then on. -/
def fetching (direction : Direction) (size : UInt16) : State :=
  { state with
    machine := state.machine.set direction
      { state.machine.get direction with status := .paginating }
    shared := state.shared.set direction (some ⟨state.nextFetch, false⟩)
    fetches := state.fetches ++ [⟨state.nextFetch, direction, boundedSize size⟩]
    nextFetch := state.nextFetch + 1
    republish := state.republish + 1 }

/-- The state after a fetch has crashed. -/
def crashed (fetch : Fetch) : State :=
  (forget { state with shared := state.shared.set fetch.direction (some ⟨fetch.number, true⟩) }
    fetch.number).settleCalls fetch.number (.error .aborted)

end State

open State in
/-- What a step can do in a state: the action, the state after it, and its effects. -/
inductive Deed (setup : Setup) (state : State) : Action → State → List Effect → Prop
  /-- The first to subscribe starts the worker, which reads statuses where they drive older
  entries. -/
  | subscribesDriven (absent : state.worker.phase = .absent)
      (driven : state.machine.backward.mode = .pushDriven)
      (offered : state.source.offersStatuses = true) :
      Deed setup state (.start .subscribe)
        (enter { state with worker.phase := .starting, source.statuses.taken := true } .subscribe
          .gate) [.askedStatuses]
  /-- The first to subscribe starts the worker where statuses drive older entries and the source has
  none. -/
  | subscribesInVain (absent : state.worker.phase = .absent)
      (driven : state.machine.backward.mode = .pushDriven)
      (missing : state.source.offersStatuses = false) :
      Deed setup state (.start .subscribe)
        (enter { state with worker.phase := .starting } .subscribe .gate) [.askedStatusesInVain]
  | subscribesUndriven (absent : state.worker.phase = .absent)
      (undriven : state.machine.backward.mode ≠ .pushDriven) :
      Deed setup state (.start .subscribe)
        (enter { state with worker.phase := .starting } .subscribe .gate) []
  | subscribesAgain (there : state.worker.phase ≠ .absent) :
      Deed setup state (.start .subscribe) (enter state .subscribe .gate)
        [.noted (.alreadySubscribed setup.config.kind)]
  | waits :
      Deed setup state (.start .waitForItems)
        (enter state .waitForItems
          (if state.snapshot.entries.isEmpty then .gate else .done (.ok ()))) []
  | joins {direction : Direction} (size : UInt16) {request : SharedFetch}
      (found : state.shared.get direction = some request) :
      Deed setup state (.start (.paginate direction size))
        (enter state (.paginate direction size)
          (if request.crashed then .done (.error .aborted) else .fetch request.fetch)) []
  | issues {direction : Direction} (size : UInt16) (free : state.shared.get direction = none)
      (idle : (state.machine.get direction).status = .idle) :
      Deed setup state (.start (.paginate direction size))
        (enter (state.fetching direction size) (.paginate direction size) (.fetch state.nextFetch))
        [.fetched direction (boundedSize size)]
  | declines {direction : Direction} (size : UInt16) (free : state.shared.get direction = none)
      (busy : (state.machine.get direction).status ≠ .idle) :
      Deed setup state (.start (.paginate direction size))
        (enter state (.paginate direction size) (.done (.ok ()))) []
  | returns {call : RunningCall} {result : CallResult} (member : call ∈ state.calls)
      (ready : state.result? call = some result) :
      Deed setup state (.resume call.number) (state.leave call.number)
        [.returned call.number result]
  | abandons (number : Nat) (known : ∃ call ∈ state.calls, call.number = number) :
      Deed setup state (.abandon number) (state.leave number) []
  | takesUpdates (untaken : state.receiver = .untaken) :
      Deed setup state .takeUpdates { state with receiver := .connected } []
  | findsUpdatesTaken (taken : state.receiver ≠ .untaken) :
      Deed setup state .takeUpdates state [.noted .updatesAlreadyTaken]
  | dropsUpdates (connected : state.receiver = .connected) :
      Deed setup state .dropUpdates { state with receiver := .disconnected } []
  | findsUpdatesDropped (unconnected : state.receiver ≠ .connected) :
      Deed setup state .dropUpdates state []
  | listens : Deed setup state .listen { state with bridge := state.bridge.listen } []
  | hears (listener : Nat) :
      Deed setup state (.hear listener) { state with bridge := (state.bridge.hear listener).2 }
        [.heard listener (state.bridge.hear listener).1]
  | goes : Deed setup state .drop { state with calls := [], dropped := true } []
  | sendsBatch (batch : Batch) (accepts : state.accepts state.source.batches = true) :
      Deed setup state (.sendBatch batch)
        { state with source.batches.queue := state.source.batches.queue ++ [batch] } []
  | endsBatches : Deed setup state .endBatches { state with source.batches.ended := true } []
  | sendsStatus (live : LiveStatus) (accepts : state.accepts state.source.statuses = true) :
      Deed setup state (.sendStatus live)
        { state with source.statuses.queue := state.source.statuses.queue ++ [live] } []
  | endsStatuses : Deed setup state .endStatuses { state with source.statuses.ended := true } []
  | releases : Deed setup state .release { state with source.ready := true } []
  | endsFetch {fetch : Fetch} (member : fetch ∈ state.fetches) (alive : state.dropped = false)
      (ending : FetchEnd) :
      Deed setup state (.endFetch fetch.number ending)
        (conclude (state.forget fetch.number) fetch (ending.result fetch.direction)).1
        (logged (ending.result fetch.direction) ++
          (conclude (state.forget fetch.number) fetch (ending.result fetch.direction)).2)
  /-- Once the controller is gone a fetch ends too late. -/
  | endsLate {fetch : Fetch} (member : fetch ∈ state.fetches) (gone : state.dropped = true)
      (ending : FetchEnd) :
      Deed setup state (.endFetch fetch.number ending) (state.forget fetch.number)
        (logged (ending.result fetch.direction))
  | crashes {fetch : Fetch} (member : fetch ∈ state.fetches) :
      Deed setup state (.crashFetch fetch.number) (state.crashed fetch) []
  | asks (starting : state.worker.phase = .starting) :
      Deed setup state .ask { state with worker.phase := .asking } [.askedBatches]
  | handsOver (asking : state.worker.phase = .asking) (ready : state.source.ready = true) :
      Deed setup state .handOver
        { state with source.batches.taken := true, worker.phase := .running } []
  | commits {batch : Batch} {rest : List Batch} {outcome : Outcome}
      (running : state.worker.phase = .running)
      (queue : state.source.batches.queue = batch :: rest)
      (taken : applyBatch state.worker.serial state.worker.items batch = .ok outcome) :
      Deed setup state .takeBatch
        (committed setup { state with source.batches.queue := rest } outcome)
        (received setup batch ++
          ((publish setup (grown { state with source.batches.queue := rest } outcome)).2 ++
            (outcome.memberships.map TimelineEvent.membershipChanged).map .emitted) ++
          firstOpening state.gateOpen)
  | refuses {batch : Batch} {rest : List Batch} {fault : BatchFault}
      (running : state.worker.phase = .running)
      (queue : state.source.batches.queue = batch :: rest)
      (refused : applyBatch state.worker.serial state.worker.items batch = .error fault) :
      Deed setup state .takeBatch
        { state with source.batches.queue := rest, gateOpen := true }
        (received setup batch ++ [.noted (.batchDropped fault)] ++ firstOpening state.gateOpen)
  | seesBatchesEnd (running : state.worker.phase = .running)
      (drained : state.source.batches.queue = []) (ended : state.source.batches.ended = true)
      (unseen : state.worker.batchesOver = false) :
      Deed setup state .seeBatchesEnd
        { state with worker.batchesOver := true, gateOpen := true } (firstOpening state.gateOpen)
  /-- A pushed status changes something, and is shown. -/
  | follows {live : LiveStatus} {rest : List LiveStatus} (running : state.worker.phase = .running)
      (reads : state.source.statuses.taken = true)
      (queue : state.source.statuses.queue = live :: rest)
      (changed : (state.machine.push live).1 = true) :
      Deed setup state .takeStatus
        (shown setup
          { state with source.statuses.queue := rest, machine := (state.machine.push live).2 })
        (publish setup
          { state with source.statuses.queue := rest, machine := (state.machine.push live).2 }).2
  | ignores {live : LiveStatus} {rest : List LiveStatus} (running : state.worker.phase = .running)
      (reads : state.source.statuses.taken = true)
      (queue : state.source.statuses.queue = live :: rest)
      (unchanged : (state.machine.push live).1 = false) :
      Deed setup state .takeStatus { state with source.statuses.queue := rest } []
  | seesStatusesEnd (running : state.worker.phase = .running)
      (reads : state.source.statuses.taken = true) (drained : state.source.statuses.queue = [])
      (ended : state.source.statuses.ended = true) (unseen : state.worker.statusesOver = false) :
      Deed setup state .seeStatusesEnd { state with worker.statusesOver := true } []
  | republishes (running : state.worker.phase = .running) (wished : 0 < state.republish) :
      Deed setup state .takeRepublish
        (shown setup { state with republish := state.republish - 1 })
        (publish setup { state with republish := state.republish - 1 }).2

namespace State

variable {setup : Setup} {state : State} {moved : Moved}

/-- A move is one of the things that a step can do in a state. -/
def Does (setup : Setup) (state : State) (action : Action) (moved : Moved) : Prop :=
  Deed setup state action moved.1 moved.2

/-- A request for more entries joins a fetch, issues one or is declined. -/
theorem does_paginate (setup : Setup) (state : State) (direction : Direction) (size : UInt16) :
    Does setup state (.start (.paginate direction size)) (paginate state direction size) := by
  unfold paginate
  dsimp only
  cases found : state.shared.get direction with
  | some request => exact Deed.joins size found
  | none =>
    cases status : (state.machine.get direction).status with
    | idle =>
      rw [Machine.begin_of_idle status]
      exact Deed.issues size found status
    | paginating =>
      rw [Machine.begin_of_paginating status]
      exact Deed.declines size found (by simp [status])
    | endReached =>
      rw [Machine.begin_of_endReached status]
      exact Deed.declines size found (by simp [status])

/-- Starting a call is one of the things that a step can do. -/
theorem does_start (setup : Setup) (state : State) (call : Call) :
    Does setup state (.start call) (start setup state call) := by
  cases call with
  | subscribe =>
    unfold start subscribe startWorker
    dsimp only
    split
    case isTrue absent =>
      split
      case isTrue driven =>
        split
        case isTrue offered => exact Deed.subscribesDriven absent driven offered
        case isFalse missing =>
          exact Deed.subscribesInVain absent driven (Bool.eq_false_iff.mpr missing)
      case isFalse undriven => exact Deed.subscribesUndriven absent undriven
    case isFalse there => exact Deed.subscribesAgain there
  | waitForItems => exact Deed.waits
  | paginate direction size => exact does_paginate setup state direction size

/-- The end of a fetch, in time or too late, is one of the things that a step can do. -/
theorem does_endFetch {number : Nat} {ending : FetchEnd}
    (taken : endFetch state number ending = some moved) :
    Does setup state (.endFetch number ending) moved := by
  obtain ⟨fetch, member, rfl, rfl⟩ := eq_of_endFetch taken
  cases gone : state.dropped with
  | true => simpa [Does, Moved.after] using Deed.endsLate member gone ending
  | false => exact Deed.endsFetch member gone ending

/-- Taking a batch from its stream is one of the things that a step can do. -/
theorem does_takeBatch (taken : takeBatch setup state = some moved) :
    Does setup state .takeBatch moved := by
  obtain ⟨running, batch, rest, queue, rfl⟩ := eq_of_takeBatch taken
  cases result : applyBatch state.worker.serial state.worker.items batch with
  | ok outcome =>
    rw [process_eq,
      commitOrDrop_of_taken setup { state with source.batches.queue := rest } result, publish_fst]
    exact Deed.commits running queue result
  | error fault =>
    rw [process_eq,
      commitOrDrop_of_refused setup { state with source.batches.queue := rest } result]
    exact Deed.refuses running queue result

/-- Taking a status from its stream is one of the things that a step can do. -/
theorem does_takeStatus (taken : takeStatus setup state = some moved) :
    Does setup state .takeStatus moved := by
  obtain ⟨running, reads, live, rest, queue, rfl⟩ := eq_of_takeStatus taken
  cases changed : (state.machine.push live).1 with
  | true =>
    rw [follow_of_changed setup { state with source.statuses.queue := rest } changed]
    unfold Does
    rw [publish_fst]
    exact Deed.follows running reads queue changed
  | false =>
    have machine := Machine.push_of_unchanged changed
    rw [follow_of_unchanged setup { state with source.statuses.queue := rest } changed, machine]
    exact Deed.ignores running reads queue changed

/-- Following a wish to publish again is one of the things that a step can do. -/
theorem does_takeRepublish (taken : takeRepublish setup state = some moved) :
    Does setup state .takeRepublish moved := by
  obtain ⟨running, wished, rfl⟩ := eq_of_takeRepublish taken
  unfold Does
  rw [publish_fst]
  exact Deed.republishes running wished

end State

/-- Every step is one of the things that a step can do in its state. -/
theorem step_deeds {setup : Setup} {state next : State} {action : Action} {more : List Effect}
    (taken : step setup state action = some (next, more)) :
    Deed setup state action next more := by
  unfold step at taken
  split at taken
  case isTrue => cases taken
  case isFalse =>
    cases action with
    | start call =>
      have does := State.does_start setup state call
      rw [Option.some.inj taken] at does
      exact does
    | resume number =>
      obtain ⟨call, member, rfl, result, ready, same⟩ := State.eq_of_resume taken
      cases same
      exact .returns member ready
    | abandon number =>
      simp only [State.abandon] at taken
      split at taken
      case isTrue known =>
        cases taken
        exact .abandons number (by simpa using known)
      case isFalse => cases taken
    | takeUpdates =>
      have moved := Option.some.inj taken
      unfold State.takeUpdates at moved
      split at moved
      case isTrue untaken =>
        cases moved
        exact .takesUpdates untaken
      case isFalse gone =>
        cases moved
        exact .findsUpdatesTaken gone
    | dropUpdates =>
      cases taken
      unfold State.dropUpdates
      split
      case isTrue connected => exact .dropsUpdates connected
      case isFalse unconnected => exact .findsUpdatesDropped unconnected
    | listen =>
      cases taken
      exact .listens
    | hear listener =>
      cases taken
      exact .hears listener
    | drop =>
      cases taken
      exact .goes
    | sendBatch batch =>
      simp only [State.sendBatch] at taken
      split at taken
      case isTrue accepts =>
        cases taken
        exact .sendsBatch batch accepts
      case isFalse => cases taken
    | endBatches =>
      cases taken
      exact .endsBatches
    | sendStatus live =>
      simp only [State.sendStatus] at taken
      split at taken
      case isTrue accepts =>
        cases taken
        exact .sendsStatus live accepts
      case isFalse => cases taken
    | endStatuses =>
      cases taken
      exact .endsStatuses
    | release =>
      cases taken
      exact .releases
    | endFetch number ending => exact State.does_endFetch taken
    | crashFetch number =>
      obtain ⟨fetch, found, same⟩ := Option.map_eq_some_iff.mp taken
      obtain ⟨member, rfl⟩ := State.mem_of_fetch? found
      cases same
      exact .crashes member
    | ask =>
      simp only [State.ask] at taken
      split at taken
      case isTrue starting =>
        cases taken
        exact .asks starting
      case isFalse => cases taken
    | handOver =>
      simp only [State.handOver] at taken
      split at taken
      case isTrue asked =>
        cases taken
        exact .handsOver asked.1 asked.2
      case isFalse => cases taken
    | takeBatch => exact State.does_takeBatch taken
    | seeBatchesEnd =>
      simp only [State.seeBatchesEnd] at taken
      split at taken
      case isTrue finished =>
        rw [State.ensureOpen_eq] at taken
        cases taken
        exact .seesBatchesEnd finished.1 (by simpa using finished.2.1) finished.2.2.1
          (Bool.eq_false_iff.mpr finished.2.2.2)
      case isFalse => cases taken
    | takeStatus => exact State.does_takeStatus taken
    | seeStatusesEnd =>
      simp only [State.seeStatusesEnd] at taken
      split at taken
      case isTrue finished =>
        cases taken
        exact .seesStatusesEnd finished.1 finished.2.1 (by simpa using finished.2.2.1)
          finished.2.2.2.1 (Bool.eq_false_iff.mpr finished.2.2.2.2)
      case isFalse => cases taken
    | takeRepublish => exact State.does_takeRepublish taken

open State in
/-- Each of the things that a step can do in a state is a step, if no number of a call or of a fetch
is given twice. -/
theorem Deed.taken {setup : Setup} {state next : State} {action : Action} {more : List Effect}
    (deed : Deed setup state action next more)
    (possible : action.needsController = true → state.dropped = false)
    (calls : (state.calls.map RunningCall.number).Nodup)
    (fetches : (state.fetches.map Fetch.number).Nodup) :
    step setup state action = some (next, more) := by
  have there : ¬ (state.dropped = true ∧ action.needsController = true) := by
    rintro ⟨gone, needed⟩
    rw [possible needed] at gone
    cases gone
  refine (if_neg there).trans ?_
  cases deed with
  | subscribesDriven absent driven offered =>
    simp [start, subscribe, startWorker, absent, driven, offered]
  | subscribesInVain absent driven missing =>
    simp [start, subscribe, startWorker, absent, driven, missing]
  | subscribesUndriven absent undriven =>
    simp [start, subscribe, startWorker, absent, undriven]
  | subscribesAgain begun => simp [start, subscribe, begun]
  | waits => rfl
  | joins size found => simp [start, paginate, found]
  | issues size free idle =>
    simp only [start, paginate, free, Machine.begin_of_idle idle]
    rfl
  | @declines direction size free busy =>
    cases status : (state.machine.get direction).status with
    | idle => exact absurd status busy
    | paginating => simp only [start, paginate, free, Machine.begin_of_paginating status]
    | endReached => simp only [start, paginate, free, Machine.begin_of_endReached status]
  | returns member ready => exact resume_eq calls member ready
  | abandons number known => exact if_pos (by simpa using known)
  | takesUpdates untaken => exact congrArg some (if_pos untaken)
  | findsUpdatesTaken gone => exact congrArg some (if_neg gone)
  | dropsUpdates connected =>
    exact congrArg (fun state => some (state, [])) (if_pos connected)
  | findsUpdatesDropped unconnected =>
    exact congrArg (fun state => some (state, [])) (if_neg unconnected)
  | listens | hears | goes | endsBatches | endsStatuses | releases => rfl
  | sendsBatch batch accepts => exact if_pos accepts
  | sendsStatus live accepts => exact if_pos accepts
  | endsFetch member alive ending =>
    simp [endFetch, fetch?_of_mem fetches member, alive, Moved.after]
  | endsLate member gone ending =>
    simp [endFetch, fetch?_of_mem fetches member, gone, Moved.after]
  | crashes member => simp [crashFetch, fetch?_of_mem fetches member, crashed]
  | asks starting => exact if_pos starting
  | handsOver asking ready => exact if_pos ⟨asking, ready⟩
  | @commits batch rest outcome running queue applied =>
    refine (takeBatch_eq setup state running queue).trans (congrArg some ?_)
    rw [process_eq,
      commitOrDrop_of_taken setup { state with source.batches.queue := rest } applied, publish_fst]
    rfl
  | @refuses batch rest fault running queue refused =>
    refine (takeBatch_eq setup state running queue).trans (congrArg some ?_)
    rw [process_eq,
      commitOrDrop_of_refused setup { state with source.batches.queue := rest } refused]
  | seesBatchesEnd running drained ended unseen =>
    refine (if_pos ⟨running, by simp [drained], ended, by simp [unseen]⟩).trans (congrArg some ?_)
    exact ensureOpen_eq _
  | @follows live rest running reads queue changed =>
    refine (takeStatus_eq setup state running reads queue).trans (congrArg some ?_)
    rw [follow_of_changed setup { state with source.statuses.queue := rest } changed]
    exact Prod.ext (publish_fst ..) rfl
  | @ignores live rest running reads queue unchanged =>
    refine (takeStatus_eq setup state running reads queue).trans (congrArg some ?_)
    rw [follow_of_unchanged setup { state with source.statuses.queue := rest } unchanged,
      Machine.push_of_unchanged unchanged]
  | seesStatusesEnd running reads drained ended unseen =>
    exact if_pos ⟨running, reads, by simp [drained], ended, by simp [unseen]⟩
  | republishes running wished =>
    refine (takeRepublish_eq setup state running wished).trans (congrArg some ?_)
    exact Prod.ext (publish_fst ..) rfl

/-! ## Steps that only report -/

/-- Whether an action can ask something of the source, or answer a caller or a listener. -/
def Action.converses : Action → Bool
  | .start _ | .resume _ | .hear _ | .ask => true
  | _ => false

/-- Whoever sees no snapshot and no update, no event, nothing of the log, of the state updater and
of the gate sees nothing of a step that asks nothing of the source and answers nobody. -/
theorem Deed.unseen {α : Type} {seen : Effect → Option α} {setup : Setup} {state next : State}
    {action : Action} {more : List Effect} (deed : Deed setup state action next more)
    (silent : action.converses = false)
    (published : ∀ snapshot, seen (.published snapshot) = none)
    (updated : ∀ update, seen (.updated update) = none)
    (stored : ∀ snapshot, seen (.stored snapshot) = none)
    (emitted : ∀ event, seen (.emitted event) = none)
    (noted : ∀ notice, seen (.noted notice) = none) (opened : seen .gateOpened = none) :
    more.filterMap seen = [] := by
  have shown (before : State) : (State.publish setup before).2.filterMap seen = [] :=
    State.unseen_publish setup before published updated stored fun _ => noted _
  cases deed with
  | subscribesDriven | subscribesInVain | subscribesUndriven | subscribesAgain | waits | joins
  | issues | declines | returns | hears | asks => cases silent
  | findsUpdatesTaken taken => exact List.filterMap_cons_none (noted _)
  | endsFetch member alive ending => exact State.unseen_conclude _ _ _ updated noted
  | endsLate member gone ending => exact State.unseen_logged _ noted
  | commits running queue taken =>
    exact (State.unseen_committed setup _ _ _ _ noted emitted opened).trans (shown _)
  | refuses running queue refused => exact State.unseen_refused setup _ _ _ noted opened
  | seesBatchesEnd running drained ended unseen => exact State.unseen_firstOpening _ opened
  | follows running reads queue changed => exact shown _
  | republishes running wished => exact shown _
  | _ => rfl

end RoomTimeline.Controller
