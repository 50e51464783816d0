import RoomTimeline.Proofs.Batch.Accepted
import RoomTimeline.Proofs.Controller.Deeds

/-!
# Notices of membership changes

The events that a controller hands to its bridge are those of the batches that it has committed,
one batch after another (`memberships_exact`). Which events a batch has can be read off its
operations (`Batch.events`), so nothing is lost, told twice or told of a batch that was dropped,
whatever later operations of a batch do to the entries.

Only a step that commits a batch emits anything, and it publishes the snapshot of the new
collection before. The rest is an induction over the run, whose invariant is that the batches taken
so far account for the collection and for the events.
-/

namespace RoomTimeline

/-- The events of a batch: one for each membership change that it introduces, in order. -/
def Batch.events (batch : Batch) : List TimelineEvent :=
  batch.announced.map TimelineEvent.membershipChanged

namespace Bridge

/-- The bridge has been handed some events, and still holds as many of them as it can. -/
structure Holds (bridge : Bridge) (events : List TimelineEvent) : Prop where
  counted : bridge.emitted = events.length
  newest : bridge.kept = events.drop (events.length - bridge.capacity)

variable {bridge : Bridge} {events : List TimelineEvent}

/-- A bridge that holds the newest of some events holds the newest again when it is handed one more.
-/
theorem Holds.emit (holds : bridge.Holds events) (event : TimelineEvent) :
    (bridge.emit event).Holds (events ++ [event]) := by
  obtain ⟨counted, newest⟩ := holds
  refine ⟨by simp [Bridge.emit, counted], ?_⟩
  change (bridge.kept ++ [event]).drop ((bridge.kept ++ [event]).length - bridge.capacity) =
    (events ++ [event]).drop ((events ++ [event]).length - bridge.capacity)
  -- what the bridge held before is the same end of the longer list
  have longer : bridge.kept ++ [event] =
      (events ++ [event]).drop (events.length - bridge.capacity) := by
    rw [newest, List.drop_append_of_le_length (Nat.sub_le _ _)]
  rw [longer, List.drop_drop, List.length_drop, List.length_append, List.length_singleton]
  congr 1
  omega

/-- A bridge that holds the newest of some events holds the newest again when it is handed several
more. -/
theorem Holds.emitAll (holds : bridge.Holds events) (more : List TimelineEvent) :
    (bridge.emitAll more).Holds (events ++ more) := by
  induction more generalizing bridge events with
  | nil =>
    rw [List.append_nil]
    exact holds
  | cons event rest inductionHypothesis =>
    have further := inductionHypothesis (holds.emit event)
    rwa [List.append_assoc] at further

/-- Listening to a bridge takes nothing from what it holds. -/
theorem Holds.hear (holds : bridge.Holds events) (listener : Nat) :
    (bridge.hear listener).2.Holds events := by
  unfold Bridge.hear
  split
  · exact holds
  · exact ⟨holds.counted, holds.newest⟩

end Bridge

namespace Controller

/-- The event that is handed to the bridge. -/
def Effect.emitted? : Effect → Option TimelineEvent
  | .emitted event => some event
  | _ => none

/-- The events handed to the bridge, in order. -/
def emitted (effects : List Effect) : List TimelineEvent := effects.filterMap Effect.emitted?

@[simp] theorem emitted_append (effects more : List Effect) :
    emitted (effects ++ more) = emitted effects ++ emitted more :=
  List.filterMap_append

/-- Handing some events to the bridge emits just these. -/
theorem emitted_map (events : List TimelineEvent) : emitted (events.map .emitted) = events := by
  unfold emitted
  rw [List.filterMap_map]
  exact List.filterMap_some

namespace State

variable (setup : Setup) (state : State)

/-- Publishing emits nothing. -/
theorem emitted_publish : emitted (publish setup state).2 = [] :=
  unseen_publish setup state (fun _ => rfl) (fun _ => rfl) (fun _ => rfl) (fun _ => rfl)

/-- The line in the log about a received batch emits nothing. -/
theorem emitted_received (batch : Batch) : emitted (received setup batch) = [] :=
  unseen_received setup batch (fun _ => rfl)

/-- Opening the gate emits nothing. -/
theorem emitted_firstOpening (gateOpen : Bool) : emitted (firstOpening gateOpen) = [] :=
  unseen_firstOpening gateOpen rfl

/-- The batches that a step takes from the stream. -/
def taking (state : State) : Action → List Batch
  | .takeBatch => state.source.batches.queue.take 1
  | _ => []

/-- The first number that is free, and the collection. -/
def collected (state : State) : Nat × List Envelope := (state.worker.serial, state.worker.items)

/-- The batches that taking a batch takes from the stream are the first that waits. -/
theorem taking_of_queue {state : State} {batch : Batch} {rest : List Batch}
    (queue : state.source.batches.queue = batch :: rest) : state.taking .takeBatch = [batch] := by
  simp [taking, queue]

end State

/-! ## One step -/

namespace Deed

variable {setup : Setup} {state next : State} {action : Action} {more : List Effect}

/-- What waits and what arrives at a step is, in order, what the step takes from the stream and what
waits after it. -/
theorem queue_eq_taking_append (deed : Deed setup state action next more) :
    state.source.batches.queue ++ arrivals [action] =
      state.taking action ++ next.source.batches.queue := by
  cases deed with
  | sendsBatch batch accepts => rfl
  | commits running queue taken =>
    rw [State.taking_of_queue queue, queue]
    exact List.append_nil _
  | refuses running queue refused =>
    rw [State.taking_of_queue queue, queue]
    exact List.append_nil _
  | _ => exact List.append_nil _

/-- The collection after a step is what the batches that the step takes have made of it. -/
theorem items_eq_foldl_afterBatch (deed : Deed setup state action next more) :
    next.worker.items = ((state.taking action).foldl afterBatch state.collected).2 := by
  cases deed with
  | commits running queue taken =>
    rw [State.taking_of_queue queue, List.foldl_cons, State.collected, afterBatch_of_taken taken]
    rfl
  | refuses running queue refused =>
    rw [State.taking_of_queue queue, List.foldl_cons, State.collected,
      afterBatch_of_refused refused]
    rfl
  | _ => rfl

/-- A step emits the events of the batches that it takes and that can be applied. -/
theorem emitted_eq_flatMap_events (deed : Deed setup state action next more) :
    emitted more =
      (acceptedFrom state.collected (state.taking action)).flatMap Batch.events := by
  cases deed with
  | @commits batch rest outcome running queue taken =>
    obtain ⟨-, -, -, announced, -⟩ := applyBatch_ok taken
    rw [State.taking_of_queue queue, State.collected, acceptedFrom_of_taken taken]
    simp only [emitted_append, State.emitted_received, State.emitted_publish, emitted_map,
      announced, State.emitted_firstOpening]
    simp [acceptedFrom, Batch.events]
  | refuses running queue refused =>
    rw [State.taking_of_queue queue, State.collected, acceptedFrom_of_refused refused]
    exact State.unseen_refused setup _ _ _ (fun _ => rfl) rfl
  | seesBatchesEnd running drained ended unseen => exact State.emitted_firstOpening _
  | endsFetch member alive ending =>
    exact State.unseen_conclude _ _ _ (fun _ => rfl) (fun _ => rfl)
  | endsLate member gone ending => exact State.unseen_logged _ (fun _ => rfl)
  | follows running reads queue changed => exact State.emitted_publish ..
  | republishes running wished => exact State.emitted_publish ..
  | _ => rfl

/-- A bridge that holds the newest of some events holds the newest again when it has been handed
what a step emits. -/
theorem bridge_holds_emitted (deed : Deed setup state action next more)
    {events : List TimelineEvent} (holds : state.bridge.Holds events) :
    next.bridge.Holds (events ++ Controller.emitted more) := by
  have silent : ∀ bridge : Bridge, bridge.Holds events → bridge.Holds (events ++ []) := by
    intro bridge kept
    rwa [List.append_nil]
  rw [deed.emitted_eq_flatMap_events]
  cases deed with
  | @commits batch rest outcome running queue taken =>
    obtain ⟨-, -, -, announced, -⟩ := applyBatch_ok taken
    have handed := holds.emitAll (outcome.memberships.map .membershipChanged)
    rw [State.taking_of_queue queue, State.collected, acceptedFrom_of_taken taken]
    simpa [State.committed, acceptedFrom, Batch.events, announced] using handed
  | refuses running queue refused =>
    rw [State.taking_of_queue queue, State.collected, acceptedFrom_of_refused refused]
    exact silent _ holds
  | listens => exact silent _ ⟨holds.counted, holds.newest⟩
  | hears listener => exact silent _ (holds.hear listener)
  | _ => exact silent _ holds

/-- A step that emits anything commits a batch, and has published the collection with the batch
before. -/
theorem published_before (deed : Deed setup state action next more)
    (told : Controller.emitted more ≠ []) :
    ∃ batch rest outcome before after, action = .takeBatch ∧
      state.source.batches.queue = batch :: rest ∧
      applyBatch state.worker.serial state.worker.items batch = .ok outcome ∧
      Controller.emitted more = batch.events ∧ next.worker.items = outcome.items ∧
      more = before ++ .published next.snapshot :: after ∧ Controller.emitted before = [] ∧
      next.snapshot = ⟨(render setup.config setup.policy next.machine.pair state.worker.runs
        outcome.serial outcome.items).entries, next.machine.pair⟩ := by
  have events := deed.emitted_eq_flatMap_events
  have items := deed.items_eq_foldl_afterBatch
  rw [events] at told
  cases deed with
  | @commits batch rest outcome running queue taken =>
    rw [State.taking_of_queue queue, State.collected, acceptedFrom_of_taken taken] at events
    rw [State.taking_of_queue queue, List.foldl_cons, State.collected,
      afterBatch_of_taken taken] at items
    let grown := State.grown { state with source.batches.queue := rest } outcome
    obtain ⟨others, effects⟩ : ∃ others, (State.publish setup grown).2 =
      .published (grown.shown setup).snapshot :: others := ⟨_, rfl⟩
    refine ⟨batch, rest, outcome, State.received setup batch,
      others ++ (outcome.memberships.map TimelineEvent.membershipChanged).map .emitted ++
        State.firstOpening state.gateOpen, rfl, queue, taken, ?_, items, ?_,
      State.emitted_received setup batch, rfl⟩
    · simpa [acceptedFrom] using events
    · change _ ++ ((State.publish setup grown).2 ++ _) ++ _ = _
      rw [effects]
      simp only [List.cons_append, List.append_assoc]
      rfl
  | refuses running queue refused =>
    rw [State.taking_of_queue queue, State.collected, acceptedFrom_of_refused refused] at told
    exact absurd rfl told
  | _ => exact absurd rfl told

end Deed

/-! ## Runs -/

/-- The batches taken so far are those that have arrived less those that wait. They have built up
the collection, and those among them that could be applied account for all events, which the bridge
has been handed. -/
theorem Run.exists_taken_batches {setup : Setup} {source : Source} {state : State}
    {actions : List Action} {effects : List Effect}
    (run : Run setup (State.initial setup source) actions effects state) :
    ∃ processed,
      source.batches.queue ++ arrivals actions = processed ++ state.source.batches.queue ∧
        SameButNumbers state.worker.items (collection processed) ∧
        emitted effects = (accepted processed).flatMap Batch.events ∧
        state.bridge.Holds (emitted effects) := by
  induction run with
  | nothing => exact ⟨[], List.append_nil _, rfl, rfl, ⟨rfl, List.drop_nil.symm⟩⟩
  | @further _ _ _ state _ action before taken inductionHypothesis =>
    obtain ⟨processed, waiting, built, told, holds⟩ := inductionHypothesis
    have deed := step_deeds taken
    have same : SameButNumbers (processed.foldl afterBatch (firstSerial, [])).2
        state.collected.2 := built.symm
    refine ⟨processed ++ state.taking action, ?_, ?_, ?_, ?_⟩
    · rw [arrivals_append, ← List.append_assoc, waiting, List.append_assoc,
        deed.queue_eq_taking_append, List.append_assoc]
    · rw [deed.items_eq_foldl_afterBatch]
      unfold collection
      rw [List.foldl_append]
      exact foldl_afterBatch_sameButNumbers (state.taking action) built
    · rw [emitted_append, told, deed.emitted_eq_flatMap_events, accepted, accepted,
        acceptedFrom_append, acceptedFrom_unnumbered _ same, List.flatMap_append]
    · rw [emitted_append]
      exact deed.bridge_holds_emitted holds

/-- The events handed to the bridge in a run are exact.
- They are those of the batches processed so far that could be applied, one batch after another in
  the order of their arrival. A batch has one event for each event item with a membership change
  that one of its operations introduces by appending, pushing to the end, inserting or setting, in
  the order of the operations and of the items of each, whatever becomes of the entry later.
- The bridge has counted them all, and holds as many of the newest as it can.
- A step that emits any has taken a batch that could be applied and emits the events of just this
  batch; before that it has published the snapshot that shows the collection with the batch.

By `Run.exists_taken_batches`, an induction over the run, and `Deed.published_before`, which looks
at the last step. -/
theorem memberships_exact {setup : Setup} {source : Source} {state : State}
    {actions : List Action} {effects : List Effect}
    (run : Run setup (State.initial setup source) actions effects state) :
    (∃ processed,
      source.batches.queue ++ arrivals actions = processed ++ state.source.batches.queue ∧
        emitted effects = (accepted processed).flatMap Batch.events) ∧
      state.bridge.Holds (emitted effects) ∧
      ∀ action next more, step setup state action = some (next, more) → emitted more ≠ [] →
        ∃ batch rest outcome before after, action = .takeBatch ∧
          state.source.batches.queue = batch :: rest ∧
          applyBatch state.worker.serial state.worker.items batch = .ok outcome ∧
          emitted more = batch.events ∧ next.worker.items = outcome.items ∧
          more = before ++ .published next.snapshot :: after ∧ emitted before = [] ∧
          next.snapshot = ⟨(render setup.config setup.policy next.machine.pair state.worker.runs
            outcome.serial outcome.items).entries, next.machine.pair⟩ := by
  obtain ⟨processed, waiting, -, told, holds⟩ := run.exists_taken_batches
  refine ⟨⟨processed, waiting, told⟩, holds, ?_⟩
  intro action next more taken told
  exact (step_deeds taken).published_before told

/-- The first batch is dropped as a whole, with the joining that it brings. The second appends two
joinings, takes the latter away and puts another joining in front: the two that were appended are
announced, and no other. -/
theorem memberships_exact_of_taken_back :
    ∃ actions effects state,
      Run Setup.ordinary (State.initial Setup.ordinary {}) actions effects state ∧
        emitted effects = [.membershipChanged ⟨"a"⟩, .membershipChanged ⟨"b"⟩] ∧
        state.bridge.Holds [.membershipChanged ⟨"a"⟩, .membershipChanged ⟨"b"⟩] := by
  let actions := opening ++ [.sendBatch [.append [joining "d"], .popFront, .popFront],
    .sendBatch [.append [joining "a", saying "hello", joining "b"], .popBack,
      .pushFront (joining "c")], .takeBatch, .takeBatch]
  let reached := (State.initial Setup.ordinary {}).steps Setup.ordinary actions
  have run : Run Setup.ordinary (State.initial Setup.ordinary {}) actions reached.1.2 reached.1.1 :=
    Run.of_steps (by cbv)
  have told : emitted reached.1.2 = [.membershipChanged ⟨"a"⟩, .membershipChanged ⟨"b"⟩] := by cbv
  obtain ⟨-, holds, -⟩ := memberships_exact run
  rw [told] at holds
  exact ⟨actions, reached.1.2, reached.1.1, run, told, holds⟩

end Controller

end RoomTimeline
