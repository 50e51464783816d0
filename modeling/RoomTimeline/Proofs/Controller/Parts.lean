import RoomTimeline.Proofs.Controller.Run

/-!
# The parts of a step

When a move of the worker, of a call or of a fetch is possible, and what it then is. Whatever is
proved of steps starts from these and not from how the moves are written.

A part that only tells, logs or stores has effects of that kind only, so nobody who looks for
something else sees anything of it.
-/

namespace RoomTimeline.Controller.State

variable {setup : Setup} {state : State} {moved : Moved}

/-! ## When moves are possible -/

/-- If the worker takes a batch it is running, and processes the first batch that waits. -/
theorem eq_of_takeBatch (taken : takeBatch setup state = some moved) :
    state.worker.phase = .running ∧
      ∃ batch rest, state.source.batches.queue = batch :: rest ∧
        moved = process setup { state with source.batches.queue := rest } batch := by
  unfold takeBatch at taken
  split at taken
  · rename_i running
    split at taken
    · rename_i batch rest queue
      exact ⟨running, batch, rest, queue, (Option.some.inj taken).symm⟩
    · cases taken
  · cases taken

/-- If the worker takes a status it is running, has taken the stream of statuses, and follows the
first status that waits. -/
theorem eq_of_takeStatus (taken : takeStatus setup state = some moved) :
    state.worker.phase = .running ∧ state.source.statuses.taken = true ∧
      ∃ live rest, state.source.statuses.queue = live :: rest ∧
        moved = follow setup { state with source.statuses.queue := rest } live := by
  unfold takeStatus at taken
  split at taken
  · rename_i reads
    split at taken
    · rename_i live rest queue
      exact ⟨reads.1, reads.2, live, rest, queue, (Option.some.inj taken).symm⟩
    · cases taken
  · cases taken

/-- If the worker follows a wish it is running, there is such a wish, and what is published is the
state with one wish less. -/
theorem eq_of_takeRepublish (taken : takeRepublish setup state = some moved) :
    state.worker.phase = .running ∧ 0 < state.republish ∧
      moved = publish setup { state with republish := state.republish - 1 } := by
  unfold takeRepublish at taken
  split at taken
  · rename_i wished
    exact ⟨wished.1, wished.2, (Option.some.inj taken).symm⟩
  · cases taken

/-- A worker that runs can take the first batch that is ready. -/
theorem takeBatch_eq (setup : Setup) (state : State) (running : state.worker.phase = .running)
    {batch : Batch} {rest : List Batch} (queue : state.source.batches.queue = batch :: rest) :
    takeBatch setup state =
      some (process setup { state with source.batches.queue := rest } batch) := by
  unfold takeBatch
  rw [if_pos running, queue]

/-- A worker that runs and reads statuses can take the first status that is ready. -/
theorem takeStatus_eq (setup : Setup) (state : State) (running : state.worker.phase = .running)
    (reads : state.source.statuses.taken = true) {live : LiveStatus} {rest : List LiveStatus}
    (queue : state.source.statuses.queue = live :: rest) :
    takeStatus setup state =
      some (follow setup { state with source.statuses.queue := rest } live) := by
  unfold takeStatus
  rw [if_pos ⟨running, reads⟩, queue]

/-- A worker that runs can publish again if there is a wish for it. -/
theorem takeRepublish_eq (setup : Setup) (state : State) (running : state.worker.phase = .running)
    (wished : 0 < state.republish) :
    takeRepublish setup state =
      some (publish setup { state with republish := state.republish - 1 }) :=
  if_pos ⟨running, wished⟩

/-- A call that is resumed has not returned before, and returns what it would return in this state.
-/
theorem eq_of_resume {number : Nat} (taken : resume state number = some moved) :
    ∃ call ∈ state.calls, call.number = number ∧ ∃ result, state.result? call = some result ∧
      moved = (state.leave number, [.returned number result]) := by
  obtain ⟨result, found, rfl⟩ := Option.map_eq_some_iff.mp taken
  obtain ⟨call, member, answered⟩ := List.exists_of_findSome?_eq_some found
  split at answered
  · rename_i same
    exact ⟨call, member, same, result, answered, rfl⟩
  · cases answered

/-- A call that has not returned and has an answer can be resumed. -/
theorem isSome_resume {call : RunningCall} {result : CallResult} (member : call ∈ state.calls)
    (ready : state.result? call = some result) : (state.resume call.number).isSome := by
  rw [resume, Option.isSome_map, List.findSome?_isSome_iff]
  exact ⟨call, member, by simp [ready]⟩

/-- If no number is given to two calls, a call that has an answer is resumed with just this answer.
-/
theorem resume_eq {call : RunningCall} {result : CallResult}
    (distinct : (state.calls.map RunningCall.number).Nodup) (member : call ∈ state.calls)
    (ready : state.result? call = some result) :
    state.resume call.number = some (state.leave call.number, [.returned call.number result]) := by
  obtain ⟨moved, taken⟩ := Option.isSome_iff_exists.mp (isSome_resume member ready)
  obtain ⟨other, inside, same, answer, answered, rfl⟩ := eq_of_resume taken
  rw [List.inj_on_of_nodup_map distinct inside member same, ready] at answered
  rw [taken, Option.some.inj answered]

/-- A fetch that the source is working on has the number by which it is found. -/
theorem mem_of_fetch? {number : Nat} {fetch : Fetch} (found : state.fetch? number = some fetch) :
    fetch ∈ state.fetches ∧ fetch.number = number :=
  ⟨List.mem_of_find?_eq_some found, by simpa using (List.find?_eq_some_iff_append.mp found).1⟩

/-- If no number is given to two fetches, a fetch that the source is working on is found by its
number. -/
theorem fetch?_of_mem {fetch : Fetch} (distinct : (state.fetches.map Fetch.number).Nodup)
    (member : fetch ∈ state.fetches) : state.fetch? fetch.number = some fetch := by
  cases found : state.fetch? fetch.number with
  | none => simpa using List.find?_eq_none.mp found fetch member
  | some other =>
    obtain ⟨inside, same⟩ := mem_of_fetch? found
    rw [List.inj_on_of_nodup_map distinct inside member same]

/-- If a fetch ends the source has been working on it; its result is logged, and counts unless the
controller is gone. -/
theorem eq_of_endFetch {number : Nat} {ending : FetchEnd}
    (taken : endFetch state number ending = some moved) :
    ∃ fetch ∈ state.fetches, fetch.number = number ∧
      moved = Moved.after
        (if state.dropped then (state.forget number, [])
          else conclude (state.forget number) fetch (ending.result fetch.direction))
        (logged (ending.result fetch.direction)) := by
  obtain ⟨fetch, found, rfl⟩ := Option.map_eq_some_iff.mp taken
  obtain ⟨member, same⟩ := mem_of_fetch? found
  exact ⟨fetch, member, same, rfl⟩

/-- A call starts only at a controller that has not gone. -/
theorem eq_of_start {call : Call} (taken : step setup state (.start call) = some moved) :
    state.dropped = false ∧ start setup state call = moved := by
  unfold step at taken
  split at taken
  · cases taken
  · rename_i there
    exact ⟨by simpa [Action.needsController] using there, Option.some.inj taken⟩

/-! ## What the worker does with what it has taken -/

/-- What the worker publishes for a batch that can be applied: the collection is what the batch has
made of it, and after a reset the directions can load again. -/
def grown (state : State) (outcome : Outcome) : State :=
  { state with
    worker.items := outcome.items
    worker.serial := outcome.serial
    machine := if outcome.didReset then state.machine.reset.2 else state.machine }

/-- If a batch can be applied, the new collection is published and then the events of the batch are
emitted. -/
theorem commitOrDrop_of_taken (setup : Setup) (state : State) {batch : Batch} {outcome : Outcome}
    (taken : applyBatch state.worker.serial state.worker.items batch = .ok outcome) :
    commitOrDrop setup state batch =
      Moved.after ((publish setup (state.grown outcome)).1.emit
        (outcome.memberships.map .membershipChanged)) (publish setup (state.grown outcome)).2 := by
  unfold commitOrDrop
  rw [taken]
  rfl

/-- If a batch cannot be applied, nothing happens but that its fault is logged. -/
theorem commitOrDrop_of_refused (setup : Setup) (state : State) {batch : Batch}
    {fault : BatchFault}
    (refused : applyBatch state.worker.serial state.worker.items batch = .error fault) :
    commitOrDrop setup state batch = (state, [.noted (.batchDropped fault)]) := by
  unfold commitOrDrop
  rw [refused]

/-- The effects of opening the gate where it is closed and leaving it alone where it is open. -/
def firstOpening (gateOpen : Bool) : List Effect := if gateOpen then [] else [.gateOpened]

/-- Opening the gate where it is closed and leaving it alone where it is open never finds it open
already, so no assertion fails. -/
theorem ensureOpen_eq (state : State) :
    state.ensureOpen = ({ state with gateOpen := true }, firstOpening state.gateOpen) := by
  refine Prod.ext (ensureOpen_fst state) ?_
  unfold ensureOpen openGate firstOpening
  cases state.gateOpen <;> rfl

/-- A pushed status that changes something is shown. -/
theorem follow_of_changed (setup : Setup) (state : State) {live : LiveStatus}
    (changed : (state.machine.push live).1 = true) :
    follow setup state live = publish setup { state with machine := (state.machine.push live).2 } :=
  if_pos changed

/-- A pushed status that changes nothing is not shown. -/
theorem follow_of_unchanged (setup : Setup) (state : State) {live : LiveStatus}
    (unchanged : (state.machine.push live).1 = false) :
    follow setup state live = ({ state with machine := (state.machine.push live).2 }, []) :=
  if_neg (Bool.eq_false_iff.mp unchanged)

/-- What a state renders to when it is published. -/
def rendering (setup : Setup) (state : State) : Rendering :=
  render setup.config setup.policy state.machine.pair state.worker.runs state.worker.serial
    state.worker.items

/-- The state with its rendering as the last snapshot. -/
def shown (setup : Setup) (state : State) : State :=
  { state with
    worker.runs := (state.rendering setup).runs
    worker.serial := (state.rendering setup).serial
    snapshot := ⟨(state.rendering setup).entries, state.machine.pair⟩
    stored := if setup.updater.isSome then state.stored + 1 else state.stored }

/-- Publishing leaves a state as it is but for the last snapshot, what the worker keeps from one
rendering to the next, and the count of snapshots that the updater has been given. -/
theorem publish_fst (setup : Setup) (state : State) :
    (publish setup state).1 = state.shown setup := by
  unfold publish store shown
  cases setup.updater with
  | none => rfl
  | some updater => rfl

/-- Processing a batch applies it or drops it, and opens the gate behind that if it is still
closed. -/
theorem process_eq (setup : Setup) (state : State) (batch : Batch) :
    process setup state batch = ({ (commitOrDrop setup state batch).1 with gateOpen := true },
      received setup batch ++ (commitOrDrop setup state batch).2 ++
        firstOpening state.gateOpen) := by
  have same : (commitOrDrop setup state batch).1.gateOpen = state.gateOpen := by
    cases result : applyBatch state.worker.serial state.worker.items batch with
    | ok outcome =>
      rw [commitOrDrop_of_taken setup state result, publish_fst]
      rfl
    | error fault => rw [commitOrDrop_of_refused setup state result]
  unfold process
  dsimp only
  rw [ensureOpen_eq, same]
  rfl

/-- Following a pushed status moves the pagination status as it says, and leaves the streams of the
source and whether the worker runs. -/
theorem follow_fst (setup : Setup) (state : State) (live : LiveStatus) :
    (follow setup state live).1.machine = (state.machine.push live).2 ∧
      (follow setup state live).1.source = state.source ∧
      (follow setup state live).1.worker.phase = state.worker.phase ∧
      (follow setup state live).1.dropped = state.dropped := by
  cases changed : (state.machine.push live).1 with
  | true =>
    rw [follow_of_changed setup state changed, publish_fst]
    exact ⟨rfl, rfl, rfl, rfl⟩
  | false =>
    rw [follow_of_unchanged setup state changed]
    exact ⟨rfl, rfl, rfl, rfl⟩

/-- What is published comes first; behind it updates are told, and the state updater is given the
snapshot. -/
theorem publish_snd (setup : Setup) (state : State) :
    ∃ storing, (publish setup state).2 = .published (state.shown setup).snapshot ::
      (state.tell (state.snapshot.updates (state.shown setup).snapshot) ++
        (store setup storing (state.shown setup).snapshot).2) :=
  ⟨_, rfl⟩

/-! ## What is not seen of a part

Whoever observes a controller picks from its effects what is of interest (`List.filterMap`), and
sees nothing of a part that has only effects of other kinds.
-/

section Unseen

variable {α : Type} {seen : Effect → Option α}

/-- Whoever does not see updates sees nothing of telling them. -/
theorem unseen_tell (state : State) (updates : List Update)
    (updated : ∀ update, seen (.updated update) = none) :
    (state.tell updates).filterMap seen = [] := by
  unfold tell
  split
  · refine List.filterMap_eq_nil_iff.mpr ?_
    intro effect member
    obtain ⟨update, -, rfl⟩ := List.mem_map.mp member
    exact updated update
  · rfl

/-- Whoever sees neither what the state updater is given nor its failures sees nothing of storing a
snapshot. -/
theorem unseen_store (setup : Setup) (state : State) (snapshot : Snapshot)
    (stored : ∀ snapshot, seen (.stored snapshot) = none)
    (failed : ∀ reason, seen (.noted (.updaterFailed reason)) = none) :
    (store setup state snapshot).2.filterMap seen = [] := by
  unfold store
  split
  · rfl
  · rw [List.filterMap_cons_none (stored snapshot)]
    split
    · exact List.filterMap_cons_none (failed _)
    · rfl

/-- Whoever sees no snapshot and no update, and nothing of the state updater, sees nothing of
publishing. -/
theorem unseen_publish (setup : Setup) (state : State)
    (published : ∀ snapshot, seen (.published snapshot) = none)
    (updated : ∀ update, seen (.updated update) = none)
    (stored : ∀ snapshot, seen (.stored snapshot) = none)
    (failed : ∀ reason, seen (.noted (.updaterFailed reason)) = none) :
    (publish setup state).2.filterMap seen = [] := by
  obtain ⟨storing, effects⟩ := publish_snd setup state
  rw [effects, List.filterMap_cons_none (published _), List.filterMap_append,
    unseen_tell state _ updated, unseen_store setup storing _ stored failed]
  rfl

/-- Whoever does not see events sees nothing of emitting them. -/
theorem unseen_emitted (events : List TimelineEvent)
    (emitted : ∀ event, seen (.emitted event) = none) :
    (events.map Effect.emitted).filterMap seen = [] := by
  refine List.filterMap_eq_nil_iff.mpr ?_
  intro effect member
  obtain ⟨event, -, rfl⟩ := List.mem_map.mp member
  exact emitted event

/-- Whoever does not see the log line about a received batch sees nothing of receiving it. -/
theorem unseen_received (setup : Setup) (batch : Batch)
    (received : ∀ description, seen (.noted (.batchReceived description)) = none) :
    (State.received setup batch).filterMap seen = [] := by
  unfold State.received
  split
  · exact List.filterMap_cons_none (received _)
  · rfl

/-- Whoever does not see the gate being opened sees nothing of opening it where it is closed. -/
theorem unseen_firstOpening (gateOpen : Bool) (opened : seen .gateOpened = none) :
    (firstOpening gateOpen).filterMap seen = [] := by
  cases gateOpen with
  | true => rfl
  | false => exact List.filterMap_cons_none opened

/-- Whoever sees neither the log nor the gate sees nothing of a batch that is dropped. -/
theorem unseen_refused (setup : Setup) (batch : Batch) (fault : BatchFault) (gateOpen : Bool)
    (noted : ∀ notice, seen (.noted notice) = none) (opened : seen .gateOpened = none) :
    (State.received setup batch ++ [Effect.noted (.batchDropped fault)] ++
      firstOpening gateOpen).filterMap seen = [] := by
  rw [List.filterMap_append, List.filterMap_append, unseen_received setup batch fun _ => noted _,
    unseen_firstOpening gateOpen opened, List.filterMap_cons_none (noted _)]
  rfl

/-- Whoever sees neither the log nor events sees of a batch that is applied, up to the opening of
the gate, what is published and no more. -/
theorem unseen_applied (setup : Setup) (batch : Batch) (shown : List Effect)
    (events : List TimelineEvent) (noted : ∀ notice, seen (.noted notice) = none)
    (emitted : ∀ event, seen (.emitted event) = none) :
    (State.received setup batch ++ (shown ++ events.map Effect.emitted)).filterMap seen =
      shown.filterMap seen := by
  rw [List.filterMap_append, List.filterMap_append, unseen_received setup batch fun _ => noted _,
    unseen_emitted events emitted, List.append_nil, List.nil_append]

/-- Whoever sees neither the log nor events nor the gate sees of a batch that is applied what is
published and no more. -/
theorem unseen_committed (setup : Setup) (batch : Batch) (shown : List Effect)
    (events : List TimelineEvent) (gateOpen : Bool) (noted : ∀ notice, seen (.noted notice) = none)
    (emitted : ∀ event, seen (.emitted event) = none) (opened : seen .gateOpened = none) :
    (State.received setup batch ++ (shown ++ events.map Effect.emitted) ++
      firstOpening gateOpen).filterMap seen = shown.filterMap seen := by
  rw [List.filterMap_append, unseen_applied setup batch shown events noted emitted,
    unseen_firstOpening gateOpen opened, List.append_nil]

/-- Whoever does not see the log sees nothing of the result of a fetch being logged. -/
theorem unseen_logged (result : FetchResult) (noted : ∀ notice, seen (.noted notice) = none) :
    (logged result).filterMap seen = [] := by
  unfold logged
  split
  · rfl
  · exact List.filterMap_cons_none (noted _)

/-- Whoever sees neither the log nor updates sees nothing of the end of a fetch. -/
theorem unseen_conclude (state : State) (fetch : Fetch) (result : FetchResult)
    (updated : ∀ update, seen (.updated update) = none)
    (noted : ∀ notice, seen (.noted notice) = none) :
    (logged result ++ (conclude state fetch result).2).filterMap seen = [] := by
  rw [List.filterMap_append, unseen_logged result noted]
  exact unseen_tell state _ updated

end Unseen

end RoomTimeline.Controller.State
