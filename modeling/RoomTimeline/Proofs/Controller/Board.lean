import RoomTimeline.Proofs.Controller.Deeds

/-!
# What a step does to what is shown

Of all that a controller holds, what readers see depends on its board: the collection and its
collapsed entries, the pagination status, the last snapshot and the wishes to publish again. A step
does one of four things to the board (`step_shifts`). It leaves it alone; it moves the pagination
status and leaves a wish; it refuses a batch; or it prepares the board, by a batch that it takes, by
a move of the status or by a wish that it follows, and publishes it.
-/

namespace RoomTimeline.Controller

/-- What readers see, and what that depends on. -/
structure Board where
  items : List Envelope
  runs : Runs
  serial : Nat
  machine : Machine
  snapshot : Snapshot
  republish : Nat

/-- The board of a state. -/
def State.board (state : State) : Board :=
  ⟨state.worker.items, state.worker.runs, state.worker.serial, state.machine, state.snapshot,
    state.republish⟩

namespace Board

/-- What is shown of the collection of a board. -/
def body (setup : Setup) (board : Board) : Collapsed :=
  bodyOf setup.config board.runs board.serial board.items

/-- The board after it has been published. -/
def publish (setup : Setup) (board : Board) : Board :=
  { board with
    runs := (board.body setup).runs
    serial := (board.body setup).serial
    snapshot := ⟨grouped setup.policy (arrange setup.config board.machine.pair
      (board.body setup).shown), board.machine.pair⟩ }

/-- A board as it is about to be published, and the batches that have been processed for it. -/
inductive Prepared (board : Board) : List Batch → Board → Prop
  /-- The collection is the same. -/
  | same (machine : Machine) (republish : Nat) : Prepared board [] { board with machine, republish }
  /-- The collection has taken a batch. -/
  | grown {batch : Batch} {outcome : Outcome} (machine : Machine)
      (taken : applyBatch board.serial board.items batch = .ok outcome) :
      Prepared board [batch]
        { board with items := outcome.items, serial := outcome.serial, machine }

/-- What a step can do to the board: the batches that it processes, the board after it, and the
snapshots that it publishes. -/
inductive Shift (setup : Setup) (board : Board) : List Batch → Board → List Snapshot → Prop
  | still : Shift setup board [] board []
  /-- The pagination status moves, and a wish to publish again is left. -/
  | wished (machine : Machine) :
      Shift setup board [] { board with machine, republish := board.republish + 1 } []
  | refused {batch : Batch} {fault : BatchFault}
      (refused : applyBatch board.serial board.items batch = .error fault) :
      Shift setup board [batch] board []
  | published {processed : List Batch} {prepared : Board}
      (preparation : Prepared board processed prepared) :
      Shift setup board processed (prepared.publish setup) [(prepared.publish setup).snapshot]

end Board

namespace State

/-! ## Publishing -/

variable (setup : Setup) (state : State)

/-- Updates that are told are sent if someone holds the update receiver, and dropped otherwise. -/
theorem sent_tell (updates : List Update) :
    sent (state.tell updates) = if state.receiver = .connected then updates else [] := by
  unfold tell
  split
  · simp [sent, List.filterMap_map, Function.comp_def, Effect.updated?]
  · rfl

/-- Publishing publishes the new snapshot, and sends the updates that lead to it. -/
theorem observed_publish :
    published (publish setup state).2 = [(state.board.publish setup).snapshot] ∧
      sent (publish setup state).2 =
        if state.receiver = .connected then
          state.snapshot.updates (state.board.publish setup).snapshot
        else [] := by
  obtain ⟨storing, effects⟩ := publish_snd setup state
  rw [effects]
  constructor
  · change _ :: ((state.tell _ ++ _).filterMap Effect.published?) = _
    rw [List.filterMap_append, unseen_tell state _ (fun _ => rfl),
      unseen_store setup storing _ (fun _ => rfl) (fun _ => rfl)]
    rfl
  · change sent (state.tell _ ++ _) = _
    rw [sent_append, sent_tell, sent, unseen_store setup storing _ (fun _ => rfl) (fun _ => rfl),
      List.append_nil]
    rfl

end State

/-! ## The parts of a step -/

/-- What a move from a state does to the board: one of the ways in which a step can shift it. The
move takes from the front of the queue the batches that it processes, and sends the updates that
belong to what it publishes. -/
def Shifts (setup : Setup) (state : State) (arrived : List Batch) (moved : Moved) : Prop :=
  ∃ processed, state.board.Shift setup processed moved.1.board (published moved.2) ∧
    state.source.batches.queue ++ arrived = processed ++ moved.1.source.batches.queue ∧
    (published moved.2 ≠ [] → sent moved.2 =
      if state.receiver = .connected then state.snapshot.updates moved.1.snapshot else [])

namespace Shifts

variable {setup : Setup} {state : State} {arrived : List Batch} {moved : Moved}

/-- A move that leaves the board alone, publishes nothing and only adds to the queue what has
arrived shifts the board by nothing. -/
theorem of_still (board : moved.1.board = state.board)
    (queue : moved.1.source.batches.queue = state.source.batches.queue ++ arrived)
    (quiet : published moved.2 = []) : Shifts setup state arrived moved := by
  refine ⟨[], ?_, queue.symm, fun shown => absurd quiet shown⟩
  rw [board, quiet]
  exact .still

/-- A move that changes the pagination status and leaves a wish to publish again shifts the board by
just this. -/
theorem of_wished {machine : Machine}
    (board : moved.1.board = { state.board with machine, republish := state.republish + 1 })
    (queue : moved.1.source.batches.queue = state.source.batches.queue ++ arrived)
    (quiet : published moved.2 = []) : Shifts setup state arrived moved := by
  refine ⟨[], ?_, queue.symm, fun shown => absurd quiet shown⟩
  rw [board, quiet]
  exact .wished machine

/-- Publishing a board that has been prepared shifts the board by publishing it. -/
theorem of_publish {prepared : State} {processed : List Batch}
    (preparation : state.board.Prepared processed prepared.board)
    (queue : state.source.batches.queue ++ arrived = processed ++ prepared.source.batches.queue)
    (receiver : prepared.receiver = state.receiver)
    (snapshot : prepared.snapshot = state.snapshot) :
    Shifts setup state arrived (prepared.shown setup, (prepared.publish setup).2) := by
  obtain ⟨shown, told⟩ := prepared.observed_publish setup
  refine ⟨processed, ?_, queue, fun _ => ?_⟩
  · rw [shown]
    exact .published preparation
  · rw [told, receiver, snapshot]
    rfl

/-- A move that comes to the same board, source and publications as another one shifts the board as
that one does. -/
theorem surrounded {other : Moved} (shifts : Shifts setup state arrived moved)
    (board : other.1.board = moved.1.board) (source : other.1.source = moved.1.source)
    (shown : published other.2 = published moved.2) (told : sent other.2 = sent moved.2) :
    Shifts setup state arrived other := by
  obtain ⟨processed, shift, queue, updates⟩ := shifts
  have snapshot : other.1.snapshot = moved.1.snapshot := congrArg Board.snapshot board
  refine ⟨processed, ?_, ?_, ?_⟩
  · rw [board, shown]
    exact shift
  · rw [source]
    exact queue
  · rw [shown, told, snapshot]
    exact updates

end Shifts

namespace State

variable (setup : Setup) (state : State)

/-- A batch that can be applied is published; neither a line in the log nor what the bridge is
handed nor the gate is of any matter. -/
theorem shifts_committed {batch : Batch} {rest : List Batch} {outcome : Outcome}
    (queue : state.source.batches.queue = batch :: rest)
    (taken : applyBatch state.worker.serial state.worker.items batch = .ok outcome) :
    Shifts setup state [] (committed setup { state with source.batches.queue := rest } outcome,
      received setup batch ++
        ((publish setup (grown { state with source.batches.queue := rest } outcome)).2 ++
          (outcome.memberships.map TimelineEvent.membershipChanged).map .emitted) ++
        firstOpening state.gateOpen) := by
  have published : Shifts setup state []
      (shown setup (grown { state with source.batches.queue := rest } outcome),
        (publish setup (grown { state with source.batches.queue := rest } outcome)).2) :=
    Shifts.of_publish (.grown _ taken) (by simp [grown, queue]) rfl rfl
  refine published.surrounded rfl rfl ?_ ?_
  · exact unseen_committed setup batch _ _ _ (fun _ => rfl) (fun _ => rfl) rfl
  · exact unseen_committed setup batch _ _ _ (fun _ => rfl) (fun _ => rfl) rfl

/-- The end of a fetch shifts the board by nothing, or moves the pagination status and leaves a wish
to publish again. -/
theorem shifts_conclude (fetch : Fetch) (result : FetchResult) :
    Shifts setup state [] ((conclude (state.forget fetch.number) fetch result).1,
      logged result ++ (conclude (state.forget fetch.number) fetch result).2) := by
  have quiet : published (logged result ++
      (conclude (state.forget fetch.number) fetch result).2) = [] :=
    unseen_conclude _ fetch result (fun _ => rfl) (fun _ => rfl)
  have board : (conclude (state.forget fetch.number) fetch result).1.board = { state.board with
        machine := (state.machine.finish fetch.direction result).2
        republish := if (state.machine.finish fetch.direction result).1 then state.republish + 1
          else state.republish } := rfl
  cases changed : (state.machine.finish fetch.direction result).1 with
  | true =>
    rw [changed, if_pos rfl] at board
    exact Shifts.of_wished board (List.append_nil _).symm quiet
  | false =>
    rw [changed, Machine.finish_of_unchanged changed] at board
    exact Shifts.of_still board (List.append_nil _).symm quiet

end State

/-- Every step shifts the board in one of the ways in which a step can. -/
theorem step_shifts {setup : Setup} {state next : State} {action : Action} {more : List Effect}
    (taken : step setup state action = some (next, more)) :
    Shifts setup state (arrivals [action]) (next, more) := by
  cases step_deeds taken with
  | issues size free idle => exact Shifts.of_wished rfl (List.append_nil _).symm rfl
  | sendsBatch batch accepts => exact Shifts.of_still rfl rfl rfl
  | endsFetch member alive ending => exact state.shifts_conclude setup _ _
  | endsLate member gone ending =>
    refine Shifts.of_still rfl (List.append_nil _).symm ?_
    cases ending <;> rfl
  | commits running queue applied => exact state.shifts_committed setup queue applied
  | @refuses batch rest fault running queue refused =>
    have quiet : published (State.received setup batch ++ [.noted (.batchDropped fault)] ++
        State.firstOpening state.gateOpen) = [] :=
      State.unseen_refused setup batch fault _ (fun _ => rfl) rfl
    refine ⟨[batch], ?_, by simp [queue, arrivals, Action.arrival?],
      fun shown => absurd quiet shown⟩
    rw [quiet]
    exact .refused refused
  | @follows live rest running reads queue changed =>
    exact Shifts.of_publish (.same (state.machine.push live).2 state.republish) (List.append_nil _)
      rfl rfl
  | seesBatchesEnd running drained ended unseen =>
    exact Shifts.of_still rfl (List.append_nil _).symm (State.unseen_firstOpening _ rfl)
  | republishes running wished =>
    exact Shifts.of_publish (.same state.machine (state.republish - 1)) (List.append_nil _) rfl rfl
  | _ => exact Shifts.of_still rfl (List.append_nil _).symm rfl

end RoomTimeline.Controller
