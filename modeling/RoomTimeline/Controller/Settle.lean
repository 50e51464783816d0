import RoomTimeline.Controller.Step

/-!
# Running until nothing can proceed

Left alone, the worker and the calls go on until each of them waits for something that only the
outside can bring. `settle` takes these steps one after another in a fixed order of preference:
batches before statuses, statuses before wishes to publish again, and calls last.

Each of these steps uses up something that is waiting. `pending` counts what is waiting, so it
bounds the number of steps, and `settle` stops only where nothing can proceed any more
(`nextAction?_settle`).
-/

namespace RoomTimeline.Controller

namespace State

/-- What a running worker can do next: batches come before statuses, and statuses before wishes to
    publish again. -/
def runningAction? (state : State) : Option Action :=
  if ¬ state.source.batches.queue.isEmpty then some .takeBatch
  else if state.source.batches.ended ∧ ¬ state.worker.batchesOver then some .seeBatchesEnd
  else if state.source.statuses.taken ∧ ¬ state.source.statuses.queue.isEmpty then
    some .takeStatus
  else if state.source.statuses.taken ∧ state.source.statuses.queue.isEmpty ∧
      state.source.statuses.ended ∧ ¬ state.worker.statusesOver then
    some .seeStatusesEnd
  else if 0 < state.republish then some .takeRepublish
  else none

/-- What the worker can do next: get started, and then run. -/
def workerAction? (state : State) : Option Action :=
  match state.worker.phase with
  | .absent => none
  | .starting => some .ask
  | .asking => if state.source.ready then some .handOver else none
  | .running => state.runningAction?

/-- The first call that can return. -/
def resumable? (state : State) : Option Action :=
  (state.calls.find? fun call => (state.result? call).isSome).map fun call => .resume call.number

/-- What happens next if the outside does nothing. -/
def nextAction? (state : State) : Option Action :=
  if state.dropped then none else state.workerAction? <|> state.resumable?

/-- How many steps a worker still needs before it runs. -/
def Phase.distance : Phase → Nat
  | .absent | .running => 0
  | .asking => 1
  | .starting => 2

/-- How much is waiting that a step without the outside can use up. -/
def pending (state : State) : Nat :=
  Phase.distance state.worker.phase +
    state.source.batches.queue.length + (!state.worker.batchesOver).toNat +
    state.source.statuses.queue.length + (!state.worker.statusesOver).toNat +
    state.republish + state.calls.length

/-- Take up to a number of steps, as long as there is one to take. -/
def settleWithin (setup : Setup) : Nat → State → Moved
  | 0, state => (state, [])
  | fuel + 1, state =>
    match state.nextAction?.bind (step setup state) with
    | some (next, effects) => (settleWithin setup fuel next).after effects
    | none => (state, [])

/-- Run until nothing can proceed. -/
def settle (setup : Setup) (state : State) : Moved := settleWithin setup state.pending state

/-! ## Nothing is left to do -/

/-- Publishing uses up nothing and brings nothing that waits. -/
theorem pending_publish (setup : Setup) (state : State) :
    (publish setup state).1.pending = state.pending := by
  unfold publish store
  cases setup.updater <;> rfl

/-- Following a pushed status uses up nothing and brings nothing that waits. -/
theorem pending_follow (setup : Setup) (state : State) (live : LiveStatus) :
    (follow setup state live).1.pending = state.pending := by
  unfold follow
  dsimp only
  split
  · rw [pending_publish]
    rfl
  · rfl

/-- Committing or dropping a batch that has been taken before uses up nothing and brings nothing
    that waits. -/
theorem pending_commitOrDrop (setup : Setup) (state : State) (batch : Batch) :
    (commitOrDrop setup state batch).1.pending = state.pending := by
  unfold commitOrDrop
  split
  · exact pending_publish setup _
  · rfl

/-- Opening the gate when a batch has been processed changes nothing in the count of what is
    waiting. -/
theorem pending_process (setup : Setup) (state : State) (batch : Batch) :
    (process setup state batch).1.pending = state.pending := by
  unfold process Moved.after
  dsimp only
  rw [ensureOpen_fst]
  exact pending_commitOrDrop setup state batch

/-- What a running worker can do next is possible, and uses up something that is waiting. -/
theorem step_runningAction (setup : Setup) {state : State} {action : Action}
    (alive : state.dropped = false) (running : state.worker.phase = .running)
    (chosen : state.runningAction? = some action) :
    ∃ moved, step setup state action = some moved ∧ moved.1.pending < state.pending := by
  unfold runningAction? at chosen
  by_cases batchWaits : ¬ state.source.batches.queue.isEmpty
  · rw [if_pos batchWaits] at chosen
    cases chosen
    cases queue : state.source.batches.queue with
    | nil => simp [queue] at batchWaits
    | cons batch rest =>
      refine ⟨_, by simp [step, alive, takeBatch, running, queue]; rfl, ?_⟩
      rw [pending_process]
      simp only [pending, queue, List.length_cons]
      omega
  rw [if_neg batchWaits] at chosen
  by_cases batchesEnd : state.source.batches.ended ∧ ¬ state.worker.batchesOver
  · rw [if_pos batchesEnd] at chosen
    cases chosen
    have empty : state.source.batches.queue = [] := by simpa using batchWaits
    have unseen : state.worker.batchesOver = false := by simpa using batchesEnd.2
    refine ⟨_, by simp [step, alive, seeBatchesEnd, running, empty, batchesEnd.1, unseen]; rfl, ?_⟩
    rw [ensureOpen_fst]
    simp only [pending, running, unseen, Bool.not_true, Bool.not_false, Bool.toNat_true,
      Bool.toNat_false]
    omega
  rw [if_neg batchesEnd] at chosen
  by_cases statusWaits :
      state.source.statuses.taken ∧ ¬ state.source.statuses.queue.isEmpty
  · rw [if_pos statusWaits] at chosen
    cases chosen
    cases queue : state.source.statuses.queue with
    | nil => simp [queue] at statusWaits
    | cons live rest =>
      refine ⟨_, by simp [step, alive, takeStatus, running, statusWaits.1, queue]; rfl, ?_⟩
      rw [pending_follow]
      simp only [pending, queue, List.length_cons]
      omega
  rw [if_neg statusWaits] at chosen
  by_cases statusesEnd : state.source.statuses.taken ∧ state.source.statuses.queue.isEmpty ∧
      state.source.statuses.ended ∧ ¬ state.worker.statusesOver
  · rw [if_pos statusesEnd] at chosen
    cases chosen
    obtain ⟨taken, drained, ended, notOver⟩ := statusesEnd
    have empty : state.source.statuses.queue = [] := by simpa using drained
    have unseen : state.worker.statusesOver = false := by simpa using notOver
    refine ⟨_, by simp [step, alive, seeStatusesEnd, running, taken, empty, ended, unseen]; rfl, ?_⟩
    simp only [pending, running, unseen, Bool.not_true, Bool.not_false, Bool.toNat_true,
      Bool.toNat_false]
    omega
  rw [if_neg statusesEnd] at chosen
  by_cases wished : 0 < state.republish
  · rw [if_pos wished] at chosen
    cases chosen
    refine ⟨_, by simp [step, alive, takeRepublish, running, wished]; rfl, ?_⟩
    rw [pending_publish]
    simp only [pending]
    omega
  · rw [if_neg wished] at chosen
    cases chosen

/-- What the worker can do next is possible, and uses up something that is waiting. -/
theorem step_workerAction (setup : Setup) {state : State} {action : Action}
    (alive : state.dropped = false) (chosen : state.workerAction? = some action) :
    ∃ moved, step setup state action = some moved ∧ moved.1.pending < state.pending := by
  unfold workerAction? at chosen
  cases phase : state.worker.phase with
  | absent => simp [phase] at chosen
  | starting =>
    have same : action = .ask := by simpa [phase] using chosen.symm
    subst same
    refine ⟨_, by simp [step, alive, ask, phase]; rfl, ?_⟩
    simp only [pending, phase, Phase.distance]
    omega
  | asking =>
    by_cases ready : state.source.ready
    · have same : action = .handOver := by simpa [phase, ready] using chosen.symm
      subst same
      refine ⟨_, by simp [step, alive, handOver, phase, ready]; rfl, ?_⟩
      simp only [pending, phase, Phase.distance]
      omega
    · simp [phase, ready] at chosen
  | running => exact step_runningAction setup alive phase (by simpa [phase] using chosen)

/-- The first call that can return does so, and is running no more. -/
theorem step_resumable (setup : Setup) {state : State} {action : Action}
    (alive : state.dropped = false) (chosen : state.resumable? = some action) :
    ∃ moved, step setup state action = some moved ∧ moved.1.pending < state.pending := by
  obtain ⟨call, found, rfl⟩ := Option.map_eq_some_iff.mp chosen
  have member : call ∈ state.calls := List.mem_of_find?_eq_some found
  have returns : (state.result? call).isSome := by
    simpa using (List.find?_eq_some_iff_append.mp found).1
  have some_result : (state.calls.findSome? fun other =>
      if other.number = call.number then state.result? other else none).isSome := by
    rw [List.findSome?_isSome_iff]
    exact ⟨call, member, by simpa using returns⟩
  obtain ⟨result, taken⟩ := Option.isSome_iff_exists.mp some_result
  refine ⟨(state.leave call.number, [.returned call.number result]), ?_, ?_⟩
  · simp [step, alive, resume, taken]
  · have shorter : (state.calls.filter fun other => other.number ≠ call.number).length <
        state.calls.length :=
      List.length_filter_lt_length_iff_exists.mpr ⟨call, member, by simp⟩
    simp only [pending, leave]
    omega

/-- What happens next if the outside does nothing is possible, and uses up something that is
    waiting. -/
theorem step_nextAction (setup : Setup) {state : State} {action : Action}
    (chosen : state.nextAction? = some action) :
    ∃ moved, step setup state action = some moved ∧ moved.1.pending < state.pending := by
  unfold nextAction? at chosen
  split at chosen
  case isTrue => cases chosen
  case isFalse alive =>
    have alive : state.dropped = false := by simpa using alive
    cases worker : state.workerAction? with
    | some found =>
      have same : found = action := by simpa [worker] using chosen
      exact step_workerAction setup alive (same ▸ worker)
    | none => exact step_resumable setup alive (by simpa [worker] using chosen)

/-- When as many steps have been taken as there has been waiting, nothing is left to do. -/
theorem nextAction?_settleWithin (setup : Setup) (fuel : Nat) (state : State)
    (enough : state.pending ≤ fuel) : (settleWithin setup fuel state).1.nextAction? = none := by
  induction fuel generalizing state with
  | zero =>
    cases chosen : state.nextAction? with
    | none => simpa [settleWithin] using chosen
    | some action =>
      obtain ⟨moved, -, fewer⟩ := step_nextAction setup chosen
      omega
  | succ fuel ih =>
    unfold settleWithin
    cases chosen : state.nextAction? with
    | none => simpa using chosen
    | some action =>
      obtain ⟨⟨next, effects⟩, taken, fewer⟩ := step_nextAction setup chosen
      have fits : next.pending ≤ fuel := by
        have fewer : next.pending < state.pending := fewer
        omega
      simpa only [Option.bind_some, taken, Moved.after] using ih next fits

/-- A controller that is left alone goes on until nothing is left that it could do next. -/
theorem nextAction?_settle (setup : Setup) (state : State) :
    (settle setup state).1.nextAction? = none :=
  nextAction?_settleWithin setup state.pending state (Nat.le_refl _)

end State

end RoomTimeline.Controller
