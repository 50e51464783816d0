import RoomTimeline.Proofs.Batch.Accepted
import RoomTimeline.Proofs.Controller.Gate

/-!
# A controller to which only accepted batches come

Beside a controller goes its shadow: the same controller, but of the batches that wait it has only
those that can be applied in turn. Each step of the controller is one of its shadow as well, except
that nothing happens to the shadow where a batch that cannot be applied is sent or dropped, and
where a call returns by a gate that only such a batch has opened (`step_echoes`). Then the shadow's
gate may still be closed, and the call goes on waiting.
-/

namespace RoomTimeline.Controller

namespace State

/-- The state with other batches waiting, another gate and other calls. -/
def masked (state : State) (queue : List Batch) (gateOpen : Bool) (calls : List RunningCall) :
    State :=
  { state with source.batches.queue := queue, gateOpen, calls }

/-- The state with only those batches waiting that can be applied in turn, with a gate and calls of
its own. -/
def shadow (state : State) (gateOpen : Bool) (calls : List RunningCall) : State :=
  state.masked (acceptedFrom (state.worker.serial, state.worker.items) state.source.batches.queue)
    gateOpen calls

section Masked

variable (setup : Setup) (state : State) (queue : List Batch) (gateOpen : Bool)
variable (calls : List RunningCall)

/-- Publishing has the same effects whatever batches are waiting, whether the gate is open, and
whoever has not returned. -/
theorem publish_masked :
    (publish setup (state.masked queue gateOpen calls)).2 = (publish setup state).2 := by
  unfold publish store
  cases setup.updater <;> rfl

/-- A batch that cannot be applied opens the gate, and does nothing else. -/
theorem process_of_refused {batch : Batch} {fault : BatchFault}
    (refused : applyBatch state.worker.serial state.worker.items batch = .error fault) :
    process setup state batch = ({ state with gateOpen := true },
      received setup batch ++ [.noted (.batchDropped fault)] ++ firstOpening state.gateOpen) := by
  rw [process_eq, commitOrDrop_of_refused setup state refused]

end Masked

end State

/-- Whether an action has to do neither with calls nor with batches. -/
def Action.isPlain : Action → Bool
  | .takeUpdates | .dropUpdates | .listen | .hear _ | .endBatches | .sendStatus _ | .endStatuses
  | .release | .ask | .handOver | .takeStatus | .seeStatusesEnd | .takeRepublish => true
  | _ => false

section Masked

variable {setup : Setup} {state next : State} {action : Action} {more : List Effect}

/-- A plain step leaves the waiting batches, the gate and the calls, and can be taken with the same
effects whatever these are. -/
theorem Deed.masked_of_plain (deed : Deed setup state action next more)
    (plain : action.isPlain = true) :
    next.hall = state.hall ∧ next.source.batches.queue = state.source.batches.queue ∧
      ∀ queue gateOpen calls, Deed setup (state.masked queue gateOpen calls) action
        (next.masked queue gateOpen calls) more := by
  cases deed with
  | takesUpdates untaken => exact ⟨rfl, rfl, fun _ _ _ => .takesUpdates untaken⟩
  | findsUpdatesTaken gone => exact ⟨rfl, rfl, fun _ _ _ => .findsUpdatesTaken gone⟩
  | dropsUpdates connected => exact ⟨rfl, rfl, fun _ _ _ => .dropsUpdates connected⟩
  | findsUpdatesDropped unconnected =>
    exact ⟨rfl, rfl, fun _ _ _ => .findsUpdatesDropped unconnected⟩
  | listens => exact ⟨rfl, rfl, fun _ _ _ => .listens⟩
  | hears listener => exact ⟨rfl, rfl, fun _ _ _ => .hears listener⟩
  | endsBatches => exact ⟨rfl, rfl, fun _ _ _ => .endsBatches⟩
  | sendsStatus live accepts => exact ⟨rfl, rfl, fun _ _ _ => .sendsStatus live accepts⟩
  | endsStatuses => exact ⟨rfl, rfl, fun _ _ _ => .endsStatuses⟩
  | releases => exact ⟨rfl, rfl, fun _ _ _ => .releases⟩
  | asks starting => exact ⟨rfl, rfl, fun _ _ _ => .asks starting⟩
  | handsOver asking ready => exact ⟨rfl, rfl, fun _ _ _ => .handsOver asking ready⟩
  | follows running reads queue changed =>
    refine ⟨rfl, rfl, fun waiting gateOpen calls => ?_⟩
    rw [← State.publish_masked setup _ waiting gateOpen calls]
    exact .follows running reads queue changed
  | ignores running reads queue unchanged =>
    exact ⟨rfl, rfl, fun _ _ _ => .ignores running reads queue unchanged⟩
  | seesStatusesEnd running reads drained ended unseen =>
    exact ⟨rfl, rfl, fun _ _ _ => .seesStatusesEnd running reads drained ended unseen⟩
  | republishes running wished =>
    refine ⟨rfl, rfl, fun waiting gateOpen calls => ?_⟩
    rw [← State.publish_masked setup _ waiting gateOpen calls]
    exact .republishes running wished
  | _ => cases plain

/-- Starting a call adds it to the calls, and can be done with the same effects whatever batches are
waiting, whether the gate is open, and whoever else has not returned. -/
theorem Deed.masked_of_start {call : Call} (deed : Deed setup state (.start call) next more)
    (queue : List Batch) (gateOpen : Bool) (calls : List RunningCall) :
    ∃ wait, next.hall = state.hall.enter call wait ∧ next.source.batches = state.source.batches ∧
      Deed setup (state.masked queue gateOpen calls) (.start call)
        (next.masked queue gateOpen (calls ++ [⟨state.nextCall, call, wait⟩])) more := by
  cases deed with
  | subscribesDriven absent driven offered =>
    exact ⟨_, rfl, rfl, .subscribesDriven absent driven offered⟩
  | subscribesInVain absent driven missing =>
    exact ⟨_, rfl, rfl, .subscribesInVain absent driven missing⟩
  | subscribesUndriven absent undriven => exact ⟨_, rfl, rfl, .subscribesUndriven absent undriven⟩
  | subscribesAgain there => exact ⟨_, rfl, rfl, .subscribesAgain there⟩
  | waits => exact ⟨_, rfl, rfl, .waits⟩
  | joins size found => exact ⟨_, rfl, rfl, .joins size found⟩
  | issues size free idle => exact ⟨_, rfl, rfl, .issues size free idle⟩
  | declines size free busy => exact ⟨_, rfl, rfl, .declines size free busy⟩

end Masked

/-! ## Calls that go on waiting -/

namespace Hall

/-- How the gate and the calls of a shadow compare to those of the controller. The shadow's gate is
open only if the controller's is, and the shadow has all the controller's calls and besides some
that wait at the gate. The numbers of these are listed. -/
structure Follows (hall : Hall) (gateOpen : Bool) (calls : List RunningCall) (waiting : List Nat) :
    Prop where
  gate : gateOpen = true → hall.gateOpen = true
  shared : hall.calls = calls.filter fun call => call.number ∉ waiting
  patient : ∀ call ∈ calls, call.number ∈ waiting → call.wait = .gate
  known : ∀ number ∈ waiting, number < hall.nextCall

namespace Follows

variable {hall : Hall} {gateOpen : Bool} {calls : List RunningCall} {waiting : List Nat}

/-- A shadow still compares to its controller when the controller opens its gate, whether or not the
shadow does. -/
theorem opened (follows : hall.Follows gateOpen calls waiting) (items : List Envelope)
    (shadowOpen : Bool) :
    { hall with items, gateOpen := true }.Follows shadowOpen calls waiting :=
  ⟨fun _ => rfl, follows.shared, follows.patient, follows.known⟩

/-- A shadow still compares to its controller when a call is entered in both. -/
theorem enter (follows : hall.Follows gateOpen calls waiting) (call : Call) (wait : Wait) :
    (hall.enter call wait).Follows gateOpen (calls ++ [⟨hall.nextCall, call, wait⟩]) waiting := by
  have new : hall.nextCall ∉ waiting := fun inside => Nat.lt_irrefl _ (follows.known _ inside)
  refine ⟨follows.gate, ?_, ?_,
    fun number member => Nat.lt_succ_of_lt (follows.known number member)⟩
  · rw [List.filter_append, ← follows.shared, List.filter_singleton]
    simp [new, Hall.enter]
  · intro other member inside
    rcases List.mem_append.mp member with old | last
    · exact follows.patient other old inside
    · rw [List.mem_singleton.mp last] at inside
      exact absurd inside new

/-- A shadow still compares to its controller when a call leaves both. -/
theorem leave (follows : hall.Follows gateOpen calls waiting) (number : Nat) :
    (hall.leave number).Follows gateOpen (calls.filter fun call => call.number ≠ number)
      waiting := by
  refine ⟨follows.gate, ?_, fun call member => follows.patient call (List.mem_filter.mp member).1,
    follows.known⟩
  change hall.calls.filter _ = _
  rw [follows.shared, List.filter_filter, List.filter_filter]
  simp only [Bool.and_comm]

/-- A shadow still compares to its controller when a call at the gate leaves the controller only,
and from then on is one of those that go on waiting in the shadow. -/
theorem leave_unanswered (follows : hall.Follows gateOpen calls waiting) {call : RunningCall}
    (member : call ∈ calls) (distinct : (calls.map RunningCall.number).Nodup)
    (gate : call.wait = .gate) (bound : call.number < hall.nextCall) :
    (hall.leave call.number).Follows gateOpen calls (call.number :: waiting) := by
  refine ⟨follows.gate, ?_, ?_, ?_⟩
  · change hall.calls.filter _ = _
    rw [follows.shared, List.filter_filter]
    simp [not_or]
  · intro other inside listed
    rcases List.mem_cons.mp listed with same | old
    · rw [List.inj_on_of_nodup_map distinct inside member same]
      exact gate
    · exact follows.patient other inside old
  · intro number listed
    rcases List.mem_cons.mp listed with rfl | old
    · exact bound
    · exact follows.known number old

/-- A shadow still compares to its controller when those who wait for a fetch learn in both how it
has ended. -/
theorem settle (follows : hall.Follows gateOpen calls waiting) (number : Nat)
    (result : CallResult) :
    { hall with calls := hall.calls.map (Desk.settled number result) }.Follows gateOpen
      (calls.map (Desk.settled number result)) waiting := by
  refine ⟨follows.gate, ?_, ?_, follows.known⟩
  · rw [List.filter_map, ← congrArg (List.map (Desk.settled number result)) follows.shared.symm]
    simp [Function.comp_def, Desk.number_settled]
  · intro call inside listed
    obtain ⟨old, member, rfl⟩ := List.mem_map.mp inside
    rw [Desk.number_settled] at listed
    have gate := follows.patient old member listed
    simp [Desk.settled, gate]

end Follows

end Hall

/-! ## Steps of the shadow -/

/-- Whether an effect is a line in the log about a batch. -/
def Effect.aboutBatch : Effect → Bool
  | .noted (.batchReceived _) | .noted (.batchDropped _) => true
  | _ => false

/-- The first free number and the list that the batches which wait will have left when a new one
comes. -/
def State.ahead (state : State) : Nat × List Envelope :=
  state.source.batches.queue.foldl afterBatch (state.worker.serial, state.worker.items)

/-- What a step of the controller is to its shadow.
- It is a step of the shadow as well, with the same effects but for those about the gate; a batch
  that is sent by it will be applied.
- Or the shadow does nothing. Then the step has sent or dropped a batch that cannot be applied, and
  at most opened the gate and left lines about the batch in the log.
- Or the shadow does nothing, and the step is the return of a call that goes on waiting in the
  shadow.
-/
inductive Echo (setup : Setup) (state : State) (gateOpen : Bool) (calls : List RunningCall)
    (waiting : List Nat) (action : Action) (next : State) (more : List Effect) : Prop
  | shared (nextOpen : Bool) (nextCalls : List RunningCall) (told : List Effect)
      (taken : step setup (state.shadow gateOpen calls) action =
        some (next.shadow nextOpen nextCalls, told))
      (alike : ungated told = ungated more)
      (follows : next.hall.Follows nextOpen nextCalls waiting)
      (kept : acceptedFrom state.ahead (arrivals [action]) = arrivals [action])
  | withheld (still : next.shadow gateOpen calls = state.shadow gateOpen calls)
      (follows : next.hall.Follows gateOpen calls waiting)
      (lines : ∀ effect ∈ ungated more, effect.aboutBatch = true)
      (left : acceptedFrom state.ahead (arrivals [action]) = [])
      (about : action = .takeBatch ∨ ∃ batch, action = .sendBatch batch)
  | unanswered (number : Nat) (returns : action = .resume number)
      (told : more = [.returned number (.ok ())])
      (member : ∃ call ∈ state.calls, call.number = number)
      (still : next.shadow gateOpen calls = state.shadow gateOpen calls)
      (follows : next.hall.Follows gateOpen calls (number :: waiting))

/-- Whatever the action can be in the state is a step. -/
def State.Permits (setup : Setup) (state : State) (action : Action) : Prop :=
  ∀ {next : State} {more : List Effect}, Deed setup state action next more →
    step setup state action = some (next, more)

/-- A call of the controller is one of its shadow, and not one that goes on waiting. -/
theorem Hall.Follows.mem_calls {hall : Hall} {gateOpen : Bool} {calls : List RunningCall}
    {waiting : List Nat} (follows : hall.Follows gateOpen calls waiting) {call : RunningCall}
    (member : call ∈ hall.calls) : call ∈ calls ∧ call.number ∉ waiting := by
  rw [follows.shared] at member
  simpa using List.mem_filter.mp member

section Echoes

variable {setup : Setup} {state next : State} {gateOpen : Bool} {calls : List RunningCall}
variable {waiting : List Nat} {action : Action} {more : List Effect}

/-- The shadow has the batches waiting that can be applied in turn, whatever numbers are given out
for them. -/
theorem State.shadow_eq (reached : Nat × List Envelope) {rest : List Batch}
    (queue : state.source.batches.queue = rest) (items : state.worker.items = reached.2)
    (gateOpen : Bool) (calls : List RunningCall) :
    state.masked (acceptedFrom reached rest) gateOpen calls = state.shadow gateOpen calls := by
  have same : acceptedFrom (state.worker.serial, state.worker.items) rest =
      acceptedFrom reached rest :=
    acceptedFrom_unnumbered rest (congrArg (List.map Envelope.unnumbered) items)
  unfold State.shadow
  rw [queue, same]

/-- A step that does nothing to batches and the collection, and for which the masked state has one
just like it but for the gate, is one of the shadow. -/
theorem Echo.of_masked {nextOpen : Bool} {nextCalls : List RunningCall} {told : List Effect}
    (permits : (state.shadow gateOpen calls).Permits setup action)
    (queue : next.source.batches.queue = state.source.batches.queue)
    (items : next.worker.items = state.worker.items) (quiet : arrivals [action] = [])
    (follows : next.hall.Follows nextOpen nextCalls waiting)
    (deed : Deed setup (state.shadow gateOpen calls) action (next.masked
      (acceptedFrom (state.worker.serial, state.worker.items) state.source.batches.queue) nextOpen
      nextCalls) told) (alike : ungated told = ungated more) :
    Echo setup state gateOpen calls waiting action next more := by
  rw [State.shadow_eq (state.worker.serial, state.worker.items) queue items] at deed
  refine .shared nextOpen nextCalls told (permits deed) alike follows ?_
  rw [quiet]
  rfl

/-- A call that returns has an echo: it returns in the shadow too if it can, and else goes on
waiting there. -/
theorem State.echo_returns {call : RunningCall} {result : CallResult} {told : List Nat}
    (permits : (state.shadow gateOpen calls).Permits setup (.resume call.number))
    (follows : state.hall.Follows gateOpen calls waiting)
    (attended : (state.shadow gateOpen calls).hall.Attended told)
    (member : call ∈ state.calls) (ready : state.result? call = some result) :
    Echo setup state gateOpen calls waiting (.resume call.number) (state.leave call.number)
      [.returned call.number result] := by
  have inShadow := follows.mem_calls member
  have resumed : (state.shadow gateOpen calls).result? call = some result →
      Echo setup state gateOpen calls waiting (.resume call.number) (state.leave call.number)
        [.returned call.number result] := fun ready =>
    .of_masked permits rfl rfl rfl (follows.leave call.number) (.returns inShadow.1 ready) rfl
  rcases state.wait_of_result ready with done | ⟨gate, fine⟩
  · refine resumed ?_
    simp [result?, done]
  · cases gateOpen with
    | true =>
      refine resumed ?_
      rw [fine]
      simp [result?, gate, shadow, masked]
    | false =>
      refine .unanswered call.number rfl (by rw [fine]) ⟨call, member, rfl⟩ rfl ?_
      exact follows.leave_unanswered inShadow.1 attended.distinct gate
        (attended.bound call inShadow.1)

/-- Taking a batch that can be applied has an echo: the shadow takes it too. -/
theorem State.echo_commits {batch : Batch} {rest : List Batch} {outcome : Outcome}
    (permits : (state.shadow gateOpen calls).Permits setup .takeBatch)
    (follows : state.hall.Follows gateOpen calls waiting) (running : state.worker.phase = .running)
    (queue : state.source.batches.queue = batch :: rest)
    (applied : applyBatch state.worker.serial state.worker.items batch = .ok outcome) :
    Echo setup state gateOpen calls waiting .takeBatch
      (committed setup { state with source.batches.queue := rest } outcome)
      (received setup batch ++
        ((publish setup (grown { state with source.batches.queue := rest } outcome)).2 ++
          (outcome.memberships.map TimelineEvent.membershipChanged).map .emitted) ++
        firstOpening state.gateOpen) := by
  let left := acceptedFrom (outcome.serial, outcome.items) rest
  let taking : State := { state with source.batches.queue := rest }
  have waits : (state.shadow gateOpen calls).source.batches.queue = batch :: left := by
    change acceptedFrom _ state.source.batches.queue = _
    rw [queue, acceptedFrom_of_taken applied]
  have shadowed : step setup (state.shadow gateOpen calls) .takeBatch =
      some ((committed setup taking outcome).masked left true calls,
        received setup batch ++
          ((publish setup ((taking.grown outcome).masked left gateOpen calls)).2 ++
            (outcome.memberships.map TimelineEvent.membershipChanged).map .emitted) ++
          firstOpening gateOpen) :=
    permits (.commits running waits applied)
  have shadow : (committed setup taking outcome).masked left true calls =
      (committed setup taking outcome).shadow true calls :=
    State.shadow_eq (outcome.serial, outcome.items) rfl rfl true calls
  rw [publish_masked, shadow] at shadowed
  refine .shared true calls _ shadowed ?_ (follows.opened outcome.items true) rfl
  simp only [ungated_append, ungated_firstOpening]
  rfl

/-- Taking a batch that cannot be applied has an echo: the shadow does nothing. -/
theorem State.echo_refuses {batch : Batch} {rest : List Batch} {fault : BatchFault}
    (follows : state.hall.Follows gateOpen calls waiting)
    (queue : state.source.batches.queue = batch :: rest)
    (refused : applyBatch state.worker.serial state.worker.items batch = .error fault) :
    Echo setup state gateOpen calls waiting .takeBatch
      { state with source.batches.queue := rest, gateOpen := true }
      (received setup batch ++ [.noted (.batchDropped fault)] ++ firstOpening state.gateOpen) := by
  refine .withheld ?_ (follows.opened state.worker.items gateOpen) ?_ rfl (Or.inl rfl)
  · have skipped := acceptedFrom_of_refused refused rest
    unfold State.shadow
    rw [queue, skipped]
    rfl
  · intro effect member
    rw [ungated_append, ungated_firstOpening, List.append_nil] at member
    rcases List.mem_append.mp (List.mem_filter.mp member).1 with line | dropped
    · unfold received at line
      split at line
      · rw [List.mem_singleton.mp line]
        rfl
      · cases line
    · rw [List.mem_singleton.mp dropped]
      rfl

/-- Sending a batch has an echo: it is sent to the shadow too if it will be applied, and otherwise
the shadow does nothing. -/
theorem State.echo_sendsBatch (batch : Batch)
    (permits : (state.shadow gateOpen calls).Permits setup (.sendBatch batch))
    (follows : state.hall.Follows gateOpen calls waiting)
    (accepts : state.accepts state.source.batches = true) :
    Echo setup state gateOpen calls waiting (.sendBatch batch)
      { state with source.batches.queue := state.source.batches.queue ++ [batch] } [] := by
  have grown := acceptedFrom_append (state.worker.serial, state.worker.items)
    state.source.batches.queue [batch]
  change acceptedFrom _ _ = acceptedFrom _ _ ++ acceptedFrom state.ahead [batch] at grown
  cases result : applyBatch state.ahead.1 state.ahead.2 batch with
  | ok outcome =>
    have kept : acceptedFrom state.ahead [batch] = [batch] := acceptedFrom_of_taken result []
    rw [kept] at grown
    refine .shared gateOpen calls [] ((permits (.sendsBatch batch accepts)).trans ?_) rfl follows
      kept
    unfold State.shadow
    rw [grown]
    rfl
  | error fault =>
    have left : acceptedFrom state.ahead [batch] = [] := acceptedFrom_of_refused result []
    rw [left, List.append_nil] at grown
    refine .withheld ?_ follows (fun effect member => absurd member List.not_mem_nil) left
      (Or.inr ⟨batch, rfl⟩)
    unfold State.shadow
    rw [grown]
    rfl

/-- Every step of a controller has its echo. -/
theorem step_echoes {told : List Nat} (follows : state.hall.Follows gateOpen calls waiting)
    (attended : (state.shadow gateOpen calls).hall.Attended told)
    (distinct : (state.fetches.map Fetch.number).Nodup)
    (taken : step setup state action = some (next, more)) :
    Echo setup state gateOpen calls waiting action next more := by
  have deed := step_deeds taken
  have possible : action.needsController = true → state.dropped = false := alive_of_step taken
  have permits : (state.shadow gateOpen calls).Permits setup action := fun shadowed =>
    shadowed.taken possible attended.distinct distinct
  cases plain : action.isPlain with
  | true =>
    obtain ⟨hall, queue, masks⟩ := deed.masked_of_plain plain
    have quiet : arrivals [action] = [] := by
      cases action with
      | sendBatch batch => cases plain
      | _ => rfl
    exact .of_masked permits queue (congrArg Hall.items hall) quiet (hall ▸ follows)
      (masks _ gateOpen calls) rfl
  | false =>
    cases action with
    | start call =>
      obtain ⟨wait, hall, batches, shadowed⟩ := deed.masked_of_start _ gateOpen calls
      exact .of_masked permits (congrArg Feed.queue batches) (congrArg Hall.items hall) rfl
        (hall ▸ follows.enter call wait) shadowed rfl
    | resume number =>
      cases deed with
      | returns member ready => exact State.echo_returns permits follows attended member ready
    | abandon number =>
      cases deed with
      | abandons number known =>
        obtain ⟨call, member, same⟩ := known
        exact .of_masked permits rfl rfl rfl (follows.leave number)
          (.abandons number ⟨call, (follows.mem_calls member).1, same⟩) rfl
    | drop =>
      cases deed with
      | goes =>
        refine .of_masked permits rfl rfl rfl ?_ .goes rfl
        exact ⟨follows.gate, rfl, fun call member => absurd member List.not_mem_nil, follows.known⟩
    | sendBatch batch =>
      cases deed with
      | sendsBatch batch accepts => exact State.echo_sendsBatch batch permits follows accepts
    | endFetch number ending =>
      cases deed with
      | @endsFetch fetch member alive ending =>
        exact .of_masked permits rfl rfl rfl (follows.settle fetch.number _)
          (@Deed.endsFetch setup (state.shadow gateOpen calls) fetch member alive ending) rfl
      | @endsLate fetch member gone ending =>
        exact .of_masked permits rfl rfl rfl follows
          (@Deed.endsLate setup (state.shadow gateOpen calls) fetch member gone ending) rfl
    | crashFetch number =>
      cases deed with
      | @crashes fetch member =>
        exact .of_masked permits rfl rfl rfl (follows.settle fetch.number _) (.crashes member) rfl
    | takeBatch =>
      cases deed with
      | commits running queue applied =>
        exact State.echo_commits permits follows running queue applied
      | refuses running queue refused => exact State.echo_refuses follows queue refused
    | seeBatchesEnd =>
      cases deed with
      | seesBatchesEnd running drained ended unseen =>
        have shadowDrained : (state.shadow gateOpen calls).source.batches.queue = [] := by
          change acceptedFrom _ state.source.batches.queue = []
          rw [drained]
          rfl
        refine .of_masked permits rfl rfl rfl (follows.opened state.worker.items true)
          (.seesBatchesEnd running shadowDrained ended unseen) ?_
        rw [ungated_firstOpening, ungated_firstOpening]
    | takeUpdates | dropUpdates | listen | hear | endBatches | sendStatus | endStatuses | release
    | ask | handOver | takeStatus | seeStatusesEnd | takeRepublish => cases plain

end Echoes

end RoomTimeline.Controller
