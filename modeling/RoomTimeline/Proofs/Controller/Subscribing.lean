import RoomTimeline.Proofs.Controller.Gate
import RoomTimeline.Proofs.Controller.Memberships

/-!
# Subscribing

However often someone subscribes, and whether or not they wait for it, one worker is started and the
source is asked for its batches once. The worker opens the gate once, when it has finished with the
first batch or has seen that none will come, and by then readers see what the batch has brought. No
one who subscribes returns before, and none is left waiting once everything has come to rest
(`gate_opened_once`), as it does when a controller is left alone (`State.atRest_settle`).

That something happens once is read off the steps of a run (`trail`): what certain actions bring
about and nothing undoes is brought about by the first of them (`Run.turning_eq`). For the gate it
is read off the effects as well. To open a gate that is open would be one of them and would fail an
assertion; the worker asks first, so what a run does at the gate is to open it once or nothing
(`Run.gateNews_eq`).
-/

namespace RoomTimeline.Controller

/-! ## What happens once -/

/-- Whether a step brings about what did not hold before. -/
def Moment.brings (holds : State → Bool) (moment : Moment) : Bool :=
  !holds moment.before && holds moment.after

/-- The actions that bring something about, in order. -/
def turning (setup : Setup) (holds : State → Bool) (start : State) (actions : List Action) :
    List Action :=
  ((trail setup start actions).filter (Moment.brings holds)).map Moment.action

/-- What certain actions bring about and nothing undoes holds once there has been such an action. It
is the first of them that brings it about. -/
theorem Run.turning_eq {setup : Setup} {start state : State} {actions : List Action}
    {effects : List Effect} {holds : State → Bool} {causes : Action → Bool}
    (caused : ∀ {before : State} {action : Action} {after : State} {more : List Effect},
      step setup before action = some (after, more) →
        holds after = (holds before || causes action))
    (initially : holds start = false) (run : Run setup start actions effects state) :
    turning setup holds start actions = (actions.filter causes).take 1 ∧
      holds state = actions.any causes := by
  induction run with
  | nothing => exact ⟨rfl, initially⟩
  | @further actions _ _ state next action before taken inductionHypothesis =>
    obtain ⟨turned, held⟩ := inductionHypothesis
    have after := caused taken
    refine ⟨?_, by simp [after, held]⟩
    have longer : turning setup holds start (actions ++ [action]) =
        turning setup holds start actions ++
          if !holds state && holds next then [action] else [] := by
      unfold turning
      rw [before.trail_concat taken, List.filter_append, List.map_append]
      congr 1
      cases brought : !holds state && holds next <;> simp [Moment.brings, brought]
    rw [longer, turned, after, held, List.filter_append]
    cases already : actions.any causes with
    | false =>
      have none : actions.filter causes = [] := by
        simpa [List.filter_eq_nil_iff] using already
      cases causing : causes action <;> simp [none, causing]
    | true =>
      have some : actions.filter causes ≠ [] := by
        simpa [List.filter_eq_nil_iff] using already
      have enough : 1 - (actions.filter causes).length = 0 :=
        Nat.sub_eq_zero_of_le (List.length_pos_of_ne_nil some)
      simp [List.take_append, enough]

/-! ## The worker and the source -/

/-- Whether there is a worker. -/
def State.working (state : State) : Bool := state.worker.phase ≠ .absent

/-- Whether someone subscribes by an action. -/
def Action.subscribes : Action → Bool
  | .start .subscribe => true
  | _ => false

/-- A stream that the source can be asked for. -/
inductive Asking where
  | statuses
  | batches
  deriving DecidableEq

/-- The stream that the source is asked for. -/
def Effect.asking? : Effect → Option Asking
  | .askedStatuses | .askedStatusesInVain => some .statuses
  | .askedBatches => some .batches
  | _ => none

/-- The streams that the source is asked for, in order. -/
def askings (effects : List Effect) : List Asking := effects.filterMap Effect.asking?

@[simp] theorem askings_append (effects more : List Effect) :
    askings (effects ++ more) = askings effects ++ askings more :=
  List.filterMap_append

/-- The most that the source has been asked for once the worker has got so far. -/
def Phase.askings : Phase → List Asking
  | .absent => []
  | .starting => [.statuses]
  | .asking | .running => [.statuses, .batches]

namespace Deed

variable {setup : Setup} {state next : State} {action : Action} {more : List Effect}

/-- There is a worker after a step if there was one before or someone subscribes by the step. -/
theorem working_eq_or (deed : Deed setup state action next more) :
    next.working = (state.working || action.subscribes) := by
  cases deed with
  | subscribesDriven | subscribesInVain | subscribesUndriven =>
    simp [State.working, State.enter, Action.subscribes]
  | subscribesAgain there => simp [State.working, State.enter, Action.subscribes, there]
  | asks starting => simp [State.working, starting]
  | handsOver asking ready => simp [State.working, asking]
  | _ => exact (Bool.or_false _).symm

/-- The source is asked for statuses by starting the worker, where these drive older entries,
whether or not it has any; for batches by the first step of the worker; and for nothing else. -/
theorem asked (deed : Deed setup state action next more) :
    Controller.askings more = [] ∨
    (state.worker.phase = .absent ∧ next.worker.phase = .starting ∧
      state.machine.backward.mode = .pushDriven ∧ Controller.askings more = [.statuses]) ∨
    (state.worker.phase = .starting ∧ next.worker.phase = .asking ∧
      Controller.askings more = [.batches]) := by
  have reports (silent : action.converses = false) : Controller.askings more = [] :=
    deed.unseen silent (fun _ => rfl) (fun _ => rfl) (fun _ => rfl) (fun _ => rfl) (fun _ => rfl)
      rfl
  cases deed with
  | subscribesDriven absent driven | subscribesInVain absent driven =>
    exact Or.inr (Or.inl ⟨absent, rfl, driven, rfl⟩)
  | asks starting => exact Or.inr (Or.inr ⟨starting, rfl, rfl⟩)
  | subscribesUndriven | subscribesAgain | waits | joins | issues | declines | returns | hears =>
    exact Or.inl rfl
  | _ => exact Or.inl (reports rfl)

/-- A step takes the worker no way back: whatever the source may have been asked for before, it may
have been asked for after it. -/
theorem phase_askings (deed : Deed setup state action next more) :
    state.worker.phase.askings.Sublist next.worker.phase.askings := by
  cases deed with
  | subscribesDriven absent | subscribesInVain absent | subscribesUndriven absent =>
    rw [absent]
    exact List.nil_sublist _
  | asks starting =>
    rw [starting]
    exact List.sublist_append_left [Asking.statuses] [Asking.batches]
  | handsOver asking ready =>
    rw [asking]
    exact List.Sublist.refl _
  | _ => exact List.Sublist.refl _

/-- If the source has been asked for no more than the worker has come to, it has not been asked for
more after a step; in particular it is asked for no stream twice. -/
theorem askings (deed : Deed setup state action next more) {asked : List Asking}
    (before : asked.Sublist state.worker.phase.askings) :
    (asked ++ Controller.askings more).Sublist next.worker.phase.askings := by
  rcases deed.asked with silent | ⟨absent, starting, -, statuses⟩ | ⟨starting, asking, batches⟩
  · rw [silent, List.append_nil]
    exact before.trans deed.phase_askings
  · rw [absent] at before
    rw [List.sublist_nil.mp before, statuses, starting]
    exact List.Sublist.refl _
  · rw [starting] at before
    rw [batches, asking]
    exact before.append (List.Sublist.refl [Asking.batches])

end Deed

/-! ## What calls wait for -/

/-- What a call waits for that starts now. -/
def State.waitOf (state : State) : Call → Wait
  | .subscribe => .gate
  | .waitForItems => if state.snapshot.entries.isEmpty then .gate else .done (.ok ())
  | .paginate direction _ =>
    match state.shared.get direction with
    | some request => Desk.joined request
    | none =>
      if (state.machine.get direction).status = .idle then .fetch state.nextFetch
      else .done (.ok ())

/-- What a call learns at the end of a fetch does not make it another call. -/
theorem Desk.call_settled (number : Nat) (result : CallResult) (call : RunningCall) :
    (Desk.settled number result call).call = call.call := by
  unfold settled
  split
  · split <;> rfl
  · rfl

/-- A call that does not wait for a fetch learns nothing from the end of one. -/
theorem Desk.settled_of_unfetched {number : Nat} {result : CallResult} {call : RunningCall}
    (unfetched : ∀ awaited, call.wait ≠ .fetch awaited) :
    Desk.settled number result call = call := by
  unfold settled
  split
  · rename_i awaited waits
    exact absurd waits (unfetched awaited)
  · rfl

/-- Every call that has not returned is of a certain sort. -/
def State.AllWait (state : State) (sort : RunningCall → Prop) : Prop :=
  ∀ call ∈ state.calls, sort call

namespace Deed

variable {setup : Setup} {state next : State} {action : Action} {more : List Effect}

/-- A call that starts is entered behind the others, with the next number and with what it has to
wait for in this state. -/
theorem enters {call : Call} (deed : Deed setup state (.start call) next more) :
    next.calls = state.calls ++ [⟨state.nextCall, call, state.waitOf call⟩] := by
  cases deed with
  | subscribesDriven | subscribesInVain | subscribesUndriven | subscribesAgain | waits => rfl
  | joins size found => simp [State.enter, State.waitOf, found, Desk.joined]
  | issues size free idle => simp [State.enter, State.fetching, State.waitOf, free, idle]
  | declines size free busy => simp [State.enter, State.waitOf, free, busy]

/-- What holds of every call goes on to do so if it holds of those that start, and if it is no
matter for it how a fetch ends. -/
theorem allWait (deed : Deed setup state action next more) {sort : RunningCall → Prop}
    (before : state.AllWait sort)
    (starting : ∀ {call : Call}, action = .start call →
      sort ⟨state.nextCall, call, state.waitOf call⟩)
    (ending : ∀ {number : Nat} {result : CallResult} {call : RunningCall}, sort call →
      sort (Desk.settled number result call)) : next.AllWait sort := by
  have entered : ∀ {call : Call}, action = .start call → next.AllWait sort := by
    rintro call rfl other member
    rw [deed.enters] at member
    rcases List.mem_append.mp member with old | new
    · exact before other old
    · rw [List.mem_singleton.mp new]
      exact starting rfl
  have settled : ∀ {number : Nat} {result : CallResult},
      next.calls = state.calls.map (Desk.settled number result) → next.AllWait sort := by
    intro number result calls other member
    rw [calls] at member
    obtain ⟨old, inside, rfl⟩ := List.mem_map.mp member
    exact ending (before old inside)
  have left : ∀ {number : Nat},
      next.calls = state.calls.filter (fun call => call.number ≠ number) → next.AllWait sort := by
    intro number calls other member
    rw [calls] at member
    exact before other (List.mem_filter.mp member).1
  cases deed with
  | subscribesDriven | subscribesInVain | subscribesUndriven | subscribesAgain | waits | joins
  | issues | declines => exact entered rfl
  | returns member ready => exact left rfl
  | abandons number known => exact left rfl
  | goes => exact fun _ member => absurd member List.not_mem_nil
  | endsFetch member alive ending => exact settled rfl
  | crashes member => exact settled rfl
  | _ => exact before

/-- Only a call that can return does so, by an action of its own. -/
theorem of_returned (deed : Deed setup state action next more) {number : Nat} {result : CallResult}
    (returned : .returned number result ∈ more) :
    ∃ call ∈ state.calls, call.number = number ∧ state.result? call = some result := by
  have told : (number, result) ∈ answers more := List.mem_filterMap.mpr ⟨_, returned, rfl⟩
  cases heard : action.outspoken with
  | false =>
    rw [(deed.aloof heard).2] at told
    cases told
  | true =>
    cases deed with
    | @returns call answer member ready =>
      cases List.mem_singleton.mp told
      exact ⟨call, member, rfl, ready⟩
    | issues | joins | declines => cases told
    | _ => cases heard

/-- If nobody waits at a controller that is gone, nobody does after a step. -/
theorem calls_of_dropped (deed : Deed setup state action next more)
    (possible : action.needsController = true → state.dropped = false)
    (before : state.dropped = true → state.calls = []) (gone : next.dropped = true) :
    next.calls = [] := by
  cases deed with
  | goes => rfl
  | subscribesDriven | subscribesInVain | subscribesUndriven | subscribesAgain | waits | joins
  | issues | declines =>
    rw [show state.dropped = true from gone] at possible
    exact absurd (possible rfl) (by decide)
  | returns member ready => exact congrArg (List.filter _) (before gone)
  | abandons number known => exact congrArg (List.filter _) (before gone)
  | endsFetch member alive ending => exact congrArg (List.map _) (before gone)
  | crashes member => exact congrArg (List.map _) (before gone)
  | _ => exact before gone

end Deed

/-- A call to subscribe that has not returned waits at the gate. -/
def RunningCall.Subscribing (call : RunningCall) : Prop :=
  call.call = .subscribe → call.wait = .gate

namespace Run

variable {setup : Setup} {source : Source} {start state : State} {actions : List Action}
variable {effects : List Effect}

/-- In every reachable state, whoever subscribes and has not returned waits at the gate. -/
theorem subscribing (run : Run setup (State.initial setup source) actions effects state) :
    state.AllWait RunningCall.Subscribing := by
  refine run.invariant (fun reached => reached.AllWait RunningCall.Subscribing)
    (fun _ member => absurd member List.not_mem_nil) ?_
  intro before action after more waiting taken
  refine (step_deeds taken).allWait waiting ?_ ?_
  · rintro call - rfl
    rfl
  · intro number result call patient subscribes
    rw [Desk.call_settled] at subscribes
    have gate := patient subscribes
    rw [Desk.settled_of_unfetched (by simp [gate])]
    exact gate

/-- In every reachable state in which the controller is gone nobody has still to return. -/
theorem calls_of_dropped (run : Run setup (State.initial setup source) actions effects state)
    (gone : state.dropped = true) : state.calls = [] := by
  refine run.invariant (fun reached => reached.dropped = true → reached.calls = [])
    (fun _ => rfl) ?_ gone
  intro before action after more waiting taken
  exact (step_deeds taken).calls_of_dropped (alive_of_step taken) waiting

/-- In every reachable state in which someone has still to return the controller is there. -/
theorem alive_of_mem (run : Run setup (State.initial setup source) actions effects state)
    {call : RunningCall} (member : call ∈ state.calls) : state.dropped = false := by
  refine Bool.eq_false_iff.mpr fun gone => ?_
  rw [run.calls_of_dropped gone] at member
  cases member

/-- The source is asked for each stream at most once, and for statuses first. -/
theorem askings (run : Run setup (State.initial setup source) actions effects state) :
    (Controller.askings effects).Sublist state.worker.phase.askings := by
  induction run with
  | nothing => exact List.Sublist.refl _
  | further before taken inductionHypothesis =>
    rw [askings_append]
    exact (step_deeds taken).askings inductionHypothesis

end Run

/-! ## Coming to rest -/

/-- Whether an action needs nobody outside: the worker goes on, or a call returns. -/
def Action.isOwn : Action → Bool
  | .resume _ | .ask | .handOver | .takeBatch | .seeBatchesEnd | .takeStatus | .seeStatusesEnd
  | .takeRepublish => true
  | _ => false

/-- Everything has come to rest: neither the worker nor a call can go on by itself. -/
def State.AtRest (setup : Setup) (state : State) : Prop :=
  ∀ action, action.isOwn = true → step setup state action = none

/-- A running worker that has nothing to do next has taken all that there is: batches, the end of
their stream, statuses, the end of theirs, and wishes to publish again. -/
theorem State.drained_of_runningAction? {state : State} (nothing : state.runningAction? = none) :
    state.source.batches.queue = [] ∧
      ¬ (state.source.batches.ended = true ∧ state.worker.batchesOver = false) ∧
      ¬ (state.source.statuses.taken = true ∧ state.source.statuses.queue ≠ []) ∧
      ¬ (state.source.statuses.taken = true ∧ state.source.statuses.queue = [] ∧
        state.source.statuses.ended = true ∧ state.worker.statusesOver = false) ∧
      state.republish = 0 := by
  unfold runningAction? at nothing
  simpa only [ite_eq_iff, reduceCtorEq, and_false, false_or, and_true, List.isEmpty_iff,
    Bool.not_eq_true, Decidable.not_not, Nat.pos_iff_ne_zero, ne_eq] using nothing

/-- A controller that has nothing to do next has come to rest. -/
theorem State.atRest_of_nextAction? (setup : Setup) {state : State}
    (nothing : state.nextAction? = none) : state.AtRest setup := by
  intro action own
  by_contra possible
  obtain ⟨⟨next, more⟩, taken⟩ := Option.ne_none_iff_exists'.mp possible
  have needed : action.needsController = true := by
    cases action <;> first | rfl | cases own
  have alive := alive_of_step taken needed
  obtain ⟨worker, calls⟩ : state.workerAction? = none ∧ state.resumable? = none := by
    simpa [nextAction?, alive] using nothing
  have idle := fun (runs : state.worker.phase = .running) =>
    drained_of_runningAction? (by simpa [workerAction?, runs] using worker)
  cases step_deeds taken with
  | returns member ready =>
    have found := List.find?_eq_none.mp (Option.map_eq_none_iff.mp calls) _ member
    simp [ready] at found
  | asks starting => simp [workerAction?, starting] at worker
  | handsOver asking ready => simp [workerAction?, asking, ready] at worker
  | commits runs queue applied =>
    have empty := (idle runs).1
    simp [queue] at empty
  | refuses runs queue refused =>
    have empty := (idle runs).1
    simp [queue] at empty
  | seesBatchesEnd runs drained ended unseen => exact (idle runs).2.1 ⟨ended, unseen⟩
  | follows runs reads queue changed => exact (idle runs).2.2.1 ⟨reads, by simp [queue]⟩
  | ignores runs reads queue unchanged => exact (idle runs).2.2.1 ⟨reads, by simp [queue]⟩
  | seesStatusesEnd runs reads drained ended unseen =>
    exact (idle runs).2.2.2.1 ⟨reads, drained, ended, unseen⟩
  | republishes runs wished => exact Nat.ne_of_gt wished (idle runs).2.2.2.2
  | _ => cases own

/-- A controller that is left alone comes to rest. -/
theorem State.atRest_settle (setup : Setup) (state : State) :
    (State.settle setup state).1.AtRest setup :=
  atRest_of_nextAction? setup (nextAction?_settle setup state)

/-! ## Opening the gate -/

/-- What happens at the gate, in order. -/
def gateNews (effects : List Effect) : List Effect := effects.filter Effect.atGate

@[simp] theorem gateNews_append (effects more : List Effect) :
    gateNews (effects ++ more) = gateNews effects ++ gateNews more :=
  List.filter_append ..

/-- The effects at the gate are those that whoever looks at the gate sees. -/
theorem gateNews_eq (effects : List Effect) :
    gateNews effects = effects.filterMap (Option.guard Effect.atGate) :=
  (congrFun List.filterMap_eq_filter effects).symm

/-- The actions at which something happens at the gate, in order. -/
def gateActions (setup : Setup) (start : State) (actions : List Action) : List Action :=
  ((trail setup start actions).filter fun moment => !(gateNews moment.effects).isEmpty).map
    Moment.action

namespace Deed

variable {setup : Setup} {state next : State} {action : Action} {more : List Effect}

/-- At a closed gate, processing a batch and seeing that none will come open it, and at an open gate
they do nothing. No other step does anything at the gate. -/
theorem gateNews_eq_firstOpening (deed : Deed setup state action next more) :
    Controller.gateNews more =
      if action.opensGate then State.firstOpening state.gateOpen else [] := by
  have opening : Controller.gateNews (State.firstOpening state.gateOpen) =
      State.firstOpening state.gateOpen := by
    cases state.gateOpen <;> rfl
  have published : ∀ shown : State, Controller.gateNews (State.publish setup shown).2 = [] := by
    intro shown
    rw [gateNews_eq]
    exact State.unseen_publish setup shown (fun _ => rfl) (fun _ => rfl) (fun _ => rfl)
      (fun _ => rfl)
  cases deed with
  | endsFetch member alive ending =>
    rw [gateNews_eq]
    exact State.unseen_conclude _ _ _ (fun _ => rfl) (fun _ => rfl)
  | endsLate member gone ending =>
    rw [gateNews_eq]
    exact State.unseen_logged _ (fun _ => rfl)
  | commits running queue taken =>
    rw [gateNews_append, gateNews_eq,
      State.unseen_applied setup _ _ _ (fun _ => rfl) (fun _ => rfl), ← gateNews_eq, published,
      opening]
    rfl
  | refuses running queue refused =>
    rw [gateNews_append, gateNews_append, gateNews_eq,
      State.unseen_received setup _ (fun _ => rfl), opening]
    rfl
  | seesBatchesEnd running drained ended unseen => exact opening
  | follows running reads queue changed => exact published _
  | republishes running wished => exact published _
  | _ => rfl

/-- A step that opens the gate does so last of all. If it has taken a batch that can be applied,
then it has published the snapshot that shows the collection with the batch, and emitted the events
of the batch and handed them to the bridge. -/
theorem opens_last (deed : Deed setup state action next more) (opened : .gateOpened ∈ more) :
    ∃ told, more = told ++ [.gateOpened] ∧
      ∀ {batch : Batch} {rest : List Batch} {outcome : Outcome}, action = .takeBatch →
        state.source.batches.queue = batch :: rest →
        applyBatch state.worker.serial state.worker.items batch = .ok outcome →
          published told = [next.snapshot] ∧ Controller.emitted told = batch.events ∧
          next.worker.items = outcome.items ∧
          next.snapshot = ⟨(render setup.config setup.policy next.machine.pair state.worker.runs
            outcome.serial outcome.items).entries, next.machine.pair⟩ ∧
          next.bridge = state.bridge.emitAll batch.events := by
  have news : Effect.gateOpened ∈ Controller.gateNews more := List.mem_filter.mpr ⟨opened, rfl⟩
  rw [deed.gateNews_eq_firstOpening] at news
  have closed : State.firstOpening state.gateOpen = [.gateOpened] := by
    cases gate : state.gateOpen with
    | true => simp [gate, State.firstOpening] at news
    | false => rfl
  cases deed with
  | @commits batch rest outcome running queue taken =>
    refine ⟨_, by rw [closed], ?_⟩
    intro other others result _ waits applied
    cases queue.symm.trans waits
    cases taken.symm.trans applied
    let ready := State.grown { state with source.batches.queue := rest } outcome
    obtain ⟨-, -, -, announced, -⟩ := applyBatch_ok taken
    have events : outcome.memberships.map TimelineEvent.membershipChanged = batch.events := by
      rw [announced]
      rfl
    have shown : published (State.received setup batch ++ ((State.publish setup ready).2 ++
        (outcome.memberships.map TimelineEvent.membershipChanged).map .emitted)) =
          published (State.publish setup ready).2 :=
      State.unseen_applied setup _ _ _ (fun _ => rfl) (fun _ => rfl)
    refine ⟨shown.trans (State.observed_publish setup ready).1, ?_, rfl, rfl,
      congrArg state.bridge.emitAll events⟩
    rw [emitted_append, emitted_append, State.emitted_received, State.emitted_publish, emitted_map,
      events]
    rfl
  | refuses running queue refused =>
    refine ⟨_, by rw [closed], ?_⟩
    intro other others result _ waits applied
    cases queue.symm.trans waits
    cases refused.symm.trans applied
  | seesBatchesEnd running drained ended unseen =>
    exact ⟨[], closed, fun wrong => nomatch wrong⟩
  | _ => cases news

end Deed

/-- What happens at the gate on the way to a state: it is opened once, if it is open, and nothing
else. -/
theorem Run.gateNews_eq {setup : Setup} {start state : State} {actions : List Action}
    {effects : List Effect} (run : Run setup start actions effects state)
    (closed : start.gateOpen = false) :
    gateNews effects = if state.gateOpen then [.gateOpened] else [] := by
  induction run with
  | nothing => rw [closed]; rfl
  | @further actions effects more state next action before taken inductionHypothesis =>
    have opened : next.gateOpen = (state.gateOpen || action.opensGate) := by
      rw [Bool.eq_iff_iff, Bool.or_eq_true]
      exact (step_passes taken).gateOpen_iff
    rw [gateNews_append, inductionHypothesis, (step_deeds taken).gateNews_eq_firstOpening, opened]
    cases state.gateOpen <;> cases action.opensGate <;> rfl

/-- Something happens at the gate just where the gate is brought to be open. -/
theorem gateActions_eq (setup : Setup) (start : State) (actions : List Action) :
    gateActions setup start actions = turning setup State.gateOpen start actions := by
  unfold gateActions turning
  congr 1
  refine List.filter_congr ?_
  intro moment member
  have taken := step_of_mem_trail member
  have opened : moment.after.gateOpen = (moment.before.gateOpen || moment.action.opensGate) := by
    rw [Bool.eq_iff_iff, Bool.or_eq_true]
    exact (step_passes taken).gateOpen_iff
  rw [(step_deeds taken).gateNews_eq_firstOpening, Moment.brings, opened]
  cases moment.before.gateOpen <;> cases moment.action.opensGate <;> rfl

namespace Run

variable {setup : Setup} {source : Source} {state : State} {actions : List Action}
variable {effects : List Effect}

/-- Nobody who subscribes returns while the gate is closed. -/
theorem gateOpen_of_subscribed
    (run : Run setup (State.initial setup source) actions effects state) {action : Action}
    {next : State} {more : List Effect} (taken : step setup state action = some (next, more))
    {call : RunningCall} (member : call ∈ state.calls) (subscribes : call.call = .subscribe)
    {result : CallResult} (returned : .returned call.number result ∈ more) :
    state.gateOpen = true := by
  obtain ⟨other, inside, same, ready⟩ := (step_deeds taken).of_returned returned
  obtain rfl := List.inj_on_of_nodup_map run.attended.distinct inside member same
  exact state.gateOpen_of_result ready (run.subscribing other member subscribes)

/-- Where the gate is open and everything has come to rest nobody is left who subscribes. -/
theorem not_subscribe_of_atRest
    (run : Run setup (State.initial setup source) actions effects state)
    (rests : state.AtRest setup) (opened : state.gateOpen = true) {call : RunningCall}
    (member : call ∈ state.calls) : call.call ≠ .subscribe := by
  intro subscribes
  have ready : state.result? call = some (.ok ()) := by
    simp [State.result?, run.subscribing call member subscribes, opened]
  obtain ⟨after, answer, resumed⟩ :=
    State.exists_resumed setup member (run.alive_of_mem member) ready
  rw [rests _ rfl] at resumed
  cases resumed

end Run

/-- However many subscribe, at whatever time and for however long they wait, in every run:
- The source is asked for each of its streams at most once, and the worker is started by the first
  who subscribes and by nobody else.
- The gate is opened once if it is open now, and has never been opened if it is closed; nobody has
  found it open who was to open it. The action at which it is opened is the first with which the
  worker finishes a batch, whether that can be applied or not, or sees that none will come.
- Nobody who subscribes returns while the gate is closed, and once everything has come to rest with
  the gate open nobody is left who does.
- Opening the gate is the last that a step does. If it is a batch that can be applied with which the
  worker opens the gate, then before that the snapshot that shows the collection with the batch has
  been published, and the batch's events have been emitted and handed to the bridge. -/
theorem gate_opened_once {setup : Setup} {source : Source} {actions : List Action}
    {effects : List Effect} {state : State}
    (run : Run setup (State.initial setup source) actions effects state) :
    ((askings effects).Sublist [.statuses, .batches] ∧
      turning setup State.working (State.initial setup source) actions =
        (actions.filter Action.subscribes).take 1) ∧
    (gateNews effects = (if state.gateOpen then [.gateOpened] else []) ∧
      gateActions setup (State.initial setup source) actions =
        (actions.filter Action.opensGate).take 1) ∧
    (∀ {action : Action} {next : State} {more : List Effect},
      step setup state action = some (next, more) → ∀ call ∈ state.calls, call.call = .subscribe →
        ∀ result, .returned call.number result ∈ more → state.gateOpen = true) ∧
    (state.AtRest setup → state.gateOpen = true → ∀ call ∈ state.calls, call.call ≠ .subscribe) ∧
    ∀ {action : Action} {next : State} {more : List Effect},
      step setup state action = some (next, more) → .gateOpened ∈ more →
        ∃ told, more = told ++ [.gateOpened] ∧
          ∀ {batch : Batch} {rest : List Batch} {outcome : Outcome}, action = .takeBatch →
            state.source.batches.queue = batch :: rest →
            applyBatch state.worker.serial state.worker.items batch = .ok outcome →
              published told = [next.snapshot] ∧ emitted told = batch.events ∧
              next.worker.items = outcome.items ∧
              next.snapshot = ⟨(render setup.config setup.policy next.machine.pair
                state.worker.runs outcome.serial outcome.items).entries, next.machine.pair⟩ ∧
              next.bridge.Holds (emitted effects ++ batch.events) := by
  refine ⟨⟨?_, ?_⟩, ⟨run.gateNews_eq rfl, ?_⟩, ?_, ?_, ?_⟩
  · refine run.askings.trans ?_
    cases state.worker.phase <;> decide
  · exact (Run.turning_eq (fun taken => (step_deeds taken).working_eq_or) rfl run).1
  · rw [gateActions_eq]
    refine (Run.turning_eq (fun taken => ?_) rfl run).1
    rw [Bool.eq_iff_iff, Bool.or_eq_true]
    exact (step_passes taken).gateOpen_iff
  · exact fun taken call member subscribes result returned =>
      run.gateOpen_of_subscribed taken member subscribes returned
  · exact fun rests opened call member => run.not_subscribe_of_atRest rests opened member
  · intro action next more taken opened
    obtain ⟨told, last, shows⟩ := (step_deeds taken).opens_last opened
    refine ⟨told, last, ?_⟩
    intro batch rest outcome takes queue applied
    obtain ⟨shown, events, items, snapshot, bridge⟩ := shows takes queue applied
    obtain ⟨-, -, -, -, holds⟩ := run.exists_taken_batches
    refine ⟨shown, events, items, snapshot, ?_⟩
    rw [bridge]
    exact holds.emitAll batch.events

/-- Two subscribe, and the one who has started the worker gives up. The first batch is shown and its
event emitted, and only then the gate opens; the other one returns. A second batch does not open the
gate again. Someone then asks for older entries, and when everything has come to rest this is the
only call that has not returned. -/
theorem gate_opened_once_of_abandoned :
    ∃ actions effects state others more last,
      Run Setup.ordinary (State.initial Setup.ordinary {}) actions effects state ∧
      gateNews effects = [] ∧ state.calls.map RunningCall.call = [.subscribe] ∧
      state.source.batches.queue = [[.append [joining "a"]]] ∧
      (∃ next told, step Setup.ordinary state .takeBatch = some (next, told ++ [.gateOpened]) ∧
        next.snapshot.ids = [⟨"a"⟩] ∧ published told = [next.snapshot] ∧
        emitted told = [.membershipChanged ⟨"a"⟩]) ∧
      Run Setup.ordinary (State.initial Setup.ordinary {}) (actions ++ others) more last ∧
      last.AtRest Setup.ordinary ∧ last.calls.map RunningCall.number = [2] ∧
      (∀ call ∈ last.calls, call.call ≠ .subscribe) ∧
      turning Setup.ordinary State.working (State.initial Setup.ordinary {}) (actions ++ others) =
        [.start .subscribe] ∧
      gateNews more = [.gateOpened] ∧
      gateActions Setup.ordinary (State.initial Setup.ordinary {}) (actions ++ others) =
        [.takeBatch] := by
  let batch : Batch := [.append [joining "a"]]
  let actions := [Action.start .subscribe, .start .subscribe, .ask, .handOver, .abandon 0,
    .sendBatch batch]
  let others := [Action.takeBatch, .resume 1, .sendBatch [.popFront], .takeBatch,
    .start (.paginate .backwards 20), .takeRepublish]
  let reached := (State.initial Setup.ordinary {}).steps Setup.ordinary actions
  let ended := (State.initial Setup.ordinary {}).steps Setup.ordinary (actions ++ others)
  have run : Run Setup.ordinary (State.initial Setup.ordinary {}) actions reached.1.2 reached.1.1 :=
    Run.of_steps (by cbv)
  have whole : Run Setup.ordinary (State.initial Setup.ordinary {}) (actions ++ others) ended.1.2
      ended.1.1 := Run.of_steps (by cbv)
  have closed : reached.1.1.gateOpen = false := by cbv
  have isOpen : ended.1.1.gateOpen = true := by cbv
  have queue : reached.1.1.source.batches.queue = [batch] := by cbv
  have rests : ended.1.1.AtRest Setup.ordinary :=
    State.atRest_of_nextAction? Setup.ordinary (by cbv)
  obtain ⟨-, ⟨noNews, -⟩, -, -, shows⟩ := gate_opened_once run
  obtain ⟨⟨-, hired⟩, ⟨news, opened⟩, -, nobody, -⟩ := gate_opened_once whole
  rw [closed] at noNews
  rw [isOpen] at news
  obtain ⟨outcome, taken⟩ : ∃ outcome,
      applyBatch reached.1.1.worker.serial reached.1.1.worker.items batch = .ok outcome :=
    ⟨_, by cbv⟩
  obtain ⟨⟨next, more⟩, stepped, ids⟩ : ∃ moved,
      step Setup.ordinary reached.1.1 .takeBatch = some moved ∧ moved.1.snapshot.ids = [⟨"a"⟩] :=
    ⟨_, by cbv, by cbv⟩
  have opens : .gateOpened ∈ more := by
    have here : Effect.gateOpened ∈ gateNews more := by
      rw [(step_deeds stepped).gateNews_eq_firstOpening, closed]
      exact List.mem_cons_self
    exact (List.mem_filter.mp here).1
  obtain ⟨told, rfl, before⟩ := shows stepped opens
  obtain ⟨shown, emits, -⟩ := before rfl queue taken
  exact ⟨actions, reached.1.2, reached.1.1, others, ended.1.2, ended.1.1, run, noNews, by cbv,
    queue, ⟨next, told, stepped, ids, shown, emits⟩, whole, rests, by cbv, nobody rests isOpen,
    hired, news, opened⟩

end RoomTimeline.Controller
