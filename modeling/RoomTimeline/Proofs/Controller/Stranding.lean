import RoomTimeline.Proofs.Controller.Ending

/-!
# Directions that are paginating for good

A direction that is paginating should be able to stop: its fetch comes to a result, or the source
pushes that it has loaded what it wanted to. `paginating_moves_on_iff` says just when one of the two
is still possible. Otherwise the direction is paginating for good, and whoever asks for more entries
is put off without a fetch. A direction comes to this in two ways: its fetch has crashed, or the
last thing that the source pushed is that it is paginating, and the stream of statuses has ended
since.
-/

namespace RoomTimeline.Controller

/-! ## What may still be heard -/

/-- The worker may yet hear of a status that ends a pagination of the source: older entries follow
what is pushed, the worker reads the stream or will do so when it starts, and such a status waits
there or can still be added. -/
structure State.MayHear (state : State) : Prop where
  driven : state.machine.backward.mode = .pushDriven
  reads : state.source.statuses.taken = true ∨
    state.worker.phase = .absent ∧ state.source.offersStatuses = true
  news : state.source.statuses.ended = false ∨
    ∃ live ∈ state.source.statuses.queue, live ≠ .paginating

/-- The status that the source adds to its stream. -/
def Action.pushed? : Action → Option LiveStatus
  | .sendStatus live => some live
  | _ => none

/-- The statuses that the source has added to its stream, in order. -/
def pushed (actions : List Action) : List LiveStatus := actions.filterMap Action.pushed?

@[simp] theorem pushed_append (actions others : List Action) :
    pushed (actions ++ others) = pushed actions ++ pushed others :=
  List.filterMap_append

/-- The statuses that a step takes from the stream. -/
def State.hearing (state : State) : Action → List LiveStatus
  | .takeStatus => state.source.statuses.queue.take 1
  | _ => []

namespace Deed

variable {setup : Setup} {state next : State} {action : Action} {more : List Effect}

/-- Statuses are taken from the front of the stream and added at its end. -/
theorem statuses_eq_hearing_append (deed : Deed setup state action next more) :
    state.source.statuses.queue ++ pushed [action] =
      state.hearing action ++ next.source.statuses.queue := by
  cases deed with
  | sendsStatus live accepts => rfl
  | follows running reads queue changed =>
    simp [State.hearing, State.shown, queue, pushed, Action.pushed?]
  | ignores running reads queue unchanged => simp [State.hearing, queue, pushed, Action.pushed?]
  | _ => exact List.append_nil _

/-- A worker that has taken the stream of statuses after a step, or will take it when it starts, had
taken it or would take it before the step. -/
theorem reads_before (deed : Deed setup state action next more)
    (after : next.source.statuses.taken = true ∨
      next.worker.phase = .absent ∧ next.source.offersStatuses = true) :
    state.source.statuses.taken = true ∨
      state.worker.phase = .absent ∧ state.source.offersStatuses = true := by
  cases deed with
  | subscribesDriven absent driven offered => exact Or.inr ⟨absent, offered⟩
  | subscribesInVain | subscribesUndriven => exact after.imp_right fun will => nomatch will.1
  | asks starting => exact after.imp_right fun will => nomatch will.1
  | handsOver asking ready => exact after.imp_right fun will => nomatch will.1
  | follows running reads queue changed => exact Or.inl reads
  | _ => exact after

/-- A stream that may bring a status other than paginating after a step might have done so before
the step. -/
theorem news_before (deed : Deed setup state action next more)
    (after : next.source.statuses.ended = false ∨
      ∃ live ∈ next.source.statuses.queue, live ≠ .paginating) :
    state.source.statuses.ended = false ∨
      ∃ live ∈ state.source.statuses.queue, live ≠ .paginating := by
  cases deed with
  | sendsStatus live accepts =>
    unfold State.accepts at accepts
    exact Or.inl (by simpa using (Bool.and_eq_true_iff.mp accepts).1)
  | endsStatuses => exact after.imp_left fun ended => nomatch ended
  | follows running reads queue changed =>
    rw [queue]
    exact after.imp_right fun ⟨live, member, other⟩ => ⟨live, List.mem_cons_of_mem _ member, other⟩
  | ignores running reads queue unchanged =>
    rw [queue]
    exact after.imp_right fun ⟨live, member, other⟩ => ⟨live, List.mem_cons_of_mem _ member, other⟩
  | _ => exact after

/-- If the worker may hear after a step of a status that ends a pagination, it might hear of one
before the step. -/
theorem mayHear_before (deed : Deed setup state action next more) (counted : state.Counted)
    (after : next.MayHear) : state.MayHear :=
  ⟨(deed.drives counted.distinct .backwards).mode.symm.trans after.driven,
    deed.reads_before after.reads, deed.news_before after.news⟩

end Deed

/-! ## Directions that stay paginating -/

/-- A direction stays paginating by a step if no fetch of it is in flight and nothing is heard that
ends its pagination, or if the controller is gone. -/
theorem Drive.stays_paginating {state : State} {direction : Direction} {action : Action}
    {lane : Lane} (drive : Drive state direction action lane)
    (possible : action.needsController = true → state.dropped = false)
    (paginating : (state.machine.get direction).status = .paginating)
    (settled : state.dropped = true ∨ (state.lane direction).flying = [])
    (deaf : state.dropped = true ∨ ¬ (direction = .backwards ∧ state.MayHear)) :
    lane.side.status = .paginating ∧ (state.dropped = true ∨ lane.flying = []) := by
  cases drive with
  | still deaf => exact ⟨paginating, settled⟩
  | issues size free idle =>
    rw [paginating] at idle
    cases idle
  | ends flying alive ending =>
    rcases settled with gone | none
    · rw [alive] at gone
      cases gone
    · rw [none] at flying
      cases flying
  | late flying gone ending => exact ⟨paginating, Or.inl gone⟩
  | crashes flying =>
    exact ⟨paginating, Or.inl (settled.resolve_right (List.ne_nil_of_mem flying))⟩
  | resets queue taken reset =>
    exact ⟨(DirectionState.status_reset_iff _).mpr paginating, settled⟩
  | @hears live rest reads queue =>
    refine ⟨?_, settled⟩
    have alive := possible rfl
    have hopeless : ¬ (direction = .backwards ∧ state.MayHear) :=
      deaf.resolve_left (by simp [alive])
    by_cases follows : state.machine.Follows direction
    · obtain ⟨rfl, driven⟩ := follows
      have repeated : live = .paginating := by
        by_contra other
        exact hopeless ⟨rfl, driven, Or.inl reads, Or.inr ⟨live, by simp [queue], other⟩⟩
      rw [Machine.status_push ⟨rfl, driven⟩, repeated]
      rfl
    · rw [Machine.get_push_of_deaf follows]
      exact paginating

/-- A direction stays paginating in a run if no fetch of it is in flight and no status can be heard
that ends its pagination, or if the controller is gone. -/
theorem Run.stays_paginating {setup : Setup} {start state : State} {direction : Direction}
    {actions : List Action} {effects : List Effect} (run : Run setup start actions effects state)
    (counted : start.Counted) (paginating : (start.machine.get direction).status = .paginating)
    (stuck : start.dropped = true ∨
      (start.lane direction).flying = [] ∧ ¬ (direction = .backwards ∧ start.MayHear)) :
    (state.machine.get direction).status = .paginating := by
  suffices kept : state.Counted ∧ (state.machine.get direction).status = .paginating ∧
      (state.dropped = true ∨ (state.lane direction).flying = []) ∧
      (state.dropped = true ∨ ¬ (direction = .backwards ∧ state.MayHear)) from kept.2.1
  induction run with
  | nothing =>
    exact ⟨counted, paginating, stuck.imp_right And.left, stuck.imp_right And.right⟩
  | further before taken inductionHypothesis =>
    obtain ⟨counted, paginating, settled, deaf⟩ := inductionHypothesis
    have deed := step_deeds taken
    obtain ⟨stays, quiet⟩ := (deed.drives counted.distinct direction).stays_paginating
      (alive_of_step taken) paginating settled deaf
    exact ⟨deed.counted counted, stays, quiet.imp_left deed.dropped,
      deaf.imp deed.dropped fun hopeless hope =>
        hopeless ⟨hope.1, deed.mayHear_before counted hope.2⟩⟩

/-! ## Directions that can stop -/

namespace State

variable (setup : Setup)

/-- A worker that exists can be brought to run, without any change to statuses. -/
theorem exists_running {state : State} (alive : state.dropped = false)
    (there : state.worker.phase ≠ .absent) :
    ∃ actions effects next, Run setup state actions effects next ∧
      next.worker.phase = .running ∧ next.source.statuses = state.source.statuses ∧
      next.machine = state.machine ∧ next.dropped = false := by
  have handed : ∀ state : State, state.dropped = false → state.worker.phase = .asking →
      ∃ actions effects next, Run setup state actions effects next ∧
        next.worker.phase = .running ∧ next.source.statuses = state.source.statuses ∧
        next.machine = state.machine ∧ next.dropped = false := by
    intro state alive asking
    have released : step setup state .release = some (state.release, []) := by
      simp [step, Action.needsController]
    have handed : step setup state.release .handOver =
        some ({ state.release with
          source.batches.taken := true, worker.phase := .running }, []) := by
      simp [step, release, handOver, alive, asking]
    exact ⟨_, _, _, (Run.nothing.further released).further handed, rfl, rfl, rfl, alive⟩
  cases phase : state.worker.phase with
  | absent => exact absurd phase there
  | starting =>
    have asked : step setup state .ask =
        some ({ state with worker.phase := .asking }, [.askedBatches]) := by
      simp [step, ask, alive, phase]
    obtain ⟨actions, effects, next, run, rest⟩ :=
      handed { state with worker.phase := .asking } alive rfl
    exact ⟨_, _, next, (Run.nothing.further asked).append run, rest⟩
  | asking => exact handed state alive phase
  | running => exact ⟨[], [], state, .nothing, phase, rfl, rfl, alive⟩

/-- If the worker may hear of a status that ends a pagination and nobody has subscribed, whoever
subscribes makes it take the stream of statuses. -/
theorem exists_subscribed {state : State} (alive : state.dropped = false) (may : state.MayHear)
    (absent : state.worker.phase = .absent) :
    ∃ next more, step setup state (.start .subscribe) = some (next, more) ∧
      next.worker.phase = .starting ∧
      next.source.statuses = { state.source.statuses with taken := true } ∧
      next.machine = state.machine ∧ next.dropped = false := by
  by_cases offered : state.source.offersStatuses = true
  · have started : step setup state (.start .subscribe) =
        some (enter { state with worker.phase := .starting, source.statuses.taken := true }
          .subscribe .gate, [.askedStatuses]) := by
      simp [step, alive, start, subscribe, startWorker, absent, may.driven, offered]
    exact ⟨_, _, started, rfl, rfl, rfl, alive⟩
  · have started : step setup state (.start .subscribe) =
        some (enter { state with worker.phase := .starting } .subscribe .gate,
          [.askedStatusesInVain]) := by
      simp [step, alive, start, subscribe, startWorker, absent, may.driven, offered]
    have taken := may.reads.resolve_right fun will => offered will.2
    exact ⟨_, _, started, rfl, congrArg (Feed.mk _ _) taken, rfl, alive⟩

/-- If the worker may hear of a status that ends a pagination, it can be brought to run with the
stream of statuses taken. -/
theorem exists_listening {state : State} (alive : state.dropped = false) (may : state.MayHear) :
    ∃ actions effects next, Run setup state actions effects next ∧
      next.worker.phase = .running ∧
      next.source.statuses = { state.source.statuses with taken := true } ∧
      next.machine = state.machine ∧ next.dropped = false := by
  by_cases absent : state.worker.phase = .absent
  · obtain ⟨entered, effects, subscribed, phase, statuses, machine, there⟩ :=
      exists_subscribed setup alive may absent
    obtain ⟨actions, more, next, run, running, same, kept, still⟩ :=
      exists_running setup there (by simp [phase])
    exact ⟨_, _, next, (Run.nothing.further subscribed).append run, running,
      same.trans statuses, kept.trans machine, still⟩
  · obtain ⟨actions, more, next, run, running, same, kept, still⟩ :=
      exists_running setup alive absent
    have taken := may.reads.resolve_right fun will => absent will.1
    exact ⟨actions, more, next, run, running, same.trans (congrArg (Feed.mk _ _) taken), kept,
      still⟩

/-- A running worker that has taken the stream of statuses can follow the first one that waits. -/
theorem exists_taken {state : State} (alive : state.dropped = false)
    (running : state.worker.phase = .running) (reads : state.source.statuses.taken = true)
    {live : LiveStatus} {rest : List LiveStatus}
    (waits : state.source.statuses.queue = live :: rest) :
    ∃ next more, step setup state .takeStatus = some (next, more) ∧
      next.machine = (state.machine.push live).2 ∧ next.source.statuses.queue = rest ∧
      next.source.statuses.taken = true ∧ next.worker.phase = .running ∧ next.dropped = false := by
  let moved := follow setup { state with source.statuses.queue := rest } live
  obtain ⟨machine, source, phase, dropped⟩ :=
    follow_fst setup { state with source.statuses.queue := rest } live
  have taken : step setup state .takeStatus = some moved :=
    (if_neg (by simp [alive])).trans (takeStatus_eq setup state running reads waits)
  refine ⟨moved.1, moved.2, taken, machine, ?_, ?_, phase.trans running, dropped.trans alive⟩
  · exact congrArg (fun source => source.statuses.queue) source
  · exact (congrArg (fun source => source.statuses.taken) source).trans reads

/-- If one of the statuses that wait ends a pagination, a running worker that has taken their stream
can be brought to where older entries are not paginating. -/
theorem exists_heard (queue : List LiveStatus) (state : State) (alive : state.dropped = false)
    (driven : state.machine.backward.mode = .pushDriven) (running : state.worker.phase = .running)
    (reads : state.source.statuses.taken = true) (waits : state.source.statuses.queue = queue)
    (ends : ∃ live ∈ queue, live ≠ .paginating) :
    ∃ actions effects next, Run setup state actions effects next ∧
      (next.machine.get .backwards).status ≠ .paginating := by
  induction queue generalizing state with
  | nil =>
    obtain ⟨live, member, -⟩ := ends
    cases member
  | cons live rest inductionHypothesis =>
    obtain ⟨after, told, taken, machine, left, readsOn, runsOn, there⟩ :=
      exists_taken setup alive running reads waits
    by_cases repeated : live = .paginating
    · have endsLater : ∃ live ∈ rest, live ≠ .paginating := by
        obtain ⟨other, member, distinct⟩ := ends
        rcases List.mem_cons.mp member with rfl | behind
        · exact absurd repeated distinct
        · exact ⟨other, behind, distinct⟩
      have mode : after.machine.backward.mode = .pushDriven := by
        rw [machine]
        exact (Machine.mode_push_get state.machine live .backwards).trans driven
      obtain ⟨actions, effects, next, run, stopped⟩ :=
        inductionHypothesis after there mode runsOn readsOn left endsLater
      exact ⟨_, _, next, (Run.nothing.further taken).append run, stopped⟩
    · refine ⟨_, _, after, Run.nothing.further taken, ?_⟩
      rw [machine, Machine.status_push ⟨rfl, driven⟩ live]
      cases live with
      | idle atStart => cases atStart <;> decide
      | paginating => exact absurd rfl repeated

/-- If the worker may hear of a status that ends a pagination, things can come to where older
entries are not paginating. -/
theorem exists_stopped {state : State} (alive : state.dropped = false) (may : state.MayHear) :
    ∃ actions effects next, Run setup state actions effects next ∧
      (next.machine.get .backwards).status ≠ .paginating := by
  obtain ⟨actions, effects, next, run, running, statuses, machine, still⟩ :=
    exists_listening setup alive may
  have driven : next.machine.backward.mode = .pushDriven := by
    rw [machine]
    exact may.driven
  have reads : next.source.statuses.taken = true := congrArg Feed.taken statuses
  have queue : next.source.statuses.queue = state.source.statuses.queue := by rw [statuses]
  rcases may.news with going | waiting
  · have ended : next.source.statuses.ended = false := by rw [statuses, going]
    have sent : step setup next (.sendStatus (.idle false)) = some ({ next with
        source.statuses.queue := next.source.statuses.queue ++ [.idle false] }, []) := by
      simp [step, Action.needsController, sendStatus, accepts, ended, still]
    obtain ⟨others, more, last, further, stopped⟩ := exists_heard setup _
      { next with source.statuses.queue := next.source.statuses.queue ++ [.idle false] }
      still driven running reads rfl ⟨.idle false, by simp, by decide⟩
    exact ⟨_, _, last, (run.further sent).append further, stopped⟩
  · obtain ⟨others, more, last, further, stopped⟩ :=
      exists_heard setup _ next still driven running reads queue waiting
    exact ⟨_, _, last, run.append further, stopped⟩

end State

/-! ## Why a direction is paginating -/

/-- What accounts for a lane without a fetch in flight. If callers share a fetch it has crashed; and
if the direction is paginating, either they share one, or the last status heard says so. -/
structure Lane.Accounted (direction : Direction) (heard : List LiveStatus) (lane : Lane) :
    Prop where
  held : ∀ request, lane.slot = some request → lane.flying = [] → request.crashed = true
  said : lane.side.status = .paginating → lane.flying = [] → lane.slot = none →
    direction = .backwards ∧ lane.side.mode = .pushDriven ∧ heard.getLast? = some .paginating

/-- As long as the controller is there a step keeps lanes accounted for. -/
theorem Drive.accounted {state : State} {direction : Direction} {action : Action} {lane : Lane}
    {heard : List LiveStatus} (drive : Drive state direction action lane)
    (alive : state.dropped = false) (sound : (state.lane direction).Sound)
    (accounted : (state.lane direction).Accounted direction heard) :
    lane.Accounted direction (heard ++ state.hearing action) := by
  cases drive with
  | @still action deaf =>
    have nothing : state.hearing action = [] := by
      cases action with
      | takeStatus => exact absurd rfl deaf
      | _ => rfl
    rw [nothing, List.append_nil]
    exact accounted
  | issues size free idle =>
    have busy : inFlight state.fetches direction ++
        [⟨state.nextFetch, direction, boundedSize size⟩] ≠ [] := by simp
    exact ⟨fun _ _ landed => absurd landed busy, fun _ landed => absurd landed busy⟩
  | ends flying alive ending =>
    have stopped := DirectionState.status_finish_ne (sound.free_of_mem flying)
      (ending.result direction)
    exact ⟨fun _ shared => (nomatch shared), fun paginating => absurd paginating stopped⟩
  | late flying gone ending =>
    rw [alive] at gone
    cases gone
  | crashes flying =>
    refine ⟨fun request shared _ => ?_, fun _ _ free => (nomatch free)⟩
    rw [← Option.some.inj shared]
  | resets queue taken reset =>
    refine ⟨accounted.held, fun paginating landed free => ?_⟩
    obtain ⟨backwards, driven, last⟩ :=
      accounted.said ((DirectionState.status_reset_iff _).mp paginating) landed free
    exact ⟨backwards, (DirectionState.mode_reset _).trans driven,
      (List.append_nil heard).symm ▸ last⟩
  | @hears live rest reads queue =>
    have hears : state.hearing .takeStatus = [live] := by simp [State.hearing, queue]
    rw [hears]
    refine ⟨accounted.held, fun paginating landed free => ?_⟩
    by_cases follows : state.machine.Follows direction
    · have pushed := (Machine.status_push follows live).symm.trans paginating
      refine ⟨follows.1, (Machine.mode_push_get ..).trans follows.2, ?_⟩
      cases live with
      | paginating => exact List.getLast?_concat
      | idle atStart => cases atStart <;> cases pushed
    · have same := Machine.get_push_of_deaf follows live
      have before : (state.machine.get direction).status = .paginating := same ▸ paginating
      obtain ⟨backwards, driven, -⟩ := accounted.said before landed free
      exact absurd ⟨backwards, driven⟩ follows

/-- The statuses heard so far are those that have been pushed less those that wait, and as long as
the controller is there they account for both lanes. -/
theorem Run.accounted {setup : Setup} {source : Source} {state : State} {actions : List Action}
    {effects : List Effect} (run : Run setup (State.initial setup source) actions effects state)
    (alive : state.dropped = false) :
    ∃ heard, source.statuses.queue ++ pushed actions = heard ++ state.source.statuses.queue ∧
      ∀ direction, (state.lane direction).Accounted direction heard := by
  induction run with
  | nothing =>
    refine ⟨[], List.append_nil _, fun direction => ?_⟩
    cases direction with
    | backwards =>
      exact ⟨fun _ shared => (nomatch shared),
        fun paginating => absurd paginating (DirectionState.initial_ne_paginating _)⟩
    | forwards =>
      exact ⟨fun _ shared => (nomatch shared),
        fun paginating => absurd paginating (DirectionState.initial_ne_paginating _)⟩
  | @further _ _ _ state _ action before taken inductionHypothesis =>
    have deed := step_deeds taken
    have there : state.dropped = false := by
      by_contra gone
      have later := deed.dropped (eq_true_of_ne_false gone)
      rw [alive] at later
      cases later
    obtain ⟨heard, waiting, accounted⟩ := inductionHypothesis there
    obtain ⟨counted, sound⟩ := before.lane_sound
    refine ⟨heard ++ state.hearing action, ?_, fun direction => ?_⟩
    · rw [pushed_append, ← List.append_assoc, waiting, List.append_assoc,
        deed.statuses_eq_hearing_append, List.append_assoc]
    · exact (deed.drives counted.distinct direction).accounted there (sound direction)
        (accounted direction)

/-! ## Requests that are put off -/

/-- A fetch is issued only for a direction that is idle. -/
theorem Deed.idle_of_issued {setup : Setup} {state next : State} {action : Action}
    {more : List Effect} (deed : Deed setup state action next more) :
    ∀ request ∈ issued more, (state.machine.get request.1).status = .idle := by
  intro request member
  cases heard : action.outspoken with
  | false =>
    rw [(deed.aloof heard).1] at member
    cases member
  | true =>
    cases deed with
    | issues size free idle =>
      rw [List.mem_singleton.mp member]
      exact idle
    | joins | declines | returns => cases member
    | _ => cases heard

/-- As long as a direction is never idle, no fetch is issued for it. -/
theorem Run.issued_of_busy {setup : Setup} {start state : State} {direction : Direction}
    {actions : List Action} {effects : List Effect} (run : Run setup start actions effects state)
    (busy : ∀ {others : List Action} {more : List Effect} {last : State},
      Run setup start others more last → (last.machine.get direction).status ≠ .idle) :
    ∀ request ∈ issued effects, request.1 ≠ direction := by
  induction run with
  | nothing => exact fun request member => absurd member List.not_mem_nil
  | further before taken inductionHypothesis =>
    intro request member
    rw [issued_append] at member
    rcases List.mem_append.mp member with earlier | now
    · exact inductionHypothesis request earlier
    · rintro rfl
      exact busy before ((step_deeds taken).idle_of_issued request now)

/-- As long as a direction is paginating all the time, no fetch is issued for it. -/
theorem Run.issued_of_paginating {setup : Setup} {start state : State} {direction : Direction}
    {actions : List Action} {effects : List Effect} (run : Run setup start actions effects state)
    (stuck : ∀ {others : List Action} {more : List Effect} {last : State},
      Run setup start others more last → (last.machine.get direction).status = .paginating) :
    ∀ request ∈ issued effects, request.1 ≠ direction :=
  run.issued_of_busy fun further => by simp [stuck further]

/-- Whether a direction that is paginating can stop, in every reachable state.
- It can just if the controller is there, and a fetch of the direction is in flight or the worker
  may yet hear of another status.
- If it cannot, then whoever asks for more entries, no fetch is issued for the direction any more.
- If no fetch of it is in flight while the controller is there, then the fetch that callers share
  has crashed; or the direction follows pushed statuses, and the last one that the worker took says
  that the source is paginating.

Where nothing can happen any more, this is an invariant of every further run
(`Run.stays_paginating`). Where something can, the run that ends the pagination is put together
step by step (`State.exists_ended`, `State.exists_stopped`). -/
theorem paginating_moves_on_iff {setup : Setup} {source : Source} {state : State}
    {direction : Direction} {actions : List Action} {effects : List Effect}
    (run : Run setup (State.initial setup source) actions effects state)
    (paginating : (state.machine.get direction).status = .paginating) :
    ((∃ others more last, Run setup state others more last ∧
        (last.machine.get direction).status ≠ .paginating) ↔
      state.dropped = false ∧
        (inFlight state.fetches direction ≠ [] ∨ direction = .backwards ∧ state.MayHear)) ∧
    ((∀ {others : List Action} {more : List Effect} {last : State},
        Run setup state others more last → (last.machine.get direction).status = .paginating) →
      ∀ {others : List Action} {more : List Effect} {last : State},
        Run setup state others more last → ∀ request ∈ issued more, request.1 ≠ direction) ∧
    (state.dropped = false → inFlight state.fetches direction = [] →
      (∃ request, state.shared.get direction = some request ∧ request.crashed = true) ∨
        direction = .backwards ∧ (state.machine.get direction).mode = .pushDriven ∧
          ∃ heard, source.statuses.queue ++ pushed actions =
            heard ++ state.source.statuses.queue ∧ heard.getLast? = some .paginating) := by
  obtain ⟨counted, lanes⟩ := run.lane_sound
  refine ⟨⟨?_, ?_⟩, fun stuck others more last further => further.issued_of_paginating stuck, ?_⟩
  · rintro ⟨others, more, last, further, stops⟩
    by_contra hopeless
    refine stops (further.stays_paginating counted paginating ?_)
    by_cases gone : state.dropped = true
    · exact Or.inl gone
    · obtain ⟨landed, deaf⟩ :=
        not_or.mp fun hope => hopeless ⟨Bool.eq_false_iff.mpr gone, hope⟩
      exact Or.inr ⟨not_not.mp landed, deaf⟩
  · rintro ⟨alive, busy | ⟨rfl, may⟩⟩
    · obtain ⟨fetch, flying⟩ := List.exists_mem_of_ne_nil _ busy
      obtain ⟨next, more, taken, side⟩ :=
        State.exists_ended setup counted alive flying (.loaded false)
      refine ⟨_, _, next, Run.nothing.further taken, ?_⟩
      rw [side]
      exact DirectionState.status_finish_ne ((lanes direction).free_of_mem flying) _
    · exact State.exists_stopped setup alive may
  · intro alive landed
    obtain ⟨heard, waiting, accounted⟩ := run.accounted alive
    cases shared : state.shared.get direction with
    | some request => exact Or.inl ⟨request, rfl, (accounted direction).held _ shared landed⟩
    | none =>
      obtain ⟨backwards, driven, last⟩ := (accounted direction).said paginating landed shared
      exact Or.inr ⟨backwards, driven, heard, waiting, last⟩

/-- The source pushes that it is paginating and goes on. The direction can stop, since another
status may still be pushed; so far it is paginating because the last status said so. -/
theorem paginating_moves_on_iff_of_pushed :
    ∃ actions effects state,
      Run Setup.ordinary (State.initial Setup.ordinary {}) actions effects state ∧
      (state.machine.get .backwards).status = .paginating ∧
      (∃ others more last, Run Setup.ordinary state others more last ∧
        (last.machine.get .backwards).status ≠ .paginating) ∧
      inFlight state.fetches .backwards = [] := by
  let actions := opening ++ [.sendStatus .paginating, .takeStatus]
  let reached := (State.initial Setup.ordinary {}).steps Setup.ordinary actions
  have run : Run Setup.ordinary (State.initial Setup.ordinary {}) actions reached.1.2 reached.1.1 :=
    Run.of_steps (by cbv)
  have paginating : (reached.1.1.machine.get .backwards).status = .paginating := by cbv
  have alive : reached.1.1.dropped = false := by cbv
  have landed : inFlight reached.1.1.fetches .backwards = [] := by cbv
  have may : reached.1.1.MayHear := ⟨by cbv, Or.inl (by cbv), Or.inl (by cbv)⟩
  obtain ⟨moves, -, -⟩ := paginating_moves_on_iff run paginating
  exact ⟨actions, reached.1.2, reached.1.1, run, paginating, moves.mpr ⟨alive, Or.inr ⟨rfl, may⟩⟩,
    landed⟩

/-- The source pushes that it is paginating and closes its stream of statuses. The controller is
there and no fetch is in flight, and however things go on, the direction is paginating for good. -/
theorem paginating_is_stranded :
    ∃ actions effects state,
      Run Setup.ordinary (State.initial Setup.ordinary {}) actions effects state ∧
      (state.machine.get .backwards).status = .paginating ∧ state.dropped = false ∧
      inFlight state.fetches .backwards = [] ∧ state.source.statuses.ended = true ∧
      ∀ others more last, Run Setup.ordinary state others more last →
        (last.machine.get .backwards).status = .paginating := by
  let actions := opening ++ [.sendStatus .paginating, .takeStatus, .endStatuses, .seeStatusesEnd]
  let reached := (State.initial Setup.ordinary {}).steps Setup.ordinary actions
  have run : Run Setup.ordinary (State.initial Setup.ordinary {}) actions reached.1.2 reached.1.1 :=
    Run.of_steps (by cbv)
  have paginating : (reached.1.1.machine.get .backwards).status = .paginating := by cbv
  have landed : inFlight reached.1.1.fetches .backwards = [] := by cbv
  have ended : reached.1.1.source.statuses.ended = true := by cbv
  have drained : reached.1.1.source.statuses.queue = [] := by cbv
  have hopeless : ¬ reached.1.1.MayHear := by
    rintro ⟨-, -, going | ⟨live, member, -⟩⟩
    · rw [ended] at going
      cases going
    · rw [drained] at member
      cases member
  refine ⟨actions, reached.1.2, reached.1.1, run, paginating, by cbv, landed, ended, ?_⟩
  intro others more last further
  exact further.stays_paginating run.lane_sound.1 paginating
    (Or.inr ⟨landed, fun may => hopeless may.2⟩)

end RoomTimeline.Controller
