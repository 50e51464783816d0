import RoomTimeline.Proofs.Controller.Capabilities

/-!
# Who watches changes nothing

A controller is watched in several ways: a state updater is given each snapshot, batches are logged,
listeners hear events from the bridge, and someone may hold the update receiver. None of these can
change what the controller does. Two runs that differ in nothing else go through the same steps, and
at each of them publish, fetch, emit and return the same (`watchers_change_nothing`).

What watching leaves alone is what remains of a setup, of a state and of effects without it
(`Setup.unwatched`, `State.unwatched`, `plain`). A step by those who watch moves nothing of that
(`Deed.watched`); and any other step can be taken wherever the same remains, and leads to where the
same remains (`Deed.transfer`).
-/

namespace RoomTimeline.Controller

/-! ## What remains without those who watch -/

/-- Whether only those who watch act. -/
def Action.watches : Action → Bool
  | .takeUpdates | .dropUpdates | .listen | .hear _ => true
  | _ => false

/-- The actions of all others. -/
def unwatched (actions : List Action) : List Action := actions.filter fun action => !action.watches

/-- The setup without a state updater, without lines in the log about batches, and with a bridge of
the ordinary capacity. -/
def Setup.unwatched (setup : Setup) : Setup :=
  { setup with
    config := { setup.config with logDiffs := false, bridgeCapacity := 100 }
    updater := none }

/-- The state without the update receiver, the bridge, and the count of snapshots given to the
updater. -/
def State.unwatched (state : State) : State :=
  { state with receiver := .untaken, bridge := .ofCapacity 100, stored := 0 }

/-- The start of a controller, without what the watchers have of it, is the start under the setup
without what it provides for them. -/
theorem State.unwatched_initial (setup : Setup) (source : Source) :
    (State.initial setup source).unwatched = State.initial setup.unwatched source := rfl

/-- An effect that others than those who watch can notice. -/
def Effect.plain? : Effect → Option Effect
  | .updated _ | .stored _ | .heard _ _ | .noted (.batchReceived _) | .noted .updatesAlreadyTaken
  | .noted (.updaterFailed _) => none
  | effect => some effect

/-- The effects that others than those who watch can notice, in order. -/
def plain (effects : List Effect) : List Effect := effects.filterMap Effect.plain?

@[simp] theorem plain_append (effects more : List Effect) :
    plain (effects ++ more) = plain effects ++ plain more :=
  List.filterMap_append

@[simp] theorem unwatched_append (actions others : List Action) :
    unwatched (actions ++ others) = unwatched actions ++ unwatched others :=
  List.filter_append ..

/-- Of the effects of publishing, others than those who watch notice the snapshot and nothing else.
-/
theorem plain_publish (setup : Setup) (state : State) :
    plain (State.publish setup state).2 = [.published (state.shown setup).snapshot] := by
  obtain ⟨storing, effects⟩ := State.publish_snd setup state
  rw [effects]
  change _ :: ((state.tell _ ++ _).filterMap Effect.plain?) = _
  rw [List.filterMap_append, State.unseen_tell state _ (fun _ => rfl),
    State.unseen_store setup storing _ (fun _ => rfl) (fun _ => rfl)]
  rfl

/-- Others than those who watch notice nothing of the line in the log about a batch. -/
theorem plain_received (setup : Setup) (batch : Batch) : plain (State.received setup batch) = [] :=
  State.unseen_received setup batch fun _ => rfl

/-- Others than those who watch notice nothing of the update that is sent at the end of a fetch. -/
theorem plain_conclude (state : State) (fetch : Fetch) (result : FetchResult) :
    plain (state.conclude fetch result).2 = [] :=
  state.unseen_tell _ fun _ => rfl

namespace Deed

variable {setup : Setup} {state next : State} {action : Action} {more : List Effect}

/-- A step by those who watch leaves a state as it is but for what belongs to them, and nobody else
notices anything of it. -/
theorem watched (deed : Deed setup state action next more) (watching : action.watches = true) :
    next.unwatched = state.unwatched ∧ plain more = [] := by
  cases deed with
  | takesUpdates | findsUpdatesTaken | dropsUpdates | findsUpdatesDropped | listens | hears =>
    exact ⟨rfl, rfl⟩
  | _ => cases watching

/-- A step by anyone who does not watch can be taken in every state that is the same but for what
belongs to those who watch, and leads to such a state again, with the same effects for all others.
-/
theorem transfer {second : Setup} {other : State} (deed : Deed setup state action next more)
    (unwatching : action.watches = false) (setups : setup.unwatched = second.unwatched)
    (states : state.unwatched = other.unwatched) :
    ∃ after told, Deed second other action after told ∧ next.unwatched = after.unwatched ∧
      plain more = plain told := by
  obtain ⟨receiver, bridge, stored, rfl⟩ : ∃ receiver bridge stored,
      other = { state with receiver, bridge, stored } := by
    refine ⟨other.receiver, other.bridge, other.stored, ?_⟩
    cases state
    cases other
    cases states
    rfl
  obtain ⟨logDiffs, bridgeCapacity, updater, rfl⟩ : ∃ logDiffs bridgeCapacity updater,
      second =
        { setup with config := { setup.config with logDiffs, bridgeCapacity }, updater } := by
    refine ⟨second.config.logDiffs, second.config.bridgeCapacity, second.updater, ?_⟩
    cases setup with
    | mk config =>
    cases second with
    | mk other =>
    cases config
    cases other
    cases setups
    rfl
  cases deed with
  | subscribesDriven absent driven offered =>
    exact ⟨_, _, .subscribesDriven absent driven offered, rfl, rfl⟩
  | subscribesInVain absent driven missing =>
    exact ⟨_, _, .subscribesInVain absent driven missing, rfl, rfl⟩
  | subscribesUndriven absent undriven =>
    exact ⟨_, _, .subscribesUndriven absent undriven, rfl, rfl⟩
  | subscribesAgain there => exact ⟨_, _, .subscribesAgain there, rfl, rfl⟩
  | waits => exact ⟨_, _, .waits, rfl, rfl⟩
  | joins size found => exact ⟨_, _, .joins size found, rfl, rfl⟩
  | issues size free idle => exact ⟨_, _, .issues size free idle, rfl, rfl⟩
  | declines size free busy => exact ⟨_, _, .declines size free busy, rfl, rfl⟩
  | returns member ready => exact ⟨_, _, .returns member ready, rfl, rfl⟩
  | abandons number known => exact ⟨_, _, .abandons number known, rfl, rfl⟩
  | goes => exact ⟨_, _, .goes, rfl, rfl⟩
  | sendsBatch batch accepts => exact ⟨_, _, .sendsBatch batch accepts, rfl, rfl⟩
  | endsBatches => exact ⟨_, _, .endsBatches, rfl, rfl⟩
  | sendsStatus live accepts => exact ⟨_, _, .sendsStatus live accepts, rfl, rfl⟩
  | endsStatuses => exact ⟨_, _, .endsStatuses, rfl, rfl⟩
  | releases => exact ⟨_, _, .releases, rfl, rfl⟩
  | @endsFetch fetch member alive ending =>
    refine ⟨_, _, @endsFetch _ { state with receiver, bridge, stored } fetch member alive ending,
      rfl, ?_⟩
    rw [plain_append, plain_append, plain_conclude, plain_conclude]
  | @endsLate fetch member gone ending =>
    exact ⟨_, _, @endsLate _ { state with receiver, bridge, stored } fetch member gone ending, rfl,
      rfl⟩
  | crashes member => exact ⟨_, _, .crashes member, rfl, rfl⟩
  | asks starting => exact ⟨_, _, .asks starting, rfl, rfl⟩
  | handsOver asking ready => exact ⟨_, _, .handsOver asking ready, rfl, rfl⟩
  | commits running queue taken =>
    refine ⟨_, _, .commits running queue taken, rfl, ?_⟩
    simp only [plain_append, plain_received, plain_publish]
    rfl
  | refuses running queue refused =>
    refine ⟨_, _, .refuses running queue refused, rfl, ?_⟩
    simp only [plain_append, plain_received]
  | seesBatchesEnd running drained ended unseen =>
    exact ⟨_, _, .seesBatchesEnd running drained ended unseen, rfl, rfl⟩
  | follows running reads queue changed =>
    refine ⟨_, _, .follows running reads queue changed, rfl, ?_⟩
    rw [plain_publish, plain_publish]
    rfl
  | ignores running reads queue unchanged =>
    exact ⟨_, _, .ignores running reads queue unchanged, rfl, rfl⟩
  | seesStatusesEnd running reads drained ended unseen =>
    exact ⟨_, _, .seesStatusesEnd running reads drained ended unseen, rfl, rfl⟩
  | republishes running wished =>
    refine ⟨_, _, .republishes running wished, rfl, ?_⟩
    rw [plain_publish, plain_publish]
    rfl
  | _ => cases unwatching

end Deed

/-! ## Two runs -/

/-- A step as it looks without those who watch: the action, what remains of the state after it, and
the effects that others can notice. -/
structure Stage where
  action : Action
  after : State
  effects : List Effect

/-- The steps of a run that others take than those who watch, as they look without these. -/
def journal (setup : Setup) (start : State) (actions : List Action) : List Stage :=
  ((trail setup start actions).filter fun moment => !moment.action.watches).map fun moment =>
    ⟨moment.action, moment.after.unwatched, plain moment.effects⟩

namespace Run

variable {setup second : Setup} {source : Source} {start middle state next : State}
variable {actions : List Action} {effects more : List Effect} {action : Action}

/-- The state that a run reaches and its effects can be read off its trail: the state after the last
step, and the effects of all. -/
theorem reached_eq (run : Run setup start actions effects state) :
    state = ((trail setup start actions).getLast?.map Moment.after).getD start ∧
      effects = (trail setup start actions).flatMap Moment.effects := by
  induction run with
  | nothing => exact ⟨rfl, rfl⟩
  | further before taken inductionHypothesis =>
    rw [before.trail_concat taken]
    refine ⟨by simp, ?_⟩
    rw [List.flatMap_append, ← inductionHypothesis.2]
    exact congrArg _ (List.append_nil _).symm

/-- The same actions lead from the same start to the same state, with the same effects. -/
theorem deterministic {other : State} (run : Run setup start actions effects state)
    (again : Run setup start actions more other) : state = other ∧ effects = more :=
  ⟨run.reached_eq.1.trans again.reached_eq.1.symm, run.reached_eq.2.trans again.reached_eq.2.symm⟩

/-- A step by those who watch adds nothing to the journal; any other one is entered at its end. -/
theorem journal_concat (run : Run setup start actions effects middle)
    (taken : step setup middle action = some (next, more)) :
    journal setup start (actions ++ [action]) = journal setup start actions ++
      if action.watches then [] else [⟨action, next.unwatched, plain more⟩] := by
  unfold journal
  rw [run.trail_concat taken, List.filter_append, List.map_append]
  cases watching : action.watches <;> simp [watching]

/-- Whatever anyone does in a reachable state who does not watch, can be done in any other reachable
state where the same remains, and leads to where the same remains. -/
theorem possible_too {other : State} {others : List Action} {told : List Effect}
    (run : Run second (State.initial second source) others told other)
    (setups : setup.unwatched = second.unwatched) (states : state.unwatched = other.unwatched)
    (unwatching : action.watches = false) (taken : step setup state action = some (next, more)) :
    ∃ after further, step second other action = some (after, further) ∧
      next.unwatched = after.unwatched ∧ plain more = plain further := by
  obtain ⟨after, further, deed, remains, noticed⟩ :=
    (step_deeds taken).transfer unwatching setups states
  have possible : action.needsController = true → other.dropped = false := by
    intro needed
    rw [← alive_of_step taken needed]
    exact (congrArg State.dropped states).symm
  exact ⟨after, further, deed.taken possible run.attended.distinct run.lane_sound.1.distinct,
    remains, noticed⟩

/-- To each run there is one under any setup that differs in what watches only, in which nobody
watches and everybody else acts as in the given one. In the end the same remains, and both have the
same journal. -/
theorem exists_unwatched (run : Run setup (State.initial setup source) actions effects state)
    (setups : setup.unwatched = second.unwatched) :
    ∃ told last, Run second (State.initial second source) (unwatched actions) told last ∧
      state.unwatched = last.unwatched ∧ plain effects = plain told ∧
      journal setup (State.initial setup source) actions =
        journal second (State.initial second source) (unwatched actions) := by
  induction run with
  | nothing =>
    refine ⟨_, _, .nothing, ?_, rfl, rfl⟩
    rw [State.unwatched_initial, State.unwatched_initial, setups]
  | @further actions effects more state next action before taken inductionHypothesis =>
    obtain ⟨told, last, other, remains, noticed, same⟩ := inductionHypothesis
    rw [before.journal_concat taken, unwatched_append, plain_append]
    cases watching : action.watches with
    | true =>
      obtain ⟨nothingMoves, silent⟩ := (step_deeds taken).watched watching
      have nobody : unwatched [action] = [] := by simp [unwatched, watching]
      rw [nobody, silent, List.append_nil, List.append_nil, if_pos rfl, List.append_nil]
      exact ⟨told, last, other, nothingMoves.trans remains, noticed, same⟩
    | false =>
      obtain ⟨after, further, again, left, heard⟩ :=
        other.possible_too setups remains watching taken
      have somebody : unwatched [action] = [action] := by simp [unwatched, watching]
      rw [somebody, other.journal_concat again, watching, same, left, heard]
      refine ⟨told ++ further, after, other.further again, rfl, ?_, rfl⟩
      rw [plain_append, noticed]

end Run

/-! ## The state updater -/

/-- The snapshot that the state updater is given. -/
def Effect.given? : Effect → Option Snapshot
  | .stored snapshot => some snapshot
  | _ => none

/-- The snapshots that the state updater is given, in order. -/
def given (effects : List Effect) : List Snapshot := effects.filterMap Effect.given?

@[simp] theorem given_append (effects more : List Effect) :
    given (effects ++ more) = given effects ++ given more :=
  List.filterMap_append

/-- If there is an updater, then it is given just what is published. -/
def Setup.Gives (setup : Setup) (effects : List Effect) : Prop :=
  given effects = if setup.updater.isSome then published effects else []

namespace Setup.Gives

variable {setup : Setup} {effects more : List Effect}

/-- If the updater is given what is published in two parts of the effects, it is so in both
together. -/
theorem append (first : setup.Gives effects) (second : setup.Gives more) :
    setup.Gives (effects ++ more) := by
  unfold Gives at *
  rw [given_append, published_append, first, second]
  split <;> rfl

/-- Where nothing is given to the updater and nothing is published, the updater is given what is
published. -/
theorem of_silent (silent : given effects = []) (quiet : published effects = []) :
    setup.Gives effects := by
  unfold Gives
  rw [silent, quiet, ite_self]

/-- Publishing a snapshot gives it to the updater once, whatever the updater answers. -/
theorem publish (setup : Setup) (state : State) : setup.Gives (State.publish setup state).2 := by
  unfold Gives
  obtain ⟨shown, -⟩ := State.observed_publish setup state
  obtain ⟨storing, effects⟩ := State.publish_snd setup state
  have told : given (State.publish setup state).2 =
      given (State.store setup storing (state.shown setup).snapshot).2 := by
    rw [effects]
    change given (state.tell _ ++ _) = _
    rw [given_append, given, State.unseen_tell state _ (fun _ => rfl), List.nil_append]
  rw [told, shown]
  unfold State.store
  cases updater : setup.updater with
  | none => rfl
  | some store =>
    dsimp only
    cases store storing.stored (state.shown setup).snapshot <;> rfl

end Setup.Gives

/-- At every step the updater is given what is published. -/
theorem Deed.gives {setup : Setup} {state next : State} {action : Action} {more : List Effect}
    (deed : Deed setup state action next more) : setup.Gives more := by
  cases deed with
  | endsFetch member alive ending =>
    exact .of_silent (State.unseen_conclude _ _ _ (fun _ => rfl) (fun _ => rfl))
      (State.unseen_conclude _ _ _ (fun _ => rfl) (fun _ => rfl))
  | endsLate member gone ending =>
    exact .of_silent (State.unseen_logged _ fun _ => rfl) (State.unseen_logged _ fun _ => rfl)
  | @commits batch rest outcome running queue taken =>
    unfold Setup.Gives given published
    rw [State.unseen_committed setup batch _ _ _ (fun _ => rfl) (fun _ => rfl) rfl,
      State.unseen_committed setup batch _ _ _ (fun _ => rfl) (fun _ => rfl) rfl]
    exact Setup.Gives.publish setup _
  | refuses running queue refused =>
    exact .of_silent (State.unseen_refused setup _ _ _ (fun _ => rfl) rfl)
      (State.unseen_refused setup _ _ _ (fun _ => rfl) rfl)
  | seesBatchesEnd running drained ended unseen =>
    exact .of_silent (State.unseen_firstOpening _ rfl) (State.unseen_firstOpening _ rfl)
  | follows | republishes => exact .publish setup _
  | _ => exact .of_silent rfl rfl

/-- In every run the updater is given what is published. -/
theorem Run.gives {setup : Setup} {start state : State} {actions : List Action}
    {effects : List Effect} (run : Run setup start actions effects state) :
    setup.Gives effects := by
  induction run with
  | nothing => exact .of_silent rfl rfl
  | further before taken inductionHypothesis =>
    exact inductionHypothesis.append (step_deeds taken).gives

/-- Take two runs of controllers with the same source, whose setups differ at most in the state
updater, in whether batches are logged and in the capacity of the bridge; in which those who watch
do whatever they like and all others do the same.
- Both runs have the same journal: at each step of the others the same is published, fetched,
  emitted, answered and logged, and in the state after it the pagination status, the last snapshot,
  the collection, the calls and all else are the same but for the update receiver, the bridge and
  the count of snapshots given to the updater.
- In the end the same remains, and whatever the others can do next in the one, they can do in the
  other, with the same result.
- A state updater is given just the snapshots that are published, each of them once and in order,
  whatever it answers. -/
theorem watchers_change_nothing {first second : Setup} {source : Source}
    {actions others : List Action} {effects told : List Effect} {state other : State}
    (run : Run first (State.initial first source) actions effects state)
    (beside : Run second (State.initial second source) others told other)
    (setups : first.unwatched = second.unwatched) (same : unwatched actions = unwatched others) :
    journal first (State.initial first source) actions =
      journal second (State.initial second source) others ∧
    plain effects = plain told ∧ state.unwatched = other.unwatched ∧
    (∀ {action : Action} {next : State} {more : List Effect}, action.watches = false →
      step first state action = some (next, more) →
        ∃ after further, step second other action = some (after, further) ∧
          next.unwatched = after.unwatched ∧ plain more = plain further) ∧
    given effects = if first.updater.isSome then published effects else [] := by
  -- both runs are compared to those under the first setup in which nobody watches
  obtain ⟨alone, last, quiet, remains, noticed, entered⟩ := run.exists_unwatched rfl
  obtain ⟨aloneToo, lastToo, quietToo, remainsToo, noticedToo, enteredToo⟩ :=
    beside.exists_unwatched setups.symm
  rw [← same] at quietToo enteredToo
  obtain ⟨rfl, rfl⟩ := quiet.deterministic quietToo
  have states := remains.trans remainsToo.symm
  exact ⟨entered.trans enteredToo.symm, noticed.trans noticedToo.symm, states,
    fun unwatching taken => beside.possible_too setups states unwatching taken, run.gives⟩

/-- The newest entries of a room, with a state updater that always fails, with batches logged and
with room for a single event in the bridge. -/
def Setup.overseen : Setup :=
  { config := { Config.ofKind .live with logDiffs := true, bridgeCapacity := 1 }
    updater := some fun _ _ => some "full" }

/-- Two people join, the source clears the timeline, and someone asks for older entries: once
without anyone who watches and once before everyone who can. Someone holds the update receiver for a
while; someone listens, and hears the second event only, since the bridge keeps one; and the updater
is given both snapshots although it fails each time. Nothing else differs. -/
theorem watchers_change_nothing_of_overseen :
    ∃ actions effects state others told other,
      Run Setup.ordinary (State.initial Setup.ordinary {}) actions effects state ∧
      Run Setup.overseen (State.initial Setup.overseen {}) others told other ∧
      Setup.ordinary.unwatched = Setup.overseen.unwatched ∧ unwatched actions = unwatched others ∧
      effects.length = 8 ∧ told.length = 17 ∧
      journal Setup.ordinary (State.initial Setup.ordinary {}) actions =
        journal Setup.overseen (State.initial Setup.overseen {}) others ∧
      plain effects = plain told ∧ issued told = [(.backwards, 20)] ∧
      (published told).length = 2 ∧ given told = published told := by
  let batch : Batch := [.append [joining "a", joining "b"]]
  let actions := [Action.start .subscribe, .ask, .handOver, .sendBatch batch, .takeBatch,
    .sendBatch [.clear], .takeBatch, .start (.paginate .backwards 20)]
  let others := [Action.takeUpdates, .listen, .start .subscribe, .ask, .handOver, .sendBatch batch,
    .takeBatch, .dropUpdates, .sendBatch [.clear], .hear 0, .takeBatch,
    .start (.paginate .backwards 20)]
  let reached := (State.initial Setup.ordinary {}).steps Setup.ordinary actions
  let seen := (State.initial Setup.overseen {}).steps Setup.overseen others
  have run : Run Setup.ordinary (State.initial Setup.ordinary {}) actions reached.1.2 reached.1.1 :=
    Run.of_steps (by cbv)
  have beside : Run Setup.overseen (State.initial Setup.overseen {}) others seen.1.2 seen.1.1 :=
    Run.of_steps (by cbv)
  have setups : Setup.ordinary.unwatched = Setup.overseen.unwatched := rfl
  have same : unwatched actions = unwatched others := rfl
  obtain ⟨entered, noticed, -, -, -⟩ := watchers_change_nothing run beside setups same
  obtain ⟨-, -, -, -, gives⟩ := watchers_change_nothing beside run setups.symm same.symm
  exact ⟨actions, reached.1.2, reached.1.1, others, seen.1.2, seen.1.1, run, beside, setups, same,
    by cbv, by cbv, entered, noticed, by cbv, by cbv, gives⟩

end RoomTimeline.Controller
