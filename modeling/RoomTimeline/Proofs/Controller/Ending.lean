import RoomTimeline.Proofs.Controller.Gate
import RoomTimeline.Proofs.Controller.Lanes

/-!
# How long a direction stays at its end

A direction that has reached its end should stay there until the source starts anew or pushes
another status, and whoever asks for more entries should be told at once that there are none. Both
hold unless a fetch that was issued before is still in flight (`endReached_lasts_iff`): on a
timeline whose source pushes statuses the end can be pushed while a fetch runs. When this fetch
comes to a result, the direction goes where the result says, whatever its status is by then; and
until that, callers join the fetch rather than be told that there is nothing to load.
-/

namespace RoomTimeline.Controller

/-! ## Runs that leave the end in force -/

/-- What lets a direction load again that has reached its end: the worker commits a batch with a
reset, or a direction that follows pushed statuses is told of another one. -/
inductive State.Reopens (state : State) (direction : Direction) : Action → Prop
  | reset {batch : Batch} {rest : List Batch} {outcome : Outcome}
      (queue : state.source.batches.queue = batch :: rest)
      (taken : applyBatch state.worker.serial state.worker.items batch = .ok outcome)
      (reset : outcome.didReset = true) : Reopens state direction .takeBatch
  | pushed {live : LiveStatus} {rest : List LiveStatus}
      (follows : state.machine.Follows direction)
      (queue : state.source.statuses.queue = live :: rest) (other : live ≠ .idle true) :
      Reopens state direction .takeStatus

/-- A run during which nothing lets the direction load again. -/
abbrev Undisturbed (setup : Setup) (direction : Direction) (start : State) (actions : List Action)
    (effects : List Effect) (state : State) : Prop :=
  Within setup (fun state action => ¬ state.Reopens direction action) start actions effects state

/-- Whoever asks for more entries in the direction, and however many, is told at once that there is
nothing to load, and nothing is fetched. -/
def State.Declines (setup : Setup) (state : State) (direction : Direction) : Prop :=
  ∀ size, ∃ next after,
    step setup state (.start (.paginate direction size)) = some (next, []) ∧
      step setup next (.resume state.nextCall) =
        some (after, [.returned state.nextCall (.ok ())])

/-- A controller that is gone is still gone after a step. -/
theorem Deed.dropped {setup : Setup} {state next : State} {action : Action} {more : List Effect}
    (deed : Deed setup state action next more) (gone : state.dropped = true) :
    next.dropped = true := by
  cases deed with
  | goes => rfl
  | _ => exact gone

/-- A controller that is gone is still gone after a run. -/
theorem Run.dropped {setup : Setup} {start state : State} {actions : List Action}
    {effects : List Effect} (run : Run setup start actions effects state)
    (gone : start.dropped = true) : state.dropped = true :=
  run.invariant (fun reached => reached.dropped = true) gone
    fun _ _ _ _ gone taken => (step_deeds taken).dropped gone

/-- A step that does not let the direction load again leaves it at its end, unless a fetch comes to
its result; and callers share no fetch that they did not share before. -/
theorem Drive.stays_ended {state : State} {direction : Direction} {action : Action} {lane : Lane}
    (drive : Drive state direction action lane) (calm : ¬ state.Reopens direction action)
    (ended : (state.machine.get direction).status = .endReached)
    (settled : state.dropped = true ∨ (state.lane direction).flying = []) :
    lane.side.status = .endReached ∧ (state.dropped = true ∨ lane.flying = []) ∧
      ((state.lane direction).slot = none → (state.lane direction).flying = [] →
        lane.slot = none) := by
  cases drive with
  | still deaf => exact ⟨ended, settled, fun free _ => free⟩
  | issues size free idle =>
    rw [ended] at idle
    cases idle
  | ends flying alive ending =>
    rcases settled with gone | none
    · rw [alive] at gone
      cases gone
    · rw [none] at flying
      cases flying
  | late flying gone ending => exact ⟨ended, Or.inl gone, fun free _ => free⟩
  | crashes flying =>
    have absent : (state.lane direction).flying ≠ [] := List.ne_nil_of_mem flying
    exact ⟨ended, Or.inl (settled.resolve_right absent), fun _ none => absurd none absent⟩
  | resets queue taken reset => exact absurd (State.Reopens.reset queue taken reset) calm
  | @hears live rest reads queue =>
    refine ⟨?_, settled, fun free _ => free⟩
    by_cases follows : state.machine.Follows direction
    · have pushed : live = .idle true := by
        by_contra other
        exact calm (.pushed follows queue other)
      rw [Machine.status_push follows, pushed]
      rfl
    · rw [Machine.get_push_of_deaf follows]
      exact ended

/-- Without a fetch in flight, or with the controller gone, a direction at its end stays there
during an undisturbed run; and where callers share no fetch they go on sharing none. -/
theorem Within.stays_ended {setup : Setup} {start state : State} {direction : Direction}
    {actions : List Action} {effects : List Effect}
    (run : Undisturbed setup direction start actions effects state) (counted : start.Counted)
    (sound : (start.lane direction).Sound)
    (ended : (start.machine.get direction).status = .endReached)
    (settled : start.dropped = true ∨ (start.lane direction).flying = []) :
    (state.machine.get direction).status = .endReached ∧
      ((start.lane direction).slot = none → (state.lane direction).slot = none) := by
  suffices kept : state.Counted ∧ (state.lane direction).Sound ∧
      (state.machine.get direction).status = .endReached ∧
      (state.dropped = true ∨ (state.lane direction).flying = []) ∧
      ((start.lane direction).slot = none → (state.lane direction).slot = none) from
    ⟨kept.2.2.1, kept.2.2.2.2⟩
  induction run with
  | nothing => exact ⟨counted, sound, ended, settled, id⟩
  | further before calm taken inductionHypothesis =>
    obtain ⟨counted, sound, ended, settled, free⟩ := inductionHypothesis
    have deed := step_deeds taken
    have drive := deed.drives counted.distinct direction
    obtain ⟨stays, quiet, shares⟩ := drive.stays_ended calm ended settled
    exact ⟨deed.counted counted, drive.sound sound, stays, quiet.imp_left deed.dropped,
      fun unshared => shares (free unshared) (sound.flying_of_free (free unshared))⟩

/-! ## What callers are told -/

section Callers

variable {setup : Setup} {state : State} {direction : Direction}

/-- Where a direction is at its end and callers share no fetch, whoever asks for more is told at
once that there is nothing to load. -/
theorem State.declines_of_free (alive : state.dropped = false) {told : List Nat}
    (attended : state.hall.Attended told)
    (ended : (state.machine.get direction).status = .endReached)
    (free : state.shared.get direction = none) : state.Declines setup direction := by
  intro size
  have started : step setup state (.start (.paginate direction size)) =
      some (state.enter (.paginate direction size) (.done (.ok ())), []) := by
    simp [step, alive, State.start, State.paginate, free, Machine.begin_of_endReached ended]
  have entered : (state.enter (.paginate direction size) (.done (.ok ()))).hall =
      state.hall.enter (.paginate direction size) (.done (.ok ())) := rfl
  have distinct := (entered ▸ attended.enter (.paginate direction size) (.done (.ok ()))).distinct
  have returned : (state.enter (.paginate direction size) (.done (.ok ()))).resume state.nextCall =
      some (_, [.returned state.nextCall (.ok ())]) :=
    State.resume_eq distinct (List.mem_append_right _ (List.mem_singleton_self _)) rfl
  exact ⟨_, _, started, by simpa [step, State.enter, alive] using returned⟩

/-- Where callers share a fetch, whoever asks for more joins it and is not told at once that there
is nothing to load. -/
theorem State.not_declines_of_found {told : List Nat} (attended : state.hall.Attended told)
    {request : SharedFetch} (found : state.shared.get direction = some request) :
    ¬ state.Declines setup direction := by
  intro declines
  obtain ⟨next, after, started, returned⟩ := declines 1
  obtain ⟨alive, moved⟩ := State.eq_of_start started
  obtain ⟨wait, joined, impatient⟩ : ∃ wait,
      next = state.enter (.paginate direction 1) wait ∧ wait ≠ .gate ∧ wait ≠ .done (.ok ()) := by
    refine ⟨if request.crashed then .done (.error .aborted) else .fetch request.fetch, ?_, ?_⟩
    · have same := congrArg Prod.fst moved
      simpa [State.start, State.paginate, found] using same.symm
    · split <;> simp
  have resumed : next.resume state.nextCall =
      some (after, [.returned state.nextCall (.ok ())]) := by
    unfold step at returned
    split at returned
    · cases returned
    · exact returned
  obtain ⟨call, member, number, result, answered, moved⟩ := State.eq_of_resume resumed
  obtain rfl : result = .ok () := by simpa using (congrArg Prod.snd moved).symm
  subst joined
  rcases List.mem_append.mp member with old | new
  · exact absurd number (Nat.ne_of_lt (attended.bound call old))
  · obtain rfl := List.mem_singleton.mp new
    unfold State.result? at answered
    cases wait with
    | gate => exact impatient.1 rfl
    | fetch number => cases answered
    | done result =>
      cases answered
      exact impatient.2 rfl

end Callers

/-! ## The end of a fetch -/

/-- A fetch in flight can end while the controller is there, and its direction goes where the result
says. -/
theorem State.exists_ended (setup : Setup) {state : State} {direction : Direction} {fetch : Fetch}
    (counted : state.Counted) (alive : state.dropped = false)
    (flying : fetch ∈ (state.lane direction).flying) (ending : FetchEnd) :
    ∃ next more, step setup state (.endFetch fetch.number ending) = some (next, more) ∧
      next.machine.get direction =
        ((state.machine.get direction).finish (ending.result direction)).2 := by
  obtain ⟨member, rfl⟩ := mem_inFlight.mp flying
  have found := fetch?_of_mem counted.distinct member
  have ended : step setup state (.endFetch fetch.number ending) =
      some ((conclude (state.forget fetch.number) fetch (ending.result fetch.direction)).after
        (logged (ending.result fetch.direction))) := by
    simp [step, Action.needsController, endFetch, found, alive]
  exact ⟨_, _, ended, Sides.get_set_self ..⟩

/-- How long a direction stays at its end, in every reachable state in which it is there.
- It stays, whatever happens without disturbing it, just if no fetch of the direction is in flight
  (or the controller is gone). Otherwise that fetch need only come to a result.
- Whoever asks for more entries then is told at once that there is nothing to load, just if callers
  share no fetch of the direction, neither one in flight nor one that has crashed.
- Where the direction does not follow pushed statuses, none is shared. So both always hold there.

What an undisturbed run does to the direction is told by `Within.stays_ended`, a run lemma over
`Drive.stays_ended`. -/
theorem endReached_lasts_iff {setup : Setup} {source : Source} {state : State}
    {direction : Direction} {actions : List Action} {effects : List Effect}
    (run : Run setup (State.initial setup source) actions effects state)
    (ended : (state.machine.get direction).status = .endReached) :
    ((∀ {others : List Action} {more : List Effect} {last : State},
        Undisturbed setup direction state others more last →
          (last.machine.get direction).status = .endReached) ↔
      state.dropped = true ∨ inFlight state.fetches direction = []) ∧
    ((∀ {others : List Action} {more : List Effect} {last : State},
        Undisturbed setup direction state others more last → last.dropped = false →
          last.Declines setup direction) ↔
      state.dropped = true ∨ state.shared.get direction = none) ∧
    ((state.machine.get direction).mode ≠ .pushDriven →
      state.shared.get direction = none ∧ inFlight state.fetches direction = []) := by
  obtain ⟨counted, lanes⟩ := run.lane_sound
  have sound := lanes direction
  refine ⟨⟨?_, ?_⟩, ⟨?_, ?_⟩, ?_⟩
  · intro lasts
    by_contra both
    obtain ⟨there, busy⟩ := not_or.mp both
    have alive : state.dropped = false := Bool.eq_false_iff.mpr there
    obtain ⟨fetch, flying⟩ := List.exists_mem_of_ne_nil _ busy
    obtain ⟨next, more, taken, side⟩ :=
      State.exists_ended setup counted alive flying (.loaded false)
    have calm : ¬ state.Reopens direction (.endFetch fetch.number (.loaded false)) := by rintro ⟨⟩
    have stays := lasts (Within.nothing.further calm taken)
    have idle : (next.machine.get direction).status = .idle := by
      rw [side]
      exact DirectionState.status_move (sound.free_of_mem flying) .idle
    rw [idle] at stays
    cases stays
  · intro settled others more last undisturbed
    exact (undisturbed.stays_ended counted sound ended settled).1
  · intro declines
    by_contra both
    obtain ⟨there, shared⟩ := not_or.mp both
    obtain ⟨request, found⟩ := Option.ne_none_iff_exists'.mp shared
    exact State.not_declines_of_found run.attended found
      (declines Within.nothing (Bool.eq_false_iff.mpr there))
  · intro settled others more last undisturbed alive
    have there : state.dropped ≠ true := by
      intro gone
      have later := undisturbed.run.dropped gone
      rw [alive] at later
      cases later
    have free := settled.resolve_left there
    obtain ⟨stays, shares⟩ :=
      undisturbed.stays_ended counted sound ended (Or.inr (sound.flying_of_free free))
    exact State.declines_of_free alive (run.append undisturbed.run).attended stays (shares free)
  · intro undriven
    have free : (state.lane direction).slot = none := by
      by_contra shared
      have paginating := (sound.driven undriven).mpr shared
      rw [State.lane, ended] at paginating
      cases paginating
    exact ⟨free, sound.flying_of_free free⟩

/-- Someone has loaded older entries up to the first one. From then on the direction stays at its
end, and callers are told so. -/
theorem endReached_lasts_iff_of_loaded :
    ∃ actions effects state,
      Run Setup.ordinary (State.initial Setup.ordinary {}) actions effects state ∧
      (state.machine.get .backwards).status = .endReached ∧
      (∀ {others : List Action} {more : List Effect} {last : State},
        Undisturbed Setup.ordinary .backwards state others more last →
          (last.machine.get .backwards).status = .endReached) ∧
      ∀ {others : List Action} {more : List Effect} {last : State},
        Undisturbed Setup.ordinary .backwards state others more last → last.dropped = false →
          last.Declines Setup.ordinary .backwards := by
  let actions := opening ++ [.start (.paginate .backwards 20), .endFetch 0 (.loaded true)]
  let reached := (State.initial Setup.ordinary {}).steps Setup.ordinary actions
  have run : Run Setup.ordinary (State.initial Setup.ordinary {}) actions reached.1.2 reached.1.1 :=
    Run.of_steps (by cbv)
  have ended : (reached.1.1.machine.get .backwards).status = .endReached := by cbv
  have landed : inFlight reached.1.1.fetches .backwards = [] := by cbv
  have free : reached.1.1.shared.get .backwards = none := by cbv
  obtain ⟨lasts, declines, -⟩ := endReached_lasts_iff run ended
  exact ⟨actions, reached.1.2, reached.1.1, run, ended, lasts.mpr (Or.inr landed),
    declines.mpr (Or.inr free)⟩

/-- The source pushes that older entries are at their end while a fetch is in flight. Who asks for
more then is not told so but joins the fetch; and when the fetch has loaded some entries and knows
of more, the direction is idle again, although the source has neither started anew nor pushed
another status. -/
theorem endReached_is_left :
    ∃ actions effects state others more last,
      Run Setup.ordinary (State.initial Setup.ordinary {}) actions effects state ∧
      (state.machine.get .backwards).status = .endReached ∧
      ¬ state.Declines Setup.ordinary .backwards ∧
      Undisturbed Setup.ordinary .backwards state others more last ∧
      (last.machine.get .backwards).status = .idle := by
  let actions := opening ++ [.start (.paginate .backwards 20), .sendStatus (.idle true),
    .takeStatus]
  let reached := (State.initial Setup.ordinary {}).steps Setup.ordinary actions
  let ended := reached.1.1.steps Setup.ordinary [.endFetch 0 (.loaded false)]
  have run : Run Setup.ordinary (State.initial Setup.ordinary {}) actions reached.1.2 reached.1.1 :=
    Run.of_steps (by cbv)
  have shared : reached.1.1.shared.get .backwards = some ⟨0, false⟩ := by cbv
  have taken : step Setup.ordinary reached.1.1 (.endFetch 0 (.loaded false)) =
      some (ended.1.1, ended.1.2) := by
    cbv
  have calm : ¬ reached.1.1.Reopens .backwards (.endFetch 0 (.loaded false)) := by rintro ⟨⟩
  exact ⟨actions, reached.1.2, reached.1.1, _, _, ended.1.1, run, by cbv,
    State.not_declines_of_found run.attended shared, Within.nothing.further calm taken, by cbv⟩

end RoomTimeline.Controller
