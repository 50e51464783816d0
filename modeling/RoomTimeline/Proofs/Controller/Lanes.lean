import RoomTimeline.Proofs.Controller.Deeds
import RoomTimeline.Proofs.Controller.Fetches

/-!
# One direction of a controller

The lane of a direction holds its pagination status, the fetch that callers share and the fetches in
flight. `Drive` lists what a step can do to a lane, for any step, also when a fetch crashes or the
controller is gone. At most one fetch is in flight in a lane, and then it is the one that callers
share, in every reachable state (`Run.lane_sound`).
-/

namespace RoomTimeline.Controller

/-- What a controller holds for one direction. -/
structure Lane where
  side : DirectionState
  slot : Option SharedFetch
  flying : List Fetch

/-- The lane of a direction. -/
def State.lane (state : State) (direction : Direction) : Lane :=
  ⟨state.machine.get direction, state.shared.get direction, inFlight state.fetches direction⟩

/-- The lane of a direction without a fetch that has gone. -/
def Lane.without (lane : Lane) (number : Nat) : Lane :=
  { lane with flying := lane.flying.filter fun fetch => fetch.number ≠ number }

/-- What a step can do to the lane of a direction: the action, and the lane after it. -/
inductive Drive (state : State) (direction : Direction) : Action → Lane → Prop
  | still {action : Action} (deaf : action ≠ .takeStatus) :
      Drive state direction action (state.lane direction)
  | issues (size : UInt16) (free : state.shared.get direction = none)
      (idle : (state.machine.get direction).status = .idle) :
      Drive state direction (.start (.paginate direction size))
        { side := { state.machine.get direction with status := .paginating }
          slot := some ⟨state.nextFetch, false⟩
          flying := inFlight state.fetches direction ++
            [⟨state.nextFetch, direction, boundedSize size⟩] }
  | ends {fetch : Fetch} (flying : fetch ∈ (state.lane direction).flying)
      (alive : state.dropped = false) (ending : State.FetchEnd) :
      Drive state direction (.endFetch fetch.number ending)
        { (state.lane direction).without fetch.number with
          side := ((state.machine.get direction).finish (ending.result direction)).2
          slot := none }
  | late {fetch : Fetch} (flying : fetch ∈ (state.lane direction).flying)
      (gone : state.dropped = true) (ending : State.FetchEnd) :
      Drive state direction (.endFetch fetch.number ending)
        ((state.lane direction).without fetch.number)
  | crashes {fetch : Fetch} (flying : fetch ∈ (state.lane direction).flying) :
      Drive state direction (.crashFetch fetch.number)
        { (state.lane direction).without fetch.number with slot := some ⟨fetch.number, true⟩ }
  | resets {batch : Batch} {rest : List Batch} {outcome : Outcome}
      (queue : state.source.batches.queue = batch :: rest)
      (taken : applyBatch state.worker.serial state.worker.items batch = .ok outcome)
      (reset : outcome.didReset = true) :
      Drive state direction .takeBatch
        { state.lane direction with side := (state.machine.get direction).reset.2 }
  | hears {live : LiveStatus} {rest : List LiveStatus} (reads : state.source.statuses.taken = true)
      (queue : state.source.statuses.queue = live :: rest) :
      Drive state direction .takeStatus
        { state.lane direction with side := (state.machine.push live).2.get direction }

/-! ## The lane after a fetch has left -/

section Leaving

variable {state : State} {fetch : Fetch} {direction : Direction}

/-- A fetch that the source works on is in flight in its own direction. -/
theorem mem_flying (member : fetch ∈ state.fetches) :
    fetch ∈ (state.lane fetch.direction).flying :=
  mem_inFlight.mpr ⟨member, rfl⟩

variable (state)

/-- When a fetch goes, a direction that is not its own keeps its lane. -/
theorem lane_of_apart {next : State} {side : DirectionState} {slot : Option SharedFetch}
    (distinct : (state.fetches.map Fetch.number).Nodup) (member : fetch ∈ state.fetches)
    (machine : next.machine = state.machine.set fetch.direction side)
    (shared : next.shared = state.shared.set fetch.direction slot)
    (fetches : next.fetches = state.fetches.filter fun other => other.number ≠ fetch.number)
    (apart : direction ≠ fetch.direction) : next.lane direction = state.lane direction := by
  unfold State.lane
  rw [machine, shared, fetches, Sides.get_set_of_ne _ _ apart, Sides.get_set_of_ne _ _ apart,
    inFlight_remove_other distinct member apart]

/-- When a fetch goes, the lane of its own direction loses it, and takes on the state and the
request that have been stored for the direction. -/
theorem lane_of_own {next : State} {side : DirectionState} {slot : Option SharedFetch}
    (machine : next.machine = state.machine.set fetch.direction side)
    (shared : next.shared = state.shared.set fetch.direction slot)
    (fetches : next.fetches = state.fetches.filter fun other => other.number ≠ fetch.number) :
    next.lane fetch.direction =
      { (state.lane fetch.direction).without fetch.number with side, slot } := by
  unfold State.lane
  rw [machine, shared, fetches, Sides.get_set_self, Sides.get_set_self, inFlight_remove]
  rfl

end Leaving

namespace Deed

variable {setup : Setup} {state next : State} {action : Action} {more : List Effect}

/-- Every step is one of the things that a step can do to the lane of a direction. -/
theorem drives (deed : Deed setup state action next more)
    (distinct : (state.fetches.map Fetch.number).Nodup) (direction : Direction) :
    Drive state direction action (next.lane direction) := by
  cases deed with
  | @issues towards size free idle =>
    by_cases same : direction = towards
    · subst same
      have lane : ((state.fetching direction size).enter (.paginate direction size)
          (.fetch state.nextFetch)).lane direction =
          { side := { state.machine.get direction with status := .paginating }
            slot := some ⟨state.nextFetch, false⟩
            flying := inFlight state.fetches direction ++
              [⟨state.nextFetch, direction, boundedSize size⟩] } := by
        simp [State.lane, State.fetching, State.enter, inFlight_concat]
      rw [lane]
      exact .issues size free idle
    · have lane : ((state.fetching towards size).enter (.paginate towards size)
          (.fetch state.nextFetch)).lane direction = state.lane direction := by
        simp [State.lane, State.fetching, State.enter, inFlight_concat, Ne.symm same,
          Sides.get_set_of_ne _ _ same]
      rw [lane]
      exact .still (by simp)
  | @endsFetch fetch member alive ending =>
    by_cases same : direction = fetch.direction
    · subst same
      rw [lane_of_own state rfl rfl rfl]
      exact .ends (mem_flying member) alive ending
    · rw [lane_of_apart state distinct member rfl rfl rfl same]
      exact .still (by simp)
  | @endsLate fetch member gone ending =>
    by_cases same : direction = fetch.direction
    · subst same
      have own : (state.forget fetch.number).lane fetch.direction =
          (state.lane fetch.direction).without fetch.number :=
        lane_of_own state (Sides.set_get ..).symm (Sides.set_get ..).symm rfl
      rw [own]
      exact .late (mem_flying member) gone ending
    · have other : (state.forget fetch.number).lane direction = state.lane direction :=
        lane_of_apart state distinct member (Sides.set_get ..).symm (Sides.set_get ..).symm rfl same
      rw [other]
      exact .still (by simp)
  | @crashes fetch member =>
    by_cases same : direction = fetch.direction
    · subst same
      have own : (state.crashed fetch).lane fetch.direction =
          { (state.lane fetch.direction).without fetch.number with
            slot := some ⟨fetch.number, true⟩ } :=
        lane_of_own state (Sides.set_get ..).symm rfl rfl
      rw [own]
      exact .crashes (mem_flying member)
    · have other : (state.crashed fetch).lane direction = state.lane direction :=
        lane_of_apart state distinct member (Sides.set_get ..).symm rfl rfl same
      rw [other]
      exact .still (by simp)
  | @commits batch rest outcome running queue taken =>
    cases reset : outcome.didReset with
    | true =>
      have lane : (State.committed setup { state with source.batches.queue := rest }
          outcome).lane direction =
          { state.lane direction with side := (state.machine.get direction).reset.2 } := by
        cases direction <;>
          simp [State.lane, State.committed, State.shown, State.grown, reset, Machine.reset,
            Sides.get]
      rw [lane]
      exact .resets queue taken reset
    | false =>
      have lane : (State.committed setup { state with source.batches.queue := rest }
          outcome).lane direction = state.lane direction := by
        simp [State.lane, State.committed, State.shown, State.grown, reset]
      rw [lane]
      exact .still (by simp)
  | follows running reads queue changed => exact .hears reads queue
  | ignores running reads queue unchanged =>
    have heard : Drive state direction .takeStatus
        { state.lane direction with side := (state.machine.push _).2.get direction } :=
      .hears reads queue
    rw [Machine.push_of_unchanged unchanged] at heard
    exact heard
  | _ => exact .still (by simp)

end Deed

namespace Drive

variable {state : State} {direction : Direction} {action : Action} {lane : Lane}

/-- No step changes the mode of a direction. -/
theorem mode (drive : Drive state direction action lane) :
    lane.side.mode = (state.machine.get direction).mode := by
  cases drive with
  | ends flying alive ending => exact DirectionState.mode_finish ..
  | resets queue taken reset => exact DirectionState.mode_reset _
  | hears reads queue => exact Machine.mode_push_get ..
  | still | issues | late | crashes => rfl

end Drive

/-! ## At most one fetch in flight -/

namespace Lane

/-- A fetch in flight is the only one of its lane and the one that callers share. A direction that
cannot move is at its end; and one that follows no pushed statuses is paginating just while callers
share a fetch. -/
structure Sound (lane : Lane) : Prop where
  single : lane.flying = [] ∨
    ∃ fetch, lane.flying = [fetch] ∧ lane.slot = some ⟨fetch.number, false⟩
  fixed : lane.side.mode = .fixed → lane.side.status = .endReached
  driven : lane.side.mode ≠ .pushDriven → (lane.side.status = .paginating ↔ lane.slot ≠ none)

namespace Sound

variable {lane : Lane}

/-- In a sound lane where callers share no fetch none is in flight. -/
theorem flying_of_free (sound : lane.Sound) (free : lane.slot = none) : lane.flying = [] := by
  rcases sound.single with none | ⟨fetch, -, shared⟩
  · exact none
  · rw [free] at shared
    cases shared

/-- When a fetch of a sound lane goes nothing is in flight there any more. -/
theorem without (sound : lane.Sound) {fetch : Fetch} (member : fetch ∈ lane.flying) :
    (lane.without fetch.number).flying = [] := by
  rcases sound.single with none | ⟨other, only, -⟩
  · rw [none] at member
    cases member
  · unfold Lane.without
    rw [only] at member ⊢
    rw [List.mem_singleton.mp member]
    simp

/-- The direction of a sound lane that is not at its end can move. -/
theorem free_of_ne (sound : lane.Sound) (going : lane.side.status ≠ .endReached) :
    lane.side.mode ≠ .fixed :=
  fun fixed => going (sound.fixed fixed)

/-- A fetch that is in flight in a sound lane is one that callers share. -/
theorem shared_of_mem (sound : lane.Sound) {fetch : Fetch} (member : fetch ∈ lane.flying) :
    lane.slot ≠ none := by
  intro free
  rw [sound.flying_of_free free] at member
  cases member

/-- The direction of a sound lane in which a fetch is in flight can move. -/
theorem free_of_mem (sound : lane.Sound) {fetch : Fetch} (member : fetch ∈ lane.flying) :
    lane.side.mode ≠ .fixed := by
  intro fixed
  have undriven : lane.side.mode ≠ .pushDriven := by simp [fixed]
  have paginating := (sound.driven undriven).mpr (sound.shared_of_mem member)
  rw [sound.fixed fixed] at paginating
  cases paginating

end Sound

end Lane

/-- Every step keeps a sound lane sound. -/
theorem Drive.sound {state : State} {direction : Direction} {action : Action} {lane : Lane}
    (drive : Drive state direction action lane) (sound : (state.lane direction).Sound) :
    lane.Sound := by
  have mode := drive.mode
  cases drive with
  | still deaf => exact sound
  | issues size free idle =>
    have none : inFlight state.fetches direction = [] := sound.flying_of_free free
    have movable : (state.machine.get direction).mode ≠ .fixed :=
      sound.free_of_ne (by simp [State.lane, idle])
    exact ⟨Or.inr ⟨_, by rw [none]; rfl, rfl⟩, fun fixed => absurd fixed movable,
      fun _ => by simp⟩
  | ends flying alive ending =>
    have movable := sound.free_of_mem flying
    have still := DirectionState.status_finish_ne movable (ending.result direction)
    exact ⟨Or.inl (sound.without flying), fun fixed => absurd (mode.symm.trans fixed) movable,
      fun _ => iff_of_false still fun shared => shared rfl⟩
  | late flying gone ending =>
    exact ⟨Or.inl (sound.without flying), sound.fixed, sound.driven⟩
  | crashes flying =>
    have shared := sound.shared_of_mem flying
    exact ⟨Or.inl (sound.without flying), sound.fixed,
      fun undriven => (sound.driven undriven).trans (iff_of_true shared (Option.some_ne_none _))⟩
  | resets queue taken reset =>
    refine ⟨sound.single, fun fixed => ?_, fun undriven => ?_⟩
    · have before : (state.machine.get direction).mode = .fixed := mode.symm.trans fixed
      have still : (state.machine.get direction).reset.2 = state.machine.get direction := by
        simp [DirectionState.reset, DirectionState.move, before]
      rw [still]
      exact sound.fixed before
    · have before : (state.machine.get direction).mode ≠ .pushDriven :=
        fun driven => undriven (mode.trans driven)
      exact (DirectionState.status_reset_iff _).trans (sound.driven before)
  | hears reads queue =>
    by_cases follows : state.machine.Follows direction
    · refine ⟨sound.single, fun fixed => ?_, fun undriven => absurd (mode.trans follows.2) undriven⟩
      have both := (mode.trans follows.2).symm.trans fixed
      cases both
    · rw [Machine.get_push_of_deaf follows]
      exact sound

/-- No number is given to two fetches in flight, and each is below the next one that is free. -/
structure State.Counted (state : State) : Prop where
  distinct : (state.fetches.map Fetch.number).Nodup
  below : ∀ fetch ∈ state.fetches, fetch.number < state.nextFetch

/-- Where no number is given to two fetches, none is when one of them goes. -/
theorem State.Counted.forget {state : State} (counted : state.Counted) (number : Nat) :
    (state.forget number).Counted :=
  ⟨counted.distinct.sublist (List.filter_sublist.map _),
    fun fetch member => counted.below fetch (List.mem_filter.mp member).1⟩

/-- A step gives the next free number to a fetch, so that still no number is given to two. -/
theorem Deed.counted {setup : Setup} {state next : State} {action : Action} {more : List Effect}
    (deed : Deed setup state action next more) (counted : state.Counted) : next.Counted := by
  cases deed with
  | issues size free idle =>
    exact ⟨nodup_map_concat counted.distinct counted.below rfl, below_concat counted.below rfl⟩
  | @endsFetch fetch member alive ending =>
    exact ⟨(counted.forget fetch.number).distinct, (counted.forget fetch.number).below⟩
  | @endsLate fetch member gone ending => exact counted.forget fetch.number
  | @crashes fetch member =>
    exact ⟨(counted.forget fetch.number).distinct, (counted.forget fetch.number).below⟩
  | _ => exact ⟨counted.distinct, counted.below⟩

namespace Run

variable {setup : Setup} {source : Source} {state : State}
variable {actions : List Action} {effects : List Effect}

/-- In every reachable state no number is given to two fetches, and both lanes are sound. -/
theorem lane_sound (run : Run setup (State.initial setup source) actions effects state) :
    state.Counted ∧ ∀ direction, (state.lane direction).Sound := by
  induction run with
  | nothing =>
    refine ⟨⟨List.nodup_nil, fun _ member => nomatch member⟩, fun direction => ?_⟩
    cases direction with
    | backwards =>
      exact ⟨Or.inl rfl, DirectionState.status_initial,
        fun _ => iff_of_false (DirectionState.initial_ne_paginating _) (fun shared => shared rfl)⟩
    | forwards =>
      exact ⟨Or.inl rfl, DirectionState.status_initial,
        fun _ => iff_of_false (DirectionState.initial_ne_paginating _) (fun shared => shared rfl)⟩
  | further before taken inductionHypothesis =>
    obtain ⟨counted, sound⟩ := inductionHypothesis
    have deed := step_deeds taken
    exact ⟨deed.counted counted,
      fun direction => (deed.drives counted.distinct direction).sound (sound direction)⟩

end Run

end RoomTimeline.Controller
