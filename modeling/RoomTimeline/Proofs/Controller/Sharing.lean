import RoomTimeline.Proofs.Controller.Callers

/-!
# At most one fetch for each direction, shared by all callers

In every state that a controller can reach, as long as it is there and its fetches come to a result,
each direction has at most one fetch in flight, and that is the one that callers join. A call
returns with what the fetch that it has issued or joined comes to, and at once where there was
neither a fetch to join nor one to issue (`fetches_shared`).
-/

namespace RoomTimeline.Controller

/-- How a call ends, from a state on, if `due` tells what actions have made due to it. Whatever
happens as long as the controller is there and fetches come to a result, it returns at most once and
only what is due to it; and when something is due to it, then it has returned that or can do so at
once, unless its caller has given it up. -/
def Returns (setup : Setup) (start : State) (number : Nat)
    (due : List Action → Option CallResult) : Prop :=
  ∀ {actions : List Action} {effects : List Effect} {state : State},
    Run setup start actions effects state → (∀ action ∈ actions, action.orderly = true) →
      (answersTo number (answers effects) = [] ∨
        ∃ result, due actions = some result ∧ answersTo number (answers effects) = [result]) ∧
      ∀ result, due actions = some result → .abandon number ∉ actions →
        answersTo number (answers effects) = [result] ∨
          ∃ next, step setup state (.resume number) = some (next, [.returned number result])

/-- A call that stands where it is to stand has returned at most what is due to it, and can return
this at once if it has not. -/
theorem Desk.Standing.returns {setup : Setup} {state : State} {number awaited : Nat}
    {due : Option CallResult} {actions : List Action} {results : List CallResult}
    (standing : state.desk.Standing number awaited due actions results)
    (sound : state.desk.Sound) :
    (results = [] ∨ ∃ result, due = some result ∧ results = [result]) ∧
      ∀ result, due = some result → .abandon number ∉ actions →
        results = [result] ∨
          ∃ next, step setup state (.resume number) = some (next, [.returned number result]) := by
  cases standing with
  | waiting member =>
    refine ⟨Or.inl rfl, ?_⟩
    rintro result rfl -
    have alive : state.dropped = false := sound.alive
    have resumed := State.resume_eq sound.callNumbers member rfl
    exact Or.inr ⟨_, by simpa [step, alive] using resumed⟩
  | answered told gone =>
    refine ⟨Or.inr ⟨_, told, rfl⟩, fun result owed _ => Or.inl ?_⟩
    rw [Option.some.inj (told.symm.trans owed)]
  | abandoned given gone => exact ⟨Or.inl rfl, fun _ _ kept => absurd given kept⟩

section Calls

variable {setup : Setup} {start : State} {number : Nat} {call : Call}

/-- A call that waits for a fetch in flight returns what that comes to. -/
theorem returns_landing (begins : start.desk.Sound) {fetch : Fetch}
    (flying : fetch ∈ start.fetches) (asked : ⟨number, call, .fetch fetch.number⟩ ∈ start.calls) :
    Returns setup start number fetch.landing? := by
  intro actions effects state run orderly
  have learns : ∀ {earlier : List Action} {effects : List Effect} {between : State},
      Run setup start earlier effects between → (∀ action ∈ earlier, action.orderly = true) →
        ∀ action, between.desk.Learns action fetch.number (fetch.landing? earlier)
          (fetch.landing? (earlier ++ [action])) :=
    fun before quiet action =>
      Desk.learns_landing (before.stays_in_flight quiet begins flying) action
  have standing := (run.standing orderly begins fetch.landing? asked learns).2
  exact standing.returns (run.sound orderly begins).1

/-- A call that has nothing to wait for returns the result that it has. -/
theorem returns_done (begins : start.desk.Sound) {result : CallResult}
    (asked : ⟨number, call, .done result⟩ ∈ start.calls) :
    Returns setup start number fun _ => some result := by
  intro actions effects state run orderly
  -- Nothing is awaited any more, so any number will do for the fetch.
  have standing : state.desk.Standing number 0 (some result) actions
      (answersTo number (answers effects)) :=
    (run.standing orderly begins (fun _ => some result) asked
      fun _ _ _ => Desk.Learns.already result).2
  exact standing.returns (run.sound orderly begins).1

end Calls

/-- When the controller goes or a fetch crashes nothing is issued. -/
theorem issued_of_disorderly {setup : Setup} {state next : State} {action : Action}
    {more : List Effect} (taken : step setup state action = some (next, more))
    (disorderly : action.orderly = false) : issued more = [] := by
  unfold step at taken
  split at taken
  · cases taken
  · cases action with
    | drop =>
      cases taken
      rfl
    | crashFetch number =>
      obtain ⟨fetch, -, moved⟩ := Option.map_eq_some_iff.mp taken
      cases moved
      rfl
    | _ => cases disorderly

/-- Callers share fetches. In every state that a controller can reach, as long as it is there and
its fetches come to a result,
- a direction has a request to join just if a fetch of it is in flight, that request is for this
  fetch, and there is no other; and a direction that is driven by requests alone is paginating just
  if a fetch of it is in flight, and
- a fetch in flight stays so until it ends.

In each step from there,
- a fetch is issued only by a call to paginate, which finds none in flight and the direction idle;
  it asks for between one and a hundred entries, it is the only one, and the direction is paginating
  from that step on, and
- a call to paginate that finds a fetch in flight issues none and returns what that comes to; one
  that issues a fetch returns what this comes to; and one that does neither returns without a fault.
-/
theorem fetches_shared {setup : Setup} {source : Source} {state : State}
    {actions : List Action} {effects : List Effect}
    (run : Run setup (State.initial setup source) actions effects state)
    (orderly : ∀ action ∈ actions, action.orderly = true) :
    (∀ direction,
      (state.shared.get direction = none ∧ inFlight state.fetches direction = [] ∨
        ∃ fetch, state.shared.get direction = some ⟨fetch.number, false⟩ ∧
          inFlight state.fetches direction = [fetch]) ∧
      (((Machine.ofKind setup.config.kind).get direction).mode = .requestDriven →
        ((state.machine.get direction).status = .paginating ↔
          inFlight state.fetches direction ≠ []))) ∧
    (∀ fetch ∈ state.fetches, ∀ {others : List Action} {more : List Effect} {later : State},
      Run setup state others more later → (∀ action ∈ others, action.orderly = true) →
        fetch.landing? others = none → fetch ∈ later.fetches) ∧
    ∀ {action : Action} {next : State} {more : List Effect},
      step setup state action = some (next, more) →
      (∀ {direction : Direction} {size : UInt16}, (direction, size) ∈ issued more →
        (∃ requested, action = .start (.paginate direction requested)) ∧
          inFlight state.fetches direction = [] ∧
          (state.machine.get direction).status = .idle ∧
          1 ≤ size ∧ size ≤ 100 ∧ issued more = [(direction, size)] ∧
          (next.machine.get direction).status = .paginating ∧
          inFlight next.fetches direction = [⟨state.nextFetch, direction, size⟩]) ∧
      ∀ {direction : Direction} {requested : UInt16},
        action = .start (.paginate direction requested) →
        (∃ fetch, inFlight state.fetches direction = [fetch] ∧ issued more = [] ∧
          Returns setup next state.nextCall fetch.landing?) ∨
        (∃ size, inFlight state.fetches direction = [] ∧ issued more = [(direction, size)] ∧
          Returns setup next state.nextCall (Fetch.mk state.nextFetch direction size).landing?) ∨
        (inFlight state.fetches direction = [] ∧ issued more = [] ∧
          Returns setup next state.nextCall fun _ => some (.ok ())) := by
  obtain ⟨sound, modes⟩ := run.sound orderly (State.sound_initial setup source)
  refine ⟨?_, ?_, ?_⟩
  · intro direction
    refine ⟨(sound.sides direction).slot, ?_⟩
    intro driven
    exact (sound.sides direction).driven ((modes direction).trans driven)
  · intro fetch member others more later further quiet pending
    exact further.stays_in_flight quiet sound member pending
  · intro action next more taken
    have orderlyOfIssued : issued more ≠ [] → action.orderly = true := by
      intro some
      apply eq_true_of_ne_false
      intro disorderly
      exact some (issued_of_disorderly taken disorderly)
    constructor
    · intro direction size sent
      have turn := step_turns sound.alive (orderlyOfIssued (List.ne_nil_of_mem sent)) taken
      obtain ⟨requested, rfl⟩ := turn.eq_start_of_issued sent
      rcases turn.cases_paginate sound with
        ⟨-, -, silent, -⟩ | ⟨fetch, free, rfl, only, idle, paginating, own, -⟩ | ⟨-, silent, -⟩
      · rw [silent] at sent
        cases sent
      · rw [only] at sent
        obtain ⟨-, rfl⟩ := Prod.mk.inj (List.mem_singleton.mp sent)
        obtain ⟨least, most⟩ := boundedSize_bounds requested
        exact ⟨⟨requested, rfl⟩, free, idle, least, most, only, paginating, own⟩
      · rw [silent] at sent
        cases sent
    · rintro direction requested rfl
      have turn := step_turns sound.alive rfl taken
      have after := turn.sound sound
      rcases turn.cases_paginate sound with
        ⟨fetch, joined, silent, flying, asked⟩ |
        ⟨fetch, free, rfl, only, -, -, -, flying, asked⟩ | ⟨free, silent, asked⟩
      · exact Or.inl ⟨fetch, joined, silent, returns_landing after flying asked⟩
      · exact Or.inr (Or.inl ⟨_, free, only, returns_landing after flying asked⟩)
      · exact Or.inr (Or.inr ⟨free, silent, returns_done after asked⟩)

/-- Two callers want older entries, the first one more than are fetched at once. Only one fetch is
issued, and the second caller returns what it comes to as well. -/
theorem fetches_shared_by_two_callers :
    ∃ effects state more next,
      Run Setup.ordinary (State.initial Setup.ordinary {}) [.start (.paginate .backwards 500)]
        effects state ∧
      step Setup.ordinary state (.start (.paginate .backwards 7)) = some (next, more) ∧
      issued effects = [(.backwards, 100)] ∧ issued more = [] ∧
      Returns Setup.ordinary next 1 (Fetch.mk 0 .backwards 100).landing? := by
  let first := [Action.start (.paginate .backwards 500)]
  let reached := (State.initial Setup.ordinary {}).steps Setup.ordinary first
  let moved := reached.1.1.start Setup.ordinary (.paginate .backwards 7)
  have run : Run Setup.ordinary (State.initial Setup.ordinary {}) first reached.1.2 reached.1.1 :=
    Run.of_steps (by cbv)
  have taken : step Setup.ordinary reached.1.1 (.start (.paginate .backwards 7)) =
      some (moved.1, moved.2) := by cbv
  have asked : issued reached.1.2 = [(.backwards, 100)] := by cbv
  have flying : inFlight reached.1.1.fetches .backwards = [⟨0, .backwards, 100⟩] := by cbv
  have known : reached.1.1.nextCall = 1 := by cbv
  obtain ⟨-, -, steps⟩ := fetches_shared run (by decide)
  rcases (steps taken).2 rfl with ⟨fetch, joined, silent, returns⟩ | ⟨-, free, -⟩ | ⟨free, -⟩
  · rw [flying] at joined
    obtain rfl := List.head_eq_of_cons_eq joined
    rw [known] at returns
    exact ⟨_, _, _, _, run, taken, asked, silent, returns⟩
  · rw [flying] at free
    cases free
  · rw [flying] at free
    cases free

end RoomTimeline.Controller
