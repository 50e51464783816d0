import Mathlib.Data.List.Nodup
import RoomTimeline.Proofs.Controller.Desk

/-!
# One fetch for each direction

As long as a controller is there and its fetches come to a result, the request that callers of a
direction share and the fetch that the source works on come and go together
(`Desk.Sound`). On a push-driven timeline the status may say something else in the meantime, since
the source moves it too; on a request-driven one it follows the fetch.

Every step keeps a sound desk sound (`Desk.Turn.sound`), one case for each thing that a step can do.
-/

namespace RoomTimeline.Controller

/-- The number of entries fetched is at least one and at most a hundred. -/
theorem boundedSize_bounds (requested : UInt16) :
    1 ≤ boundedSize requested ∧ boundedSize requested ≤ 100 := by
  unfold boundedSize
  simp only [UInt16.le_iff_toNat_le, UInt16.lt_iff_toNat_lt]
  split
  · decide
  · split
    · decide
    · constructor <;> omega

/-! ## Numbers in use -/

section Numbers

variable {α : Type} {number : α → Nat} {entries : List α} {next : Nat}

/-- Where no number repeats and all are below the next one, none repeats either when an entry under
the next number is added. -/
theorem nodup_map_concat (distinct : (entries.map number).Nodup)
    (below : ∀ entry ∈ entries, number entry < next) {entry : α} (new : number entry = next) :
    ((entries ++ [entry]).map number).Nodup := by
  rw [List.map_append]
  refine List.Nodup.append distinct (List.nodup_singleton _) ?_
  intro used known same
  obtain ⟨other, member, rfl⟩ := List.mem_map.mp known
  have less := below other member
  have equal : number other = number entry := List.mem_singleton.mp same
  omega

/-- Where all numbers are below the next one, adding an entry under that number leaves all of them
below the one behind it. -/
theorem below_concat (below : ∀ entry ∈ entries, number entry < next) {entry : α}
    (new : number entry = next) : ∀ other ∈ entries ++ [entry], number other < next + 1 := by
  intro other member
  rcases List.mem_append.mp member with known | last
  · exact Nat.lt_succ_of_lt (below other known)
  · rw [List.mem_singleton.mp last, new]
    exact Nat.lt_succ_self next

end Numbers

/-! ## Fetches in flight -/

/-- Adding a fetch puts it in flight in its own direction and changes nothing in the other one. -/
theorem inFlight_concat (fetches : List Fetch) (fetch : Fetch) (direction : Direction) :
    inFlight (fetches ++ [fetch]) direction =
      inFlight fetches direction ++ if fetch.direction = direction then [fetch] else [] := by
  unfold inFlight
  rw [List.filter_append]
  by_cases same : fetch.direction = direction <;> simp [same]

/-- Taking a fetch away takes it from those in flight in every direction. -/
theorem inFlight_remove (fetches : List Fetch) (number : Nat) (direction : Direction) :
    inFlight (fetches.filter fun other => other.number ≠ number) direction =
      (inFlight fetches direction).filter fun other => other.number ≠ number := by
  unfold inFlight
  rw [List.filter_filter, List.filter_filter]
  exact congrArg (List.filter · fetches) (funext fun fetch => Bool.and_comm ..)

/-- What is in flight in a direction is a fetch of that direction that the source works on. -/
theorem mem_inFlight {fetches : List Fetch} {fetch : Fetch} {direction : Direction} :
    fetch ∈ inFlight fetches direction ↔ fetch ∈ fetches ∧ fetch.direction = direction := by
  simp [inFlight]

/-- Where no number is used twice, taking a fetch away takes nothing from the other direction. -/
theorem inFlight_remove_other {fetches : List Fetch} (distinct : (fetches.map Fetch.number).Nodup)
    {fetch : Fetch} (member : fetch ∈ fetches) {direction : Direction}
    (apart : direction ≠ fetch.direction) :
    inFlight (fetches.filter fun other => other.number ≠ fetch.number) direction =
      inFlight fetches direction := by
  refine (inFlight_remove ..).trans (List.filter_eq_self.mpr ?_)
  intro flying inside
  obtain ⟨known, towards⟩ := mem_inFlight.mp inside
  refine decide_eq_true fun same => apart ?_
  rw [← towards, List.inj_on_of_nodup_map distinct known member same]

/-- What a direction holds agrees with what is in flight in it: its request is that for the only
fetch in flight, or there is neither; and if requests alone drive it, then it is paginating just
while a fetch is in flight. -/
structure Agrees (side : DirectionState) (request : Option SharedFetch) (flying : List Fetch) :
    Prop where
  slot : request = none ∧ flying = [] ∨
    ∃ fetch, request = some ⟨fetch.number, false⟩ ∧ flying = [fetch]
  driven : side.mode = .requestDriven → (side.status = .paginating ↔ flying ≠ [])

/-- Where one direction is replaced and nothing changes in the other one, only the replaced one need
be looked at. -/
theorem agrees_set {machine : Machine} {shared : Sides (Option SharedFetch)}
    {fetches left : List Fetch} {direction : Direction} {side : DirectionState}
    {request : Option SharedFetch}
    (before : ∀ other, Agrees (machine.get other) (shared.get other) (inFlight fetches other))
    (others : ∀ other, other ≠ direction → inFlight left other = inFlight fetches other)
    (own : Agrees side request (inFlight left direction)) (other : Direction) :
    Agrees ((machine.set direction side).get other) ((shared.set direction request).get other)
      (inFlight left other) := by
  by_cases same : other = direction
  · subst same
    rw [Sides.get_set_self, Sides.get_set_self]
    exact own
  · rw [Sides.get_set_of_ne _ _ same, Sides.get_set_of_ne _ _ same, others other same]
    exact before other

namespace Desk

/-- The end of a fetch changes the number of no call. -/
@[simp] theorem number_settled (number : Nat) (result : CallResult) (call : RunningCall) :
    (settled number result call).number = call.number := by
  unfold settled
  split
  · split <;> rfl
  · rfl

/-- The controller is there, numbers of fetches and of calls are used once, and what each direction
holds agrees with what is in flight in it. -/
structure Sound (desk : Desk) : Prop where
  alive : desk.dropped = false
  fetchNumbers : (desk.fetches.map Fetch.number).Nodup
  fetchBound : ∀ fetch ∈ desk.fetches, fetch.number < desk.nextFetch
  callNumbers : (desk.calls.map RunningCall.number).Nodup
  callBound : ∀ call ∈ desk.calls, call.number < desk.nextCall
  sides : ∀ direction, Agrees (desk.machine.get direction) (desk.shared.get direction)
    (inFlight desk.fetches direction)

namespace Sound

variable {desk : Desk}

/-- Where no request is shared nothing is in flight. -/
theorem inFlight_of_free (sound : desk.Sound) {direction : Direction}
    (free : desk.shared.get direction = none) : inFlight desk.fetches direction = [] := by
  rcases (sound.sides direction).slot with ⟨-, none⟩ | ⟨fetch, found, -⟩
  · exact none
  · rw [free] at found
    cases found

/-- A shared request is that for the only fetch in flight, which has not crashed. -/
theorem inFlight_of_found (sound : desk.Sound) {direction : Direction} {request : SharedFetch}
    (found : desk.shared.get direction = some request) :
    ∃ fetch, request = ⟨fetch.number, false⟩ ∧ inFlight desk.fetches direction = [fetch] := by
  rcases (sound.sides direction).slot with ⟨free, -⟩ | ⟨fetch, known, only⟩
  · rw [free] at found
    cases found
  · rw [known] at found
    exact ⟨fetch, (Option.some.inj found).symm, only⟩

/-- A fetch that the source works on is the only one in flight in its direction. -/
theorem inFlight_of_mem (sound : desk.Sound) {fetch : Fetch} (member : fetch ∈ desk.fetches) :
    inFlight desk.fetches fetch.direction = [fetch] := by
  have inside : fetch ∈ inFlight desk.fetches fetch.direction := mem_inFlight.mpr ⟨member, rfl⟩
  rcases (sound.sides fetch.direction).slot with ⟨-, none⟩ | ⟨other, -, only⟩
  · rw [none] at inside
    cases inside
  · rw [only] at inside ⊢
    rw [List.mem_singleton.mp inside]

/-- A sound desk stays sound when its pagination status drifts. -/
theorem aside (sound : desk.Sound) {machine : Machine} (drifts : desk.machine.Drifts machine) :
    Sound { desk with machine } := by
  refine { sound with sides := ?_ }
  intro direction
  obtain ⟨mode, status⟩ := drifts direction
  refine ⟨(sound.sides direction).slot, ?_⟩
  intro driven
  have before : (desk.machine.get direction).mode = .requestDriven := mode.symm.trans driven
  exact (status before).trans ((sound.sides direction).driven before)

/-- A sound desk stays sound when a call is entered, which gets the next number. -/
theorem enter (sound : desk.Sound) (call : Call) (wait : Wait) : (desk.enter call wait).Sound :=
  { sound with
    callNumbers := nodup_map_concat sound.callNumbers sound.callBound rfl
    callBound := below_concat sound.callBound rfl }

/-- A sound desk stays sound when a call leaves. -/
theorem leave (sound : desk.Sound) (number : Nat) : (desk.leave number).Sound :=
  { sound with
    callNumbers := sound.callNumbers.sublist (List.filter_sublist.map _)
    callBound := fun call member => sound.callBound call (List.mem_filter.mp member).1 }

/-- A sound desk stays sound when a fetch is issued for a direction without a shared one. -/
theorem issue (sound : desk.Sound) {direction : Direction} (size : UInt16)
    (free : desk.shared.get direction = none) : (desk.issue direction size).Sound := by
  have nothing := sound.inFlight_of_free free
  have own : inFlight (desk.issue direction size).fetches direction =
      [⟨desk.nextFetch, direction, boundedSize size⟩] := by
    simp [Desk.issue, inFlight_concat, nothing]
  have others : ∀ other, other ≠ direction →
      inFlight (desk.issue direction size).fetches other = inFlight desk.fetches other := by
    intro other distinct
    simp [Desk.issue, inFlight_concat, Ne.symm distinct]
  refine { sound with
    fetchNumbers := nodup_map_concat sound.fetchNumbers sound.fetchBound rfl
    fetchBound := below_concat sound.fetchBound rfl
    sides := agrees_set sound.sides others ?_ }
  rw [own]
  constructor
  · exact Or.inr ⟨_, rfl, rfl⟩
  · intro driven
    exact ⟨fun _ => by simp, fun _ => rfl⟩

/-- A sound desk stays sound when a fetch ends, which leaves its place free, and its direction not
paginating if that is request-driven. -/
theorem conclude (sound : desk.Sound) {fetch : Fetch} (member : fetch ∈ desk.fetches)
    (result : FetchResult) : (desk.conclude fetch result).Sound := by
  have own : inFlight (desk.conclude fetch result).fetches fetch.direction = [] := by
    refine (inFlight_remove ..).trans ?_
    rw [sound.inFlight_of_mem member]
    simp
  have others : ∀ other, other ≠ fetch.direction →
      inFlight (desk.conclude fetch result).fetches other = inFlight desk.fetches other :=
    fun other apart => inFlight_remove_other sound.fetchNumbers member apart
  refine { sound with
    fetchNumbers := sound.fetchNumbers.sublist (List.filter_sublist.map _)
    fetchBound := fun other inside => sound.fetchBound other (List.mem_filter.mp inside).1
    callNumbers := ?_, callBound := ?_, sides := agrees_set sound.sides others ?_ }
  · have same : RunningCall.number ∘ settled fetch.number (result.map fun _ => ()) =
        RunningCall.number := funext fun call => number_settled ..
    change ((desk.calls.map (settled _ _)).map RunningCall.number).Nodup
    rw [List.map_map, same]
    exact sound.callNumbers
  · intro call inside
    obtain ⟨before, known, rfl⟩ := List.mem_map.mp inside
    rw [number_settled]
    exact sound.callBound before known
  · rw [own]
    refine ⟨Or.inl ⟨rfl, rfl⟩, ?_⟩
    intro driven
    have free : (desk.machine.get fetch.direction).mode ≠ .fixed := by
      rw [← DirectionState.mode_finish _ result, driven]
      decide
    constructor
    · intro paginating
      exact absurd paginating (DirectionState.status_finish_ne free result)
    · intro flying
      exact absurd rfl flying

end Sound

/-- Every step keeps a sound desk sound. -/
theorem Turn.sound {desk after : Desk} {action : Action} {fetches : List (Direction × UInt16)}
    {returned : List (Nat × CallResult)} (turn : desk.Turn action after fetches returned)
    (sound : desk.Sound) : after.Sound := by
  cases turn with
  | aside other drifts => exact sound.aside drifts
  | waits wait other => exact sound.enter _ wait
  | joins size found => exact sound.enter _ _
  | issues size free idle => exact (sound.issue size free).enter _ _
  | declines size free busy => exact sound.enter _ _
  | returns member ready => exact sound.leave _
  | abandons number => exact sound.leave number
  | ends member ending => exact sound.conclude member _

/-- No step changes the mode of a direction. -/
theorem Turn.mode {desk after : Desk} {action : Action} {fetches : List (Direction × UInt16)}
    {returned : List (Nat × CallResult)} (turn : desk.Turn action after fetches returned)
    (direction : Direction) :
    (after.machine.get direction).mode = (desk.machine.get direction).mode := by
  cases turn with
  | aside other drifts => exact (drifts direction).1
  | waits | joins | declines | returns | abandons => rfl
  | @issues towards size free idle =>
    by_cases same : direction = towards
    · subst same
      exact (congrArg DirectionState.mode (Sides.get_set_self ..)).trans rfl
    · exact congrArg DirectionState.mode (Sides.get_set_of_ne _ _ same)
  | @ends fetch member ending =>
    by_cases same : direction = fetch.direction
    · subst same
      exact (congrArg DirectionState.mode (Sides.get_set_self ..)).trans
        (DirectionState.mode_finish ..)
    · exact congrArg DirectionState.mode (Sides.get_set_of_ne _ _ same)

end Desk

/-! ## Runs -/

/-- The desk of a controller that nobody has used yet is empty, and no direction is paginating. -/
theorem State.sound_initial (setup : Setup) (source : Source) :
    (State.initial setup source).desk.Sound where
  alive := rfl
  fetchNumbers := List.nodup_nil
  fetchBound := fun _ member => nomatch member
  callNumbers := List.nodup_nil
  callBound := fun _ member => nomatch member
  sides := by
    intro direction
    have idle : ((Machine.ofKind setup.config.kind).get direction).status ≠ .paginating := by
      cases direction <;> exact DirectionState.initial_ne_paginating _
    constructor
    · cases direction <;> exact Or.inl ⟨rfl, rfl⟩
    · intro driven
      exact ⟨fun paginating => absurd paginating idle, fun flying => absurd rfl flying⟩

namespace Run

variable {setup : Setup} {start state : State} {actions : List Action} {effects : List Effect}

/-- An orderly run that begins at a sound desk reaches a sound desk, and changes the mode of no
direction. -/
theorem sound (run : Run setup start actions effects state)
    (orderly : ∀ action ∈ actions, action.orderly = true) (begins : start.desk.Sound) :
    state.desk.Sound ∧ ∀ direction,
      (state.machine.get direction).mode = (start.machine.get direction).mode := by
  induction run with
  | nothing => exact ⟨begins, fun _ => rfl⟩
  | further before taken inductionHypothesis =>
    obtain ⟨earlier, last⟩ := List.forall_mem_append.mp orderly
    obtain ⟨sound, modes⟩ := inductionHypothesis earlier
    have turn := step_turns sound.alive (last _ (List.mem_singleton_self _)) taken
    exact ⟨turn.sound sound, fun direction => (turn.mode direction).trans (modes direction)⟩

end Run

end RoomTimeline.Controller
