import RoomTimeline.Pagination.Machine

/-!
# Moves of the pagination status

Whatever moves the status of a direction also says whether it changed anything, and whoever is told
that nothing changed may leave things as they are: then the status has not moved
(`Machine.finish_of_unchanged`, `Machine.push_of_unchanged`).

Modes never change. In a request-driven direction neither what a source pushes nor a fresh start of
the source begins or ends a pagination (`Machine.Drifts`), and the end of a fetch always ends it.
-/

namespace RoomTimeline

/-- Replacing a side by itself changes nothing. -/
@[simp] theorem Sides.set_get {α : Type} (sides : Sides α) (direction : Direction) :
    sides.set direction (sides.get direction) = sides := by
  cases direction <;> rfl

namespace DirectionState

/-- Where a move of a direction reports no change, the direction is as it was. -/
theorem move_of_unchanged {state : DirectionState} {status : PaginationStatus}
    (unchanged : (state.move status).1 = false) : (state.move status).2 = state := by
  unfold move at *
  split at unchanged
  case isTrue stays => rw [if_pos stays]
  case isFalse => cases unchanged

/-- Where the end of a fetch reports no change of a direction, the direction is as it was. -/
theorem finish_of_unchanged {state : DirectionState} {result : FetchResult}
    (unchanged : (state.finish result).1 = false) : (state.finish result).2 = state := by
  unfold finish at *
  split at unchanged <;> exact move_of_unchanged unchanged

/-- Where a pushed status reports no change of a direction, the direction is as it was. -/
theorem push_of_unchanged {state : DirectionState} {live : LiveStatus}
    (unchanged : (state.push live).1 = false) : (state.push live).2 = state := by
  unfold push at *
  split at unchanged
  case isTrue driven =>
    rw [if_pos driven]
    exact move_of_unchanged unchanged
  case isFalse ignored => rw [if_neg ignored]

/-- The end of a fetch keeps the mode of a direction. -/
theorem mode_finish (state : DirectionState) (result : FetchResult) :
    (state.finish result).2.mode = state.mode := by
  unfold finish
  split <;> exact mode_move ..

/-- A pushed status keeps the mode of a direction. -/
theorem mode_push (state : DirectionState) (live : LiveStatus) :
    (state.push live).2.mode = state.mode := by
  unfold push
  split
  · exact mode_move ..
  · rfl

/-- A fresh start of the source keeps the mode of a direction. -/
theorem mode_reset (state : DirectionState) : state.reset.2.mode = state.mode := by
  unfold reset
  split
  · exact mode_move ..
  · rfl

/-- A direction that can move has the status that it was told to move to. -/
theorem status_move {state : DirectionState} (free : state.mode ≠ .fixed)
    (status : PaginationStatus) : (state.move status).2.status = status := by
  unfold move
  split
  · rename_i stays
    exact stays.resolve_left free
  · rfl

/-- The end of a fetch leaves no direction paginating that can move. -/
theorem status_finish_ne {state : DirectionState} (free : state.mode ≠ .fixed)
    (result : FetchResult) : (state.finish result).2.status ≠ .paginating := by
  unfold finish
  split <;> rw [status_move free] <;> decide

/-- A fresh start of the source neither begins nor ends a pagination. -/
theorem status_reset_iff (state : DirectionState) :
    state.reset.2.status = .paginating ↔ state.status = .paginating := by
  unfold reset
  split
  case isTrue ended =>
    unfold move
    split
    · rfl
    · simp [ended]
  case isFalse => rfl

end DirectionState

/-- No direction is paginating from the start. -/
theorem DirectionState.initial_ne_paginating (mode : DirectionMode) :
    (DirectionState.initial mode).status ≠ .paginating := by
  cases mode <;> decide

/-- A direction that cannot move is at its end from the start. -/
theorem DirectionState.status_initial {mode : DirectionMode}
    (fixed : (DirectionState.initial mode).mode = .fixed) :
    (DirectionState.initial mode).status = .endReached := by
  cases mode with
  | fixed => rfl
  | pushDriven => cases fixed
  | requestDriven => cases fixed

namespace Machine

variable {machine : Machine}

/-- A request for more entries in a direction that is idle starts paginating. -/
theorem begin_of_idle {direction : Direction} (idle : (machine.get direction).status = .idle) :
    machine.begin direction =
      (.started, machine.set direction { machine.get direction with status := .paginating }) := by
  simp [begin, DirectionState.begin, idle]

/-- A request for more entries in a direction that is paginating changes nothing. -/
theorem begin_of_paginating {direction : Direction}
    (paginating : (machine.get direction).status = .paginating) :
    machine.begin direction = (.inFlight, machine) := by
  simp [begin, DirectionState.begin, paginating]

/-- A request for more entries in a direction that is at its end changes nothing. -/
theorem begin_of_endReached {direction : Direction}
    (ended : (machine.get direction).status = .endReached) :
    machine.begin direction = (.endReached, machine) := by
  simp [begin, DirectionState.begin, ended]

/-- Where the end of a fetch reports no change, both directions are as they were. -/
theorem finish_of_unchanged {direction : Direction} {result : FetchResult}
    (unchanged : (machine.finish direction result).1 = false) :
    (machine.finish direction result).2 = machine := by
  have side := DirectionState.finish_of_unchanged unchanged
  unfold finish
  dsimp only
  rw [side, Sides.set_get]

/-- Where a pushed status reports no change, both directions are as they were. -/
theorem push_of_unchanged {live : LiveStatus} (unchanged : (machine.push live).1 = false) :
    (machine.push live).2 = machine := by
  have side := DirectionState.push_of_unchanged unchanged
  unfold push
  dsimp only
  rw [side]
  exact Sides.set_get machine .backwards

/-- Whether a direction follows what a source pushes. -/
def Follows (machine : Machine) (direction : Direction) : Prop :=
  direction = .backwards ∧ (machine.get direction).mode = .pushDriven

/-- A direction that follows what a source pushes has the status that was pushed last. -/
theorem status_push {direction : Direction} (follows : machine.Follows direction)
    (live : LiveStatus) : ((machine.push live).2.get direction).status = live.status := by
  obtain ⟨rfl, driven⟩ := follows
  have pushed : machine.backward.push live = machine.backward.move live.status := if_pos driven
  have free : machine.backward.mode ≠ .fixed := by
    intro fixed
    rw [Sides.get, fixed] at driven
    cases driven
  change (machine.backward.push live).2.status = live.status
  rw [pushed]
  exact DirectionState.status_move free live.status

/-- A direction that does not follow what a source pushes stays as it is when a status is pushed. -/
theorem get_push_of_deaf {direction : Direction} (deaf : ¬ machine.Follows direction)
    (live : LiveStatus) : (machine.push live).2.get direction = machine.get direction := by
  cases direction with
  | forwards => rfl
  | backwards =>
    have ignored : machine.backward.push live = (false, machine.backward) :=
      if_neg fun driven => deaf ⟨rfl, driven⟩
    exact congrArg Prod.snd ignored

/-- Where older entries are not driven by what a source pushes, a pushed status changes nothing. -/
theorem push_of_undriven (undriven : machine.backward.mode ≠ .pushDriven) (live : LiveStatus) :
    machine.push live = (false, machine) := by
  have ignored : machine.backward.push live = (false, machine.backward) := if_neg undriven
  unfold push
  dsimp only
  rw [ignored]
  exact congrArg (Prod.mk false) (Sides.set_get machine .backwards)

/-- A pushed status keeps the modes of both directions. -/
theorem mode_push_get (machine : Machine) (live : LiveStatus) (direction : Direction) :
    ((machine.push live).2.get direction).mode = (machine.get direction).mode := by
  cases direction with
  | backwards => exact DirectionState.mode_push machine.backward live
  | forwards => rfl

/-- From one machine to another the modes are the same, and a request-driven direction is paginating
in both or in neither. -/
def Drifts (machine other : Machine) : Prop :=
  ∀ direction, (other.get direction).mode = (machine.get direction).mode ∧
    ((machine.get direction).mode = .requestDriven →
      ((other.get direction).status = .paginating ↔ (machine.get direction).status = .paginating))

/-- A machine that stays the same has drifted. -/
theorem Drifts.refl (machine : Machine) : machine.Drifts machine :=
  fun _ => ⟨rfl, fun _ => Iff.rfl⟩

/-- A pushed status moves only a direction that is driven by such. -/
theorem drifts_push (machine : Machine) (live : LiveStatus) :
    machine.Drifts (machine.push live).2 := by
  intro direction
  refine ⟨mode_push_get machine live direction, fun driven => ?_⟩
  have deaf : ¬ machine.Follows direction := by
    rintro ⟨-, pushed⟩
    rw [driven] at pushed
    cases pushed
  rw [get_push_of_deaf deaf]

/-- A fresh start of the source lets exhausted directions load again, and no more. -/
theorem drifts_reset (machine : Machine) : machine.Drifts machine.reset.2 := by
  intro direction
  cases direction with
  | backwards =>
    exact ⟨DirectionState.mode_reset machine.backward,
      fun _ => DirectionState.status_reset_iff machine.backward⟩
  | forwards =>
    exact ⟨DirectionState.mode_reset machine.forward,
      fun _ => DirectionState.status_reset_iff machine.forward⟩

end Machine

end RoomTimeline
