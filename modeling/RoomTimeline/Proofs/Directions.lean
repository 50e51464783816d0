import RoomTimeline.Proofs.Pagination

/-!
# Two directions in one machine

The machine of a timeline is two machines side by side. A wish to paginate and the end of a fetch
are addressed to one direction, a pushed status to older entries, and a fresh start of the source
to both. `Machine.directions_apart` says that each direction fares as if only the moves that are
addressed to it had been made, whatever is done to the other one in between, and that a change is
reported just when the pair of statuses has changed.

For one move this is seen in two halves: a move that is not addressed to a direction leaves it alone
(`Machine.get_perform_of_aside`), and any other does the same to it in all machines that agree on
this direction (`Machine.get_perform_of_agreed`).
-/

namespace RoomTimeline

/-! ## Changes that are reported -/

namespace DirectionState

/-- Moving reports a change just if the status is another one afterwards. -/
theorem move_iff (state : DirectionState) (status : PaginationStatus) :
    (state.move status).1 = true ↔ (state.move status).2.status ≠ state.status := by
  unfold move
  split
  · simp
  · rename_i moves
    have other : status ≠ state.status := fun same => moves (Or.inr same.symm)
    simp [other]

/-- The end of a fetch reports a change of a direction just if its status is another one afterwards.
-/
theorem finish_iff (state : DirectionState) (result : FetchResult) :
    (state.finish result).1 = true ↔ (state.finish result).2.status ≠ state.status := by
  unfold finish
  split <;> exact move_iff ..

/-- A pushed status reports a change of a direction just if its status is another one afterwards. -/
theorem push_iff (state : DirectionState) (live : LiveStatus) :
    (state.push live).1 = true ↔ (state.push live).2.status ≠ state.status := by
  unfold push
  split
  · exact move_iff ..
  · simp

/-- A fresh start of the source reports a change of a direction just if its status is another one
afterwards. -/
theorem reset_iff (state : DirectionState) :
    state.reset.1 = true ↔ state.reset.2.status ≠ state.status := by
  unfold reset
  split
  · exact move_iff ..
  · simp

/-- A wish to paginate keeps the mode. -/
theorem mode_begin (state : DirectionState) : state.begin.2.mode = state.mode := by
  unfold begin
  split <;> rfl

end DirectionState

namespace Machine

variable {machine other : Machine} {direction : Direction}

/-- Replacing one direction changes the pair of statuses just if it changes the status of this
direction. -/
theorem pair_set_ne_iff (machine : Machine) (direction : Direction) (state : DirectionState) :
    pair (machine.set direction state) ≠ machine.pair ↔
      state.status ≠ (machine.get direction).status := by
  cases direction <;> simp [pair, Sides.map, Sides.set, Sides.get]

/-- The end of a fetch reports a change just if the pair of statuses has changed. -/
theorem finish_iff (machine : Machine) (direction : Direction) (result : FetchResult) :
    (machine.finish direction result).1 = true ↔
      (machine.finish direction result).2.pair ≠ machine.pair :=
  (DirectionState.finish_iff ..).trans (pair_set_ne_iff ..).symm

/-- A pushed status reports a change just if the pair of statuses has changed. -/
theorem push_iff (machine : Machine) (live : LiveStatus) :
    (machine.push live).1 = true ↔ (machine.push live).2.pair ≠ machine.pair :=
  (DirectionState.push_iff machine.backward live).trans (pair_set_ne_iff machine .backwards _).symm

/-- A fresh start of the source reports a change just if the pair of statuses has changed, be it in
one direction or in both. -/
theorem reset_iff (machine : Machine) :
    machine.reset.1 = true ↔ machine.reset.2.pair ≠ machine.pair := by
  have eitherSide : machine.reset.1 = true ↔
      machine.backward.reset.1 = true ∨ machine.forward.reset.1 = true := Bool.or_eq_true_iff
  rw [eitherSide, DirectionState.reset_iff, DirectionState.reset_iff]
  simp only [reset, pair, Sides.map, ne_eq, Sides.mk.injEq, Decidable.not_and_iff_or_not]

/-! ## Moves -/

/-- What can be done to a machine. -/
inductive Move where
  /-- Someone wishes to paginate in a direction. -/
  | begin (direction : Direction)
  /-- A fetch of a direction has ended. -/
  | finish (direction : Direction) (result : FetchResult)
  /-- The source pushes a status. -/
  | push (live : LiveStatus)
  /-- The source has started anew. -/
  | reset

/-- What making a move is answered with. -/
inductive Answer where
  /-- How a wish to paginate fares. -/
  | begun (outcome : BeginOutcome)
  /-- Whether the status has changed. -/
  | told (changed : Bool)

namespace Move

/-- Whether a move is addressed to a direction and to no other. A source pushes the status of older
entries only. -/
def isOwn (direction : Direction) : Move → Bool
  | .begin towards | .finish towards _ => towards = direction
  | .push _ => direction = .backwards
  | .reset => false

/-- Whether a move is addressed to a direction. -/
def concerns (direction : Direction) : Move → Bool
  | .reset => true
  | move => move.isOwn direction

/-- A fresh start of the source is addressed to both directions, and any other move to one. -/
theorem concerns_iff {move : Move} :
    move.concerns direction = true ↔ move = .reset ∨ move.isOwn direction = true := by
  cases move <;> simp [concerns]

end Move

/-- Make a move: the answer, and the machine after it. -/
def perform (machine : Machine) : Move → Answer × Machine
  | .begin direction => (machine.begin direction).map .begun id
  | .finish direction result => (machine.finish direction result).map .told id
  | .push live => (machine.push live).map .told id
  | .reset => machine.reset.map .told id

/-- The machine after some moves. -/
def after (machine : Machine) (moves : List Move) : Machine :=
  moves.foldl (fun reached move => (reached.perform move).2) machine

/-- Each of some moves with the answer that it gets when they are made in turn. -/
def answers : Machine → List Move → List (Move × Answer)
  | _, [] => []
  | machine, move :: rest =>
    (move, (machine.perform move).1) :: answers (machine.perform move).2 rest

/-- Each of the moves that are addressed to a direction alone with the answer to it, while some
moves are made. -/
def answersTo (direction : Direction) (machine : Machine) (moves : List Move) :
    List (Move × Answer) :=
  (machine.answers moves).filter fun answered => answered.1.isOwn direction

/-- A move that is addressed to a direction alone is the first of those with an answer for this
direction. -/
theorem answersTo_cons_of_own {move : Move} (own : move.isOwn direction = true) (machine : Machine)
    (rest : List Move) :
    machine.answersTo direction (move :: rest) =
      (move, (machine.perform move).1) :: (machine.perform move).2.answersTo direction rest :=
  List.filter_cons_of_pos own

/-- A move that is not addressed to a direction alone has no answer for this direction. -/
theorem answersTo_cons_of_foreign {move : Move} (foreign : move.isOwn direction = false)
    (machine : Machine) (rest : List Move) :
    machine.answersTo direction (move :: rest) =
      (machine.perform move).2.answersTo direction rest :=
  List.filter_cons_of_neg (by simp [foreign])

/-! ## One move -/

/-- A move that is not addressed to a direction leaves it alone. -/
theorem get_perform_of_aside (machine : Machine) {move : Move}
    (aside : move.concerns direction = false) :
    (machine.perform move).2.get direction = machine.get direction := by
  cases move with
  | begin towards | finish towards result =>
    have apart : direction ≠ towards := fun same => of_decide_eq_false aside same.symm
    exact Sides.get_set_of_ne _ _ apart
  | push live => exact Sides.get_set_of_ne _ _ (of_decide_eq_false aside)
  | reset => cases aside

/-- The answer to a move that is addressed to a direction alone depends on nothing but this
direction, and so does what becomes of it. -/
theorem perform_of_own (agreed : machine.get direction = other.get direction) {move : Move}
    (own : move.isOwn direction = true) :
    (machine.perform move).1 = (other.perform move).1 ∧
      (machine.perform move).2.get direction = (other.perform move).2.get direction := by
  cases move with
  | begin towards | finish towards result =>
    obtain rfl : towards = direction := of_decide_eq_true own
    simp [perform, begin, finish, agreed]
  | push live =>
    obtain rfl : direction = .backwards := of_decide_eq_true own
    have sameSide : machine.backward = other.backward := agreed
    simp [perform, push, sameSide]
  | reset => cases own

/-- What a move makes of a direction depends on nothing but this direction. -/
theorem get_perform_of_agreed (agreed : machine.get direction = other.get direction) (move : Move) :
    (machine.perform move).2.get direction = (other.perform move).2.get direction := by
  cases addressed : move.concerns direction with
  | false =>
    rw [get_perform_of_aside machine addressed, get_perform_of_aside other addressed, agreed]
  | true =>
    rcases Move.concerns_iff.mp addressed with rfl | own
    · -- A fresh start does to each direction what it would do to this one alone.
      cases direction with
      | backwards => exact congrArg (fun side => side.reset.2) agreed
      | forwards => exact congrArg (fun side => side.reset.2) agreed
    · exact (perform_of_own agreed own).2

/-- No move changes the mode of a direction. -/
theorem mode_perform (machine : Machine) (move : Move) (direction : Direction) :
    ((machine.perform move).2.get direction).mode = (machine.get direction).mode := by
  cases addressed : move.concerns direction with
  | false => rw [get_perform_of_aside machine addressed]
  | true =>
    cases move with
    | begin towards =>
      obtain rfl : towards = direction := of_decide_eq_true addressed
      exact (congrArg DirectionState.mode (Sides.get_set_self ..)).trans
        (DirectionState.mode_begin _)
    | finish towards result =>
      obtain rfl : towards = direction := of_decide_eq_true addressed
      exact (congrArg DirectionState.mode (Sides.get_set_self ..)).trans
        (DirectionState.mode_finish _ result)
    | push live => exact mode_push_get machine live direction
    | reset => exact (drifts_reset machine direction).1

/-! ## Many moves -/

/-- Moves that are not addressed to a direction can be left out without the direction faring any
other way.

The induction is on the moves, for two machines that need to agree on this direction only: a move
that is left out is made in the first and not in the second. -/
theorem get_after_of_agreed (agreed : machine.get direction = other.get direction)
    (moves : List Move) :
    (machine.after moves).get direction =
      (other.after (moves.filter (Move.concerns direction))).get direction := by
  induction moves generalizing machine other with
  | nil => exact agreed
  | cons move rest inductionHypothesis =>
    cases addressed : move.concerns direction with
    | false =>
      rw [List.filter_cons_of_neg (by simp [addressed])]
      exact inductionHypothesis ((get_perform_of_aside machine addressed).trans agreed)
    | true =>
      rw [List.filter_cons_of_pos addressed]
      exact inductionHypothesis (get_perform_of_agreed agreed move)

/-- Moves that are not addressed to a direction can be left out without changing the answers to the
moves that are addressed to this direction alone. -/
theorem answersTo_of_agreed (agreed : machine.get direction = other.get direction)
    (moves : List Move) :
    machine.answersTo direction moves =
      other.answersTo direction (moves.filter (Move.concerns direction)) := by
  induction moves generalizing machine other with
  | nil => rfl
  | cons move rest inductionHypothesis =>
    cases addressed : move.concerns direction with
    | false =>
      have foreign : move.isOwn direction = false :=
        Bool.eq_false_iff.mpr fun own => Bool.eq_false_iff.mp addressed
          (Move.concerns_iff.mpr (Or.inr own))
      rw [List.filter_cons_of_neg (by simp [addressed]), answersTo_cons_of_foreign foreign]
      exact inductionHypothesis ((get_perform_of_aside machine addressed).trans agreed)
    | true =>
      have further := inductionHypothesis (get_perform_of_agreed agreed move)
      rw [List.filter_cons_of_pos addressed]
      cases own : move.isOwn direction with
      | false => rw [answersTo_cons_of_foreign own, answersTo_cons_of_foreign own, further]
      | true =>
        rw [answersTo_cons_of_own own, answersTo_cons_of_own own, further,
          (perform_of_own agreed own).1]

/-- Making some moves changes the mode of no direction. -/
theorem mode_after (machine : Machine) (moves : List Move) (direction : Direction) :
    ((machine.after moves).get direction).mode = (machine.get direction).mode := by
  induction moves generalizing machine with
  | nil => rfl
  | cons move rest inductionHypothesis =>
    exact (inductionHypothesis (machine.perform move).2).trans (mode_perform machine move direction)

/-- The directions of a timeline of any kind are independent, and what they report is true.
- After any number of moves the status of a direction is that of a machine which has only received
  the moves addressed to it, and so were the answers to all moves that are addressed to it alone.
  Its mode is the one that it started with.
- Whatever comes next then, the end of a fetch, a pushed status or a fresh start of the source, says
  that the status has changed just if the pair of statuses is another one afterwards. -/
theorem directions_apart (kind : TimelineKind) (moves : List Move) :
    (∀ direction,
      ((ofKind kind).after moves).pair.get direction =
        ((ofKind kind).after (moves.filter (Move.concerns direction))).pair.get direction ∧
      (ofKind kind).answersTo direction moves =
        (ofKind kind).answersTo direction (moves.filter (Move.concerns direction)) ∧
      (((ofKind kind).after moves).get direction).mode = ((ofKind kind).get direction).mode) ∧
    (∀ direction result, (((ofKind kind).after moves).finish direction result).1 = true ↔
      (((ofKind kind).after moves).finish direction result).2.pair ≠
        ((ofKind kind).after moves).pair) ∧
    (∀ live, (((ofKind kind).after moves).push live).1 = true ↔
      (((ofKind kind).after moves).push live).2.pair ≠ ((ofKind kind).after moves).pair) ∧
    (((ofKind kind).after moves).reset.1 = true ↔
      ((ofKind kind).after moves).reset.2.pair ≠ ((ofKind kind).after moves).pair) := by
  constructor
  · intro direction
    refine ⟨?_, answersTo_of_agreed rfl moves, mode_after _ moves direction⟩
    rw [pair, pair, Sides.get_map, Sides.get_map, get_after_of_agreed rfl moves]
  · exact ⟨finish_iff _, push_iff _, reset_iff _⟩

/-- Older entries are loaded to their end while newer ones are being fetched. The fresh start that
lets older ones load again does not end that fetch. -/
example :
    ((ofKind (.detached "$event")).after [.begin .forwards, .begin .backwards,
      .finish .backwards (.ok true), .reset]).pair = ⟨.idle, .paginating⟩ := by
  decide

end Machine

end RoomTimeline
