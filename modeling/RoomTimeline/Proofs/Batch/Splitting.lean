import RoomTimeline.Proofs.Batch.Unnumbered

/-!
# Batches put together

A batch may be taken in two parts (`applyBatch_append`). Its first part is judged earlier then: a
list that repeats an identifier for a while is refused after the first part and would have been
accepted if a later operation had taken the repeat away. Nothing else depends on where a batch ends.

Parts of a batch are replayed one behind the other (`replay_append`), and what the batch reports is
collected and remembered part by part.
-/

namespace RoomTimeline

namespace Batch

variable (first second : Batch)

/-- The news of a batch are those of its first part and then those of its second. -/
theorem announced_append : announced (first ++ second) = announced first ++ announced second :=
  List.flatMap_append

/-- A batch resets the list if one of its parts does. -/
theorem resets_append : resets (first ++ second) = (resets first || resets second) :=
  List.any_append

end Batch

/-- The second part of a batch is replayed on what the first has left. -/
theorem replay_append (serial : Nat) (items : List Envelope) (first second : Batch) :
    replay serial items (first ++ second) =
      (replay serial items first).bind fun left =>
        replay (serial + first.carried) left second := by
  induction first generalizing serial items with
  | nil => rfl
  | cons operation rest inductionHypothesis =>
    rw [List.cons_append]
    cases turn : operation.fault? items.length with
    | some fault => simp [replay, turn, Except.bind]
    | none =>
      have further := inductionHypothesis (serial + operation.carried)
        (operation.edit serial items)
      simp only [replay, turn, Batch.carried, further, Nat.add_assoc]

/-- A batch whose first part is valid is replayed from the list that this part has left, whatever
numbers have been used up for it. -/
theorem replay_append_unnumbered {serial other : Nat} {items left : List Envelope}
    {first : Batch} (replayed : replay serial items first = .ok left) (second : Batch)
    (further : Nat) :
    (replay other items (first ++ second)).map (List.map Envelope.unnumbered) =
      (replay further left second).map (List.map Envelope.unnumbered) := by
  have alike := replay_unnumbered first (rfl : SameButNumbers items items) other serial
  rw [replayed] at alike
  rw [replay_append]
  cases otherwise : replay other items first with
  | error fault => simp [otherwise, Except.map] at alike
  | ok reached =>
    have same : SameButNumbers reached left := by
      simpa [otherwise, Except.map, SameButNumbers] using alike
    exact replay_unnumbered second same _ _

/-- A batch whose first part is not valid fails with the fault of this part. -/
theorem replay_append_of_error {serial : Nat} {items : List Envelope} {first : Batch}
    {fault : BatchFault} (failed : replay serial items first = .error fault) (second : Batch)
    (other : Nat) : replay other items (first ++ second) = .error fault := by
  have alike := replay_unnumbered first (rfl : SameButNumbers items items) other serial
  rw [failed] at alike
  rw [replay_append]
  cases otherwise : replay other items first with
  | error found =>
    have same : found = fault := by simpa [otherwise, Except.map] using alike
    rw [same]
    rfl
  | ok reached => simp [otherwise, Except.map] at alike

/-- Where a batch is split does not matter. If its first part is accepted, the whole batch comes to
what the second part comes to on the list that the first has left: to the same fault, or to the same
list, where the membership changes of the first part stand before those of the second and a reset in
either part is remembered. If the first part is refused, then it is because the list that it leaves
repeats an identifier, or the whole batch is refused for the same reason. The numbers that entries
are given play no part, so they are chosen freely for each of the three.

What a batch comes to is its replay, judged (`applyBatch_told`), and parts are replayed one behind
the other; the list between the parts is judged on one side only. -/
theorem applyBatch_append (items : List Envelope) (first second : Batch)
    (serial other further : Nat) :
    match applyBatch serial items first with
    | .ok outcome =>
      (applyBatch other items (first ++ second)).map Outcome.told =
        (applyBatch further outcome.items second).map fun rest =>
          (rest.items.map Envelope.unnumbered, outcome.memberships ++ rest.memberships,
            outcome.didReset || rest.didReset)
    | .error fault =>
      (∃ id, fault = .duplicateId id) ∨
        applyBatch other items (first ++ second) = .error fault := by
  cases result : applyBatch serial items first with
  | ok outcome =>
    obtain ⟨replayed, -, -, announced, reset⟩ := applyBatch_ok result
    have tail : ∀ rest : Except BatchFault Outcome,
        (rest.map fun rest => (rest.items.map Envelope.unnumbered,
          outcome.memberships ++ rest.memberships, outcome.didReset || rest.didReset)) =
        (rest.map Outcome.told).map fun told =>
          (told.1, outcome.memberships ++ told.2.1, outcome.didReset || told.2.2) := by
      intro rest
      cases rest <;> rfl
    dsimp only
    rw [tail, applyBatch_told, applyBatch_told, replay_append_unnumbered replayed second further,
      announced, reset, Batch.announced_append, Batch.resets_append]
    cases (((replay further outcome.items second).map (List.map Envelope.unnumbered)).bind judged)
      with
    | error fault => rfl
    | ok final => rfl
  | error fault =>
    rw [applyBatch_eq_judged] at result
    cases replayed : replay serial items first with
    | error found =>
      have same : found = fault := by simpa [replayed, Except.bind, Except.map] using result
      subst same
      refine Or.inr ?_
      rw [applyBatch_eq_judged, replay_append_of_error replayed second other]
      rfl
    | ok left =>
      refine Or.inl ?_
      cases passed : judged left with
      | error found =>
        have same : found = fault := by
          simpa [replayed, passed, Except.bind, Except.map] using result
        exact judged_error (same ▸ passed)
      | ok final => simp [replayed, passed, Except.bind, Except.map] at result

/-- A repeat that stands between the parts and not at the end: the first part alone is refused. -/
example :
    let first : Batch := [.append [⟨⟨"a"⟩, none, .virtual .readMarker, none, [], ""⟩,
      ⟨⟨"a"⟩, none, .virtual .timelineStart, none, [], ""⟩]]
    (applyBatch 0 [] first).toOption.isSome = false ∧
      (applyBatch 0 [] (first ++ [.popBack])).toOption.isSome = true := by
  cbv

end RoomTimeline
