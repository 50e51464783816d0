import RoomTimeline.Proofs.Batch.Unnumbered

/-!
# The batches that can be applied

Of a sequence of batches, each of which meets what those before it have left, some cannot be applied
and are skipped. `acceptedFrom` keeps the others. They are the same whatever numbers the entries
have been given (`acceptedFrom_unnumbered`), and a sequence may be taken apart anywhere
(`acceptedFrom_append`).
-/

namespace RoomTimeline

/-- The batches that can be applied, from a first free number and a list on, each to what those
before it have left. -/
def acceptedFrom (reached : Nat × List Envelope) : List Batch → List Batch
  | [] => []
  | batch :: rest =>
    match applyBatch reached.1 reached.2 batch with
    | .ok outcome => batch :: acceptedFrom (outcome.serial, outcome.items) rest
    | .error _ => acceptedFrom reached rest

/-- The batches that can be applied, one after another, from nothing on. -/
def accepted (batches : List Batch) : List Batch := acceptedFrom (firstSerial, []) batches

/-- Of the batches from a list on, one that can be applied at its turn is kept. -/
theorem acceptedFrom_of_taken {serial : Nat} {items : List Envelope} {batch : Batch}
    {outcome : Outcome} (taken : applyBatch serial items batch = .ok outcome) (rest : List Batch) :
    acceptedFrom (serial, items) (batch :: rest) =
      batch :: acceptedFrom (outcome.serial, outcome.items) rest := by
  simp [acceptedFrom, taken]

/-- Of the batches from a list on, one that cannot be applied at its turn is skipped. -/
theorem acceptedFrom_of_refused {serial : Nat} {items : List Envelope} {batch : Batch}
    {fault : BatchFault} (refused : applyBatch serial items batch = .error fault)
    (rest : List Batch) :
    acceptedFrom (serial, items) (batch :: rest) = acceptedFrom (serial, items) rest := by
  simp [acceptedFrom, refused]

/-- A batch that can be applied leads to the outcome's next number and list. -/
theorem afterBatch_of_taken {serial : Nat} {items : List Envelope} {batch : Batch}
    {outcome : Outcome} (taken : applyBatch serial items batch = .ok outcome) :
    afterBatch (serial, items) batch = (outcome.serial, outcome.items) := by
  simp [afterBatch, taken]

/-- A batch that cannot be applied leaves the next number and the list as they were. -/
theorem afterBatch_of_refused {serial : Nat} {items : List Envelope} {batch : Batch}
    {fault : BatchFault} (refused : applyBatch serial items batch = .error fault) :
    afterBatch (serial, items) batch = (serial, items) := by
  simp [afterBatch, refused]

/-- Which of some further batches can be applied is decided on what the batches before them have
left. -/
theorem acceptedFrom_append (reached : Nat × List Envelope) (batches others : List Batch) :
    acceptedFrom reached (batches ++ others) =
      acceptedFrom reached batches ++ acceptedFrom (batches.foldl afterBatch reached) others := by
  induction batches generalizing reached with
  | nil => rfl
  | cons batch rest inductionHypothesis =>
    obtain ⟨serial, items⟩ := reached
    cases result : applyBatch serial items batch with
    | ok outcome =>
      rw [List.cons_append, acceptedFrom_of_taken result, acceptedFrom_of_taken result,
        inductionHypothesis, List.foldl_cons, afterBatch_of_taken result, List.cons_append]
    | error fault =>
      rw [List.cons_append, acceptedFrom_of_refused result, acceptedFrom_of_refused result,
        inductionHypothesis, List.foldl_cons, afterBatch_of_refused result]

/-- Batches keep lists alike that differ in numbers only. -/
theorem foldl_afterBatch_sameButNumbers (batches : List Batch) {reached other : Nat × List Envelope}
    (same : SameButNumbers reached.2 other.2) :
    SameButNumbers (batches.foldl afterBatch reached).2 (batches.foldl afterBatch other).2 := by
  induction batches generalizing reached other with
  | nil => exact same
  | cons batch rest inductionHypothesis =>
    exact inductionHypothesis (afterBatch_sameButNumbers same batch)

/-- Which batches can be applied does not depend on the numbers of the entries. -/
theorem acceptedFrom_unnumbered (batches : List Batch) {reached other : Nat × List Envelope}
    (same : SameButNumbers reached.2 other.2) :
    acceptedFrom reached batches = acceptedFrom other batches := by
  induction batches generalizing reached other with
  | nil => rfl
  | cons batch rest inductionHypothesis =>
    obtain ⟨serial, items⟩ := reached
    obtain ⟨otherSerial, others⟩ := other
    have alike := applyBatch_unnumbered batch same serial otherSerial
    cases result : applyBatch serial items batch with
    | ok outcome =>
      cases otherResult : applyBatch otherSerial others batch with
      | ok otherOutcome =>
        have sameItems : SameButNumbers outcome.items otherOutcome.items := by
          simpa [result, otherResult, Except.map, SameButNumbers] using alike
        have further : acceptedFrom (outcome.serial, outcome.items) rest =
            acceptedFrom (otherOutcome.serial, otherOutcome.items) rest :=
          inductionHypothesis sameItems
        rw [acceptedFrom_of_taken result, acceptedFrom_of_taken otherResult, further]
      | error otherFault => simp [result, otherResult, Except.map] at alike
    | error fault =>
      cases otherResult : applyBatch otherSerial others batch with
      | ok otherOutcome => simp [result, otherResult, Except.map] at alike
      | error otherFault =>
        rw [acceptedFrom_of_refused result, acceptedFrom_of_refused otherResult]
        exact inductionHypothesis same

end RoomTimeline
