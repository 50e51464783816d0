import RoomTimeline.Proofs.Batch.Survivors
import RoomTimeline.Render

/-!
# Batches without the numbers of entries

The number of an entry says when it was made and nothing about what it is. A batch does the same
under other numbers (`applyBatch_unnumbered`): it is refused for the same reason, or its results
differ in nothing but numbers. So what a sequence of batches builds up, `collection`, can be told
without knowing what else has used up numbers in between.
-/

namespace RoomTimeline

/-- The envelope without the number of its making. -/
def Envelope.unnumbered : Envelope → Envelope
  | .event header details => .event { header with serial := 0 } details
  | .virtual header item => .virtual { header with serial := 0 } item

/-- An envelope keeps its identifier when its number is taken away. -/
@[simp] theorem Envelope.uniqueId_unnumbered (envelope : Envelope) :
    envelope.unnumbered.uniqueId = envelope.uniqueId := by
  cases envelope <;> rfl

/-- Lists that differ in numbers only. -/
def SameButNumbers (items others : List Envelope) : Prop :=
  items.map Envelope.unnumbered = others.map Envelope.unnumbered

namespace SameButNumbers

variable {items others : List Envelope}

/-- Lists that differ in numbers only are of one length. -/
theorem length_eq (same : SameButNumbers items others) : items.length = others.length := by
  simpa using congrArg List.length same

/-- Lists that differ in numbers only hold the same identifiers in the same order. -/
theorem ids_eq (same : SameButNumbers items others) :
    items.map Envelope.uniqueId = others.map Envelope.uniqueId := by
  simpa [List.map_map, Function.comp_def] using congrArg (List.map Envelope.uniqueId) same

/-- Appending lists that differ in numbers only to such lists gives such lists again. -/
theorem append {behind otherBehind : List Envelope} (same : SameButNumbers items others)
    (sameBehind : SameButNumbers behind otherBehind) :
    SameButNumbers (items ++ behind) (others ++ otherBehind) := by
  unfold SameButNumbers at *
  rw [List.map_append, List.map_append, same, sameBehind]

/-- The first entries of lists that differ in numbers only differ in numbers only. -/
theorem take (same : SameButNumbers items others) (count : Nat) :
    SameButNumbers (items.take count) (others.take count) := by
  unfold SameButNumbers at *
  rw [List.map_take, List.map_take, same]

/-- Lists that differ in numbers only do so as well without their first entries. -/
theorem drop (same : SameButNumbers items others) (count : Nat) :
    SameButNumbers (items.drop count) (others.drop count) := by
  unfold SameButNumbers at *
  rw [List.map_drop, List.map_drop, same]

end SameButNumbers

/-- Raw items make the same envelopes whatever these are numbered from. -/
theorem fresh_sameButNumbers (serial other : Nat) (raws : List RawItem) :
    SameButNumbers (fresh serial raws) (fresh other raws) := by
  induction raws generalizing serial other with
  | nil => rfl
  | cons raw rest inductionHypothesis =>
    have further := inductionHypothesis (serial + 1) (other + 1)
    unfold SameButNumbers at further
    obtain ⟨uniqueId, identity, kind, sendState, reactions, debugInfo⟩ := raw
    cases kind <;> cases identity <;>
      simpa [SameButNumbers, fresh, List.zipIdx_cons, Envelope.ofRaw, Except.toOption,
        Envelope.unnumbered] using further

/-- An operation makes of lists that differ in numbers only such lists again, whatever number its
own entries start from. -/
theorem Operation.edit_sameButNumbers (operation : Operation) {items others : List Envelope}
    (same : SameButNumbers items others) (serial other : Nat) :
    SameButNumbers (operation.edit serial items) (operation.edit other others) := by
  cases operation with
  | append raws => exact same.append (fresh_sameButNumbers serial other raws)
  | clear => rfl
  | pushFront raw => exact (fresh_sameButNumbers serial other [raw]).append same
  | pushBack raw => exact same.append (fresh_sameButNumbers serial other [raw])
  | popFront => simpa [edit] using same.drop 1
  | popBack => simpa [edit, List.dropLast_eq_take, same.length_eq] using same.take _
  | insert index raw =>
    exact ((same.take index).append (fresh_sameButNumbers serial other [raw])).append
      (same.drop index)
  | set index raw =>
    exact ((same.take index).append (fresh_sameButNumbers serial other [raw])).append
      (same.drop (index + 1))
  | remove index => exact (same.take index).append (same.drop (index + 1))
  | truncate length => exact same
  | reset raws => exact fresh_sameButNumbers serial other raws

/-- Replaying comes to the same under other numbers: to the same fault, or to lists that differ in
numbers only. -/
theorem replay_unnumbered (batch : Batch) {items others : List Envelope}
    (same : SameButNumbers items others) (serial other : Nat) :
    (replay serial items batch).map (List.map Envelope.unnumbered) =
      (replay other others batch).map (List.map Envelope.unnumbered) := by
  induction batch generalizing serial other items others with
  | nil => exact congrArg Except.ok same
  | cons operation rest inductionHypothesis =>
    cases turn : operation.fault? items.length with
    | some fault => simp [replay, turn, same.length_eq ▸ turn]
    | none =>
      simp only [replay, turn, same.length_eq ▸ turn]
      exact inductionHypothesis (operation.edit_sameButNumbers same serial other) _ _

/-- Whether a list passes the check for repeated identifiers does not depend on the numbers of its
entries. -/
theorem judged_unnumbered (items : List Envelope) :
    (judged items).map (List.map Envelope.unnumbered) =
      judged (items.map Envelope.unnumbered) := by
  have sameIds : (items.map Envelope.unnumbered).map Envelope.uniqueId =
      items.map Envelope.uniqueId := by
    simp [List.map_map, Function.comp_def]
  unfold judged
  rw [sameIds]
  cases firstRepeat? [] (items.map Envelope.uniqueId) with
  | some id => rfl
  | none => rfl

/-- What an outcome says of a batch, the numbers of its entries apart. -/
def Outcome.told (outcome : Outcome) : List Envelope × List EntryId × Bool :=
  (outcome.items.map Envelope.unnumbered, outcome.memberships, outcome.didReset)

/-- What a batch comes to depends on its replay without the numbers, and on the batch. -/
theorem applyBatch_told (serial : Nat) (items : List Envelope) (batch : Batch) :
    (applyBatch serial items batch).map Outcome.told =
      (((replay serial items batch).map (List.map Envelope.unnumbered)).bind judged).map
        fun final => (final, batch.announced, batch.resets) := by
  rw [applyBatch_eq_judged]
  cases replay serial items batch with
  | error fault => rfl
  | ok left =>
    simp only [Except.bind, Except.map, ← judged_unnumbered]
    cases judged left with
    | error fault => rfl
    | ok final => rfl

/-- What a batch comes to, the numbers apart, does not depend on the numbers of the list or on the
first one that is given out. -/
theorem told_unnumbered (batch : Batch) {items others : List Envelope}
    (same : SameButNumbers items others) (serial other : Nat) :
    (applyBatch serial items batch).map Outcome.told =
      (applyBatch other others batch).map Outcome.told := by
  rw [applyBatch_told, applyBatch_told, replay_unnumbered batch same serial other]

/-- The list that a batch leaves, the numbers apart, does not depend on the numbers of the list
before or on the first one that is given out. -/
theorem applyBatch_unnumbered (batch : Batch) {items others : List Envelope}
    (same : SameButNumbers items others) (serial other : Nat) :
    (applyBatch serial items batch).map (fun outcome => outcome.items.map Envelope.unnumbered) =
      (applyBatch other others batch).map fun outcome =>
        outcome.items.map Envelope.unnumbered := by
  have list : ∀ result : Except BatchFault Outcome,
      result.map (fun outcome => outcome.items.map Envelope.unnumbered) =
        (result.map Outcome.told).map Prod.fst := by
    intro result
    cases result <;> rfl
  rw [list, list, told_unnumbered batch same serial other]

/-! ## What batches build up -/

/-- The next free number and the list after one more batch. A batch that cannot be applied is
skipped. -/
def afterBatch (reached : Nat × List Envelope) (batch : Batch) : Nat × List Envelope :=
  match applyBatch reached.1 reached.2 batch with
  | .ok outcome => (outcome.serial, outcome.items)
  | .error _ => reached

/-- One more batch keeps lists alike that differ in numbers only. -/
theorem afterBatch_sameButNumbers {reached other : Nat × List Envelope}
    (same : SameButNumbers reached.2 other.2) (batch : Batch) :
    SameButNumbers (afterBatch reached batch).2 (afterBatch other batch).2 := by
  have alike := applyBatch_unnumbered batch same reached.1 other.1
  unfold afterBatch
  cases run : applyBatch reached.1 reached.2 batch with
  | error fault =>
    cases otherRun : applyBatch other.1 other.2 batch with
    | error otherFault => exact same
    | ok outcome => simp [run, otherRun, Except.map] at alike
  | ok outcome =>
    cases otherRun : applyBatch other.1 other.2 batch with
    | error otherFault => simp [run, otherRun, Except.map] at alike
    | ok otherOutcome => simpa [run, otherRun, Except.map, SameButNumbers] using alike

/-- What batches build up from nothing, one after another. -/
def collection (batches : List Batch) : List Envelope :=
  (batches.foldl afterBatch (firstSerial, [])).2

/-- One more batch goes on from what the batches before it have built up, whatever number it is
given to start from. -/
theorem collection_concat (batches : List Batch) (batch : Batch) {items : List Envelope}
    (same : SameButNumbers items (collection batches)) (serial : Nat) :
    SameButNumbers (afterBatch (serial, items) batch).2 (collection (batches ++ [batch])) := by
  unfold collection
  rw [List.foldl_append]
  exact afterBatch_sameButNumbers same batch

end RoomTimeline
