import RoomTimeline.Batch.EditScript

/-!
# Applying a batch

The operations of a batch apply one after another, each against the list that the one before it
left. The batch fails with the first operation that fails, and a result that holds an identifier
twice is refused at the end; within the batch an identifier may be repeated for a while.

Envelopes are numbered through: the outcome holds the first serial that is still free, and a
rejected batch has no outcome, so it uses up no serial either.
-/

namespace RoomTimeline

/-- What the operations applied so far have come to. -/
structure Outcome where
  items : List Envelope
  /-- The serial that the next envelope will be made with. -/
  serial : Nat
  /-- The membership changes announced, in the order of the operations. -/
  memberships : List EntryId
  /-- Whether one of the operations was a reset. -/
  didReset : Bool

/-- Apply one more operation. -/
def Outcome.step (outcome : Outcome) (operation : Operation) : Except BatchFault Outcome := do
  let script ← operation.script outcome.serial outcome.items
  let items ← script.apply outcome.items
  .ok {
    items
    serial := outcome.serial + operation.carried
    memberships := outcome.memberships ++ script.memberships
    didReset := outcome.didReset || operation.isReset }

/-- The first identifier of a list that is among those already seen or before it in the list. -/
def firstRepeat? : List EntryId → List EntryId → Option EntryId
  | _, [] => none
  | seen, id :: rest => if id ∈ seen then some id else firstRepeat? (id :: seen) rest

/-- Apply a batch to a list, with envelopes numbered from `serial` on. -/
def applyBatch (serial : Nat) (items : List Envelope) (batch : Batch) :
    Except BatchFault Outcome := do
  let outcome ← batch.foldlM Outcome.step ⟨items, serial, [], false⟩
  match firstRepeat? [] (outcome.items.map Envelope.uniqueId) with
  | some id => .error (.duplicateId id)
  | none => .ok outcome

/-- Nothing repeats exactly when the identifiers are pairwise distinct and new. -/
theorem firstRepeat?_eq_none_iff (seen ids : List EntryId) :
    firstRepeat? seen ids = none ↔ ids.Nodup ∧ ∀ id ∈ ids, id ∉ seen := by
  induction ids generalizing seen with
  | nil => simp [firstRepeat?]
  | cons id rest ih =>
    by_cases known : id ∈ seen
    · simp [firstRepeat?, known]
    · simp only [firstRepeat?, known, if_false, ih, List.nodup_cons, List.mem_cons, not_or,
        forall_eq_or_imp, not_false_eq_true, true_and]
      constructor
      · rintro ⟨distinct, fresh⟩
        exact ⟨⟨fun member => (fresh id member).1 rfl, distinct⟩,
          fun other member => (fresh other member).2⟩
      · rintro ⟨⟨absent, distinct⟩, fresh⟩
        exact ⟨distinct, fun other member =>
          ⟨fun equal => absent (equal ▸ member), fresh other member⟩⟩

end RoomTimeline
