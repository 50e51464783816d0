import RoomTimeline.Proofs.Batch.Splitting

/-!
# Where the entries of a list come from

Each entry that a batch leaves has been there before, or it has been made by the batch from one of
the raw items that it brings (`mem_replay`). Of the entries that have been there some are lost and
the others, the `survivors`, are never moved past each other (`applyBatch_origins`). An identifier
says nothing about this: an item that comes again under the identifier of an old entry is made
again.
-/

namespace RoomTimeline

/-- The entries of a later list that stand in an earlier one too: those of the same making. -/
def survivors (earlier later : List Envelope) : List Envelope :=
  later.filter fun entry => entry.serial ∈ earlier.map Envelope.serial

/-- Survivors can be told by their numbers, if the earlier list is numbered and all of the later one
that is below its bound comes from there. -/
theorem survivors_eq {bound : Nat} {earlier later : List Envelope}
    (numbered : Numbered bound earlier)
    (known : (later.filter fun entry => entry.serial < bound).Sublist earlier) :
    survivors earlier later = later.filter fun entry => entry.serial < bound := by
  apply List.filter_congr
  intro entry member
  apply decide_eq_decide.mpr
  constructor
  · intro found
    obtain ⟨old, oldMember, same⟩ := List.mem_map.mp found
    exact same ▸ numbered.below old oldMember
  · intro below
    exact List.mem_map_of_mem
      (known.subset (List.mem_filter.mpr ⟨member, decide_eq_true below⟩))

/-! ## Entries that are made -/

/-- The raw items that a batch brings, in order. -/
def Batch.raws (batch : Batch) : List RawItem := batch.flatMap Operation.raws

/-- The fresh envelopes of two lists of raw items are those of the first and then those of the
second, numbered on from where the first list ends. -/
theorem fresh_append (serial : Nat) (raws more : List RawItem) :
    fresh serial (raws ++ more) = fresh serial raws ++ fresh (serial + raws.length) more := by
  unfold fresh
  rw [List.zipIdx_append, List.filterMap_append]

/-- A fresh envelope is made from a raw item under the number of its place. -/
theorem mem_fresh_iff {serial : Nat} {raws : List RawItem} {entry : Envelope} :
    entry ∈ fresh serial raws ↔
      ∃ index raw, raws[index]? = some raw ∧ Envelope.ofRaw (serial + index) raw = .ok entry := by
  have made : ∀ (raw : RawItem) number, (Envelope.ofRaw number raw).toOption = some entry ↔
      Envelope.ofRaw number raw = .ok entry := by
    intro raw number
    cases Envelope.ofRaw number raw <;> simp [Except.toOption]
  constructor
  · intro member
    obtain ⟨⟨raw, number⟩, numbered, result⟩ := List.mem_filterMap.mp member
    obtain ⟨behind, there⟩ := List.mem_zipIdx_iff_le_and_getElem?_sub.mp numbered
    refine ⟨number - serial, raw, there, ?_⟩
    rw [Nat.add_sub_cancel' behind]
    exact (made raw number).mp result
  · rintro ⟨index, raw, there, result⟩
    refine List.mem_filterMap.mpr ⟨(raw, serial + index), ?_, (made raw _).mpr result⟩
    exact List.mem_zipIdx_iff_le_and_getElem?_sub.mpr ⟨Nat.le_add_right _ _, by simpa using there⟩

/-- Each entry that an operation leaves was in the list before or is made from a raw item that the
operation brings. -/
theorem Operation.mem_edit {operation : Operation} {serial : Nat} {items : List Envelope}
    {entry : Envelope} (member : entry ∈ operation.edit serial items) :
    entry ∈ items ∨ entry ∈ fresh serial operation.raws := by
  obtain ⟨front, back, splice, kept⟩ := operation.edit_splice serial items
  rw [splice, List.append_assoc] at member
  rcases List.mem_append.mp member with inFront | behind
  · exact Or.inl (kept.subset (List.mem_append_left _ inFront))
  rcases List.mem_append.mp behind with new | inBack
  · exact Or.inr new
  · exact Or.inl (kept.subset (List.mem_append_right _ inBack))

/-- Each entry that a batch leaves was in the list before or is made from a raw item that the batch
brings. -/
theorem mem_replay {batch : Batch} {serial : Nat} {items final : List Envelope}
    (replayed : replay serial items batch = .ok final) {entry : Envelope}
    (member : entry ∈ final) : entry ∈ items ∨ entry ∈ fresh serial batch.raws := by
  induction batch generalizing serial items with
  | nil =>
    cases replayed
    exact Or.inl member
  | cons operation rest inductionHypothesis =>
    cases turn : operation.fault? items.length with
    | some fault => simp [replay, turn] at replayed
    | none =>
      simp only [replay, turn] at replayed
      have through : fresh serial (Batch.raws (operation :: rest)) =
          fresh serial operation.raws ++ fresh (serial + operation.carried) (Batch.raws rest) := by
        rw [← operation.length_raws, ← fresh_append]
        rfl
      rw [through, List.mem_append]
      rcases inductionHypothesis replayed with edited | later
      · exact (Operation.mem_edit edited).imp_right Or.inl
      · exact Or.inr (Or.inr later)

/-! ## One operation among others -/

/-- Each operation of a valid batch is valid on the list that the operations before it have left. -/
theorem exists_left_of_replay {serial : Nat} {items final : List Envelope} {before after : Batch}
    {operation : Operation}
    (replayed : replay serial items (before ++ operation :: after) = .ok final) :
    ∃ left, replay serial items before = .ok left ∧ operation.fault? left.length = none := by
  rw [replay_append] at replayed
  cases reached : replay serial items before with
  | error fault => simp [reached, Except.bind] at replayed
  | ok left =>
    cases turn : operation.fault? left.length with
    | some fault => simp [reached, Except.bind, replay, turn] at replayed
    | none => exact ⟨left, rfl, turn⟩

/-- An accepted batch keeps old entries as they are and in their order, and makes all others anew.
- The survivors of the list stand in the same order before and after the batch, and no entry stands
  there twice.
- Every other entry is made from one of the raw items that the batch brings, under the number which
  this item's place gives it, so no two of them are made from one item.
- No operation of the batch moves entries past each other: of those that stood before it, survivors
  stand in the same order behind it, and it brings back none that the batch has lost before. -/
theorem applyBatch_origins {serial : Nat} {items : List Envelope} {batch : Batch}
    {outcome : Outcome} (numbered : Numbered serial items)
    (taken : applyBatch serial items batch = .ok outcome) :
    (survivors items outcome.items).Sublist items ∧
    (outcome.items.map Envelope.serial).Nodup ∧
    (∀ entry ∈ outcome.items, entry ∉ survivors items outcome.items →
      ∃ index raw, batch.raws[index]? = some raw ∧
        Envelope.ofRaw (serial + index) raw = .ok entry) ∧
    ∀ before operation after, batch = before ++ operation :: after →
      ∃ left reached, before.foldlM Outcome.step ⟨items, serial, [], false⟩ = .ok left ∧
        left.step operation = .ok reached ∧
        (survivors left.items reached.items).Sublist left.items ∧
        (survivors items reached.items).Sublist (survivors items left.items) := by
  obtain ⟨replayed, -, -, -, -⟩ := applyBatch_ok taken
  have kept : ∀ {part : Batch} {left : List Envelope}, replay serial items part = .ok left →
      (left.filter fun entry => entry.serial < serial).Sublist items := fun reached =>
    (survivors_replay (Nat.le_refl serial) reached).trans List.filter_sublist
  refine ⟨?_, (numbered_replay numbered replayed).distinct, ?_, ?_⟩
  · rw [survivors_eq numbered (kept replayed)]
    exact kept replayed
  · intro entry member lost
    rcases mem_replay replayed member with old | new
    · exact absurd (List.mem_filter.mpr
        ⟨member, decide_eq_true (List.mem_map_of_mem old)⟩) lost
    · exact mem_fresh_iff.mp new
  · rintro before operation after rfl
    obtain ⟨left, reached, turn⟩ := exists_left_of_replay replayed
    have leftNumbered : Numbered (serial + Batch.carried before) left :=
      numbered_replay numbered reached
    have edited := operation.survivors_edit (Nat.le_refl (serial + Batch.carried before)) left
    have older := operation.survivors_edit (Nat.le_add_right serial (Batch.carried before)) left
    refine ⟨_, _, by rw [foldlM_step_eq, reached]; rfl, step_of_valid turn, ?_, ?_⟩
    · rw [survivors_eq leftNumbered (edited.trans List.filter_sublist)]
      exact edited.trans List.filter_sublist
    · rw [survivors_eq numbered (older.trans (kept reached)), survivors_eq numbered (kept reached)]
      exact older

/-- Of four entries the second is set, the first removed, and both their identifiers come again, one
of them in another place. The last two survive, the others are made anew; and so it is for the
removal alone, which meets one entry that the batch has made before. -/
theorem applyBatch_origins_of_identifiers_again :
    ∃ (divider : String → RawItem) (entry : Nat → String → Envelope) (outcome : Outcome)
      (left reached : Outcome),
      Numbered 6 [entry 2 "a", entry 3 "b", entry 4 "c", entry 5 "d"] ∧
      applyBatch 6 [entry 2 "a", entry 3 "b", entry 4 "c", entry 5 "d"]
        [.set 1 (divider "b"), .remove 0, .insert 2 (divider "a")] = .ok outcome ∧
      outcome.items = [entry 6 "b", entry 4 "c", entry 7 "a", entry 5 "d"] ∧
      [entry 4 "c", entry 5 "d"].Sublist [entry 2 "a", entry 3 "b", entry 4 "c", entry 5 "d"] ∧
      (∃ index raw, [divider "b", divider "a"][index]? = some raw ∧
        Envelope.ofRaw (6 + index) raw = .ok (entry 7 "a")) ∧
      left.items = [entry 2 "a", entry 6 "b", entry 4 "c", entry 5 "d"] ∧
      left.step (.remove 0) = .ok reached ∧
      (survivors left.items reached.items).Sublist left.items := by
  let divider : String → RawItem := fun id => ⟨⟨id⟩, none, .virtual (.dateDivider 0), none, [], ""⟩
  let entry : Nat → String → Envelope := fun number id => .synthesized number ⟨id⟩ (.dateDivider 0)
  let items := [entry 2 "a", entry 3 "b", entry 4 "c", entry 5 "d"]
  let outcome : Outcome :=
    ⟨[entry 6 "b", entry 4 "c", entry 7 "a", entry 5 "d"], 8, [], false⟩
  have numbered : Numbered 6 items := ⟨by decide, by decide⟩
  have taken : applyBatch 6 items [.set 1 (divider "b"), .remove 0, .insert 2 (divider "a")] =
      .ok outcome := by
    rw [applyBatch_eq_judged]
    rfl
  obtain ⟨inOrder, -, made, stepwise⟩ := applyBatch_origins numbered taken
  have new : entry 7 "a" ∉ survivors items outcome.items := by
    intro found
    have old := (List.mem_filter.mp found).2
    revert old
    decide
  obtain ⟨left, reached, first, second, kept, -⟩ := stepwise [_] (.remove 0) [_] rfl
  have leftItems : left.items = [entry 2 "a", entry 6 "b", entry 4 "c", entry 5 "d"] := by
    have ran : [Operation.set 1 (divider "b")].foldlM Outcome.step ⟨items, 6, [], false⟩ =
        .ok ⟨[entry 2 "a", entry 6 "b", entry 4 "c", entry 5 "d"], 7, [], false⟩ := by
      rw [foldlM_step_eq]
      rfl
    rw [ran] at first
    cases first
    rfl
  exact ⟨divider, entry, outcome, left, reached, numbered, taken, rfl, inOrder,
    made _ (by simp [outcome]) new, leftItems, second, kept⟩

end RoomTimeline
