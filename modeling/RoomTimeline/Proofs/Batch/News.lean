import RoomTimeline.Proofs.Batch.Replay

/-!
# What a batch comes to

All that an accepted batch reports can be read off the batch and off its replay
(`applyBatch_eq_judged`): the list is the replayed one, every raw item has used up one number, a
reset has been made if one of the operations is a reset, and announced are the changes of membership
that the batch delivers as news. Which these are is told by the raw items alone
(`Batch.announced`): it depends neither on the list that they are meant for nor on what the
operations behind them do to the entries.
-/

namespace RoomTimeline

/-! ## Membership changes delivered as news -/

/-- Whether the raw item is an event that changes a membership. -/
def RawItem.isMembershipChange (raw : RawItem) : Bool :=
  match raw.kind with
  | .event _ _ content => content.isMembershipChange
  | .virtual _ => false

/-- The raw items that the operation introduces as news. What is put in front or brought by a reset
is history. -/
def Operation.introduced : Operation → List RawItem
  | .append raws => raws
  | .pushBack raw | .insert _ raw | .set _ raw => [raw]
  | .clear | .pushFront _ | .popFront | .popBack | .remove _ | .truncate _ | .reset _ => []

/-- The identifiers of the membership changes that the operation introduces, in order. -/
def Operation.announced (operation : Operation) : List EntryId :=
  (operation.introduced.filter RawItem.isMembershipChange).map RawItem.uniqueId

namespace Batch

/-- The identifiers of the membership changes that the batch introduces, in order. -/
def announced (batch : Batch) : List EntryId := batch.flatMap Operation.announced

/-- Whether one of the operations starts the list anew. -/
def resets (batch : Batch) : Bool := batch.any Operation.isReset

/-- How many raw items a batch carries. -/
def carried : Batch → Nat
  | [] => 0
  | operation :: rest => operation.carried + carried rest

end Batch

/-- An envelope is a change of membership if its raw item is one. -/
theorem isMembershipChange_ofRaw {serial : Nat} {raw : RawItem} {envelope : Envelope}
    (made : Envelope.ofRaw serial raw = .ok envelope) :
    envelope.isMembershipChange = raw.isMembershipChange := by
  obtain ⟨uniqueId, identity, kind, sendState, reactions, debugInfo⟩ := raw
  cases kind with
  | event timestamp sender content =>
    cases identity with
    | some id =>
      cases made
      rfl
    | none => cases made
  | virtual item =>
    cases identity with
    | some id => cases made
    | none =>
      cases made
      rfl

/-- Envelopes of raw items without fault announce the membership changes among the raw items. -/
theorem announced_fresh {raws : List RawItem} (sound : raws.findSome? RawItem.fault? = none)
    (serial : Nat) :
    EditScript.announced (fresh serial raws) =
      (raws.filter RawItem.isMembershipChange).map RawItem.uniqueId := by
  induction raws generalizing serial with
  | nil => rfl
  | cons raw rest inductionHypothesis =>
    obtain ⟨first, others⟩ := List.forall_mem_cons.mp (List.findSome?_eq_none_iff.mp sound)
    obtain ⟨envelope, made⟩ := ofRaw_of_sound first serial
    have further := inductionHypothesis (List.findSome?_eq_none_iff.mpr others) (serial + 1)
    unfold EditScript.announced at further ⊢
    rw [fresh_cons made, List.filter_cons, List.filter_cons, isMembershipChange_ofRaw made]
    split
    · rw [List.map_cons, List.map_cons, further, Envelope.uniqueId_ofRaw made]
    · exact further

/-- The news of a valid operation are the membership changes that it introduces. -/
theorem Operation.news_of_valid {length : Nat} {operation : Operation}
    (valid : operation.fault? length = none) (serial : Nat) :
    operation.news serial = operation.announced := by
  cases operation with
  | append raws => exact announced_fresh (Option.map_eq_none_iff.mp valid) serial
  | pushBack raw =>
    have sound : raw.fault? = none := Option.map_eq_none_iff.mp valid
    exact announced_fresh (by simp [sound]) serial
  | insert index raw | set index raw =>
    simp only [fault?] at valid
    split at valid
    · cases valid
    · have sound : raw.fault? = none := Option.map_eq_none_iff.mp valid
      exact announced_fresh (by simp [sound]) serial
  | clear | pushFront | popFront | popBack | remove | truncate | reset => rfl

/-! ## Whole batches -/

/-- Running the operations of a batch is replaying them; what has been counted, announced and
remembered before is added to. -/
theorem foldlM_step_eq (batch : Batch) (outcome : Outcome) :
    batch.foldlM Outcome.step outcome =
      (replay outcome.serial outcome.items batch).map fun final => {
        items := final
        serial := outcome.serial + batch.carried
        memberships := outcome.memberships ++ batch.announced
        didReset := outcome.didReset || batch.resets } := by
  induction batch generalizing outcome with
  | nil =>
    simp [replay, Batch.carried, Batch.announced, Batch.resets, Except.map, pure, Except.pure]
  | cons operation rest inductionHypothesis =>
    rw [List.foldlM_cons]
    cases turn : operation.fault? outcome.items.length with
    | some fault => simp [step_of_fault turn, replay, turn, bind, Except.bind, Except.map]
    | none =>
      have further := inductionHypothesis {
        items := operation.edit outcome.serial outcome.items
        serial := outcome.serial + operation.carried
        memberships := outcome.memberships ++ operation.announced
        didReset := outcome.didReset || operation.isReset }
      rw [step_of_valid turn, operation.news_of_valid turn]
      refine further.trans ?_
      simp [replay, turn, Batch.carried, Batch.announced, Batch.resets, Nat.add_assoc,
        Bool.or_assoc]

/-- A list, unless it holds an identifier twice. -/
def judged (items : List Envelope) : Except BatchFault (List Envelope) :=
  match firstRepeat? [] (items.map Envelope.uniqueId) with
  | some id => .error (.duplicateId id)
  | none => .ok items

/-- A list that passes is the same list, and holds no identifier twice. -/
theorem judged_ok {items final : List Envelope} (passed : judged items = .ok final) :
    final = items ∧ (items.map Envelope.uniqueId).Nodup := by
  unfold judged at passed
  split at passed
  · cases passed
  · rename_i once
    exact ⟨(Except.ok.inj passed).symm, ((firstRepeat?_eq_none_iff _ _).mp once).1⟩

/-- A list that does not pass holds an identifier twice, and fails for that. -/
theorem judged_error {items : List Envelope} {fault : BatchFault}
    (failed : judged items = .error fault) : ∃ id, fault = .duplicateId id := by
  unfold judged at failed
  split at failed
  · exact ⟨_, (Except.error.inj failed).symm⟩
  · cases failed

/-- What a batch comes to: its replay is judged, and the rest is read off the batch. -/
theorem applyBatch_eq_judged (serial : Nat) (items : List Envelope) (batch : Batch) :
    applyBatch serial items batch =
      ((replay serial items batch).bind judged).map fun final => {
        items := final
        serial := serial + batch.carried
        memberships := batch.announced
        didReset := batch.resets } := by
  rw [applyBatch_eq, foldlM_step_eq]
  cases replay serial items batch with
  | error fault => rfl
  | ok final =>
    simp only [Except.map, Except.bind, judged, List.nil_append, Bool.false_or]
    cases firstRepeat? [] (final.map Envelope.uniqueId) with
    | some id => rfl
    | none => rfl

/-- A batch that is taken has been replayed and holds no identifier twice; it has used up its
numbers, announces its news and remembers its resets. -/
theorem applyBatch_ok {serial : Nat} {items : List Envelope} {batch : Batch} {outcome : Outcome}
    (taken : applyBatch serial items batch = .ok outcome) :
    replay serial items batch = .ok outcome.items ∧
      (outcome.items.map Envelope.uniqueId).Nodup ∧ outcome.serial = serial + batch.carried ∧
      outcome.memberships = batch.announced ∧ outcome.didReset = batch.resets := by
  rw [applyBatch_eq_judged] at taken
  cases replayed : replay serial items batch with
  | error fault => simp [replayed, Except.bind, Except.map] at taken
  | ok final =>
    simp only [replayed, Except.bind] at taken
    cases passed : judged final with
    | error fault => simp [passed, Except.map] at taken
    | ok left =>
      obtain ⟨rfl, distinct⟩ := judged_ok passed
      simp only [passed, Except.map] at taken
      cases taken
      exact ⟨rfl, distinct, rfl, rfl, rfl⟩

end RoomTimeline
