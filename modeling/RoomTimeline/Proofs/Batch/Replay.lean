import RoomTimeline.Batch

/-!
# Batches as plain list editing

`replay` runs the operations of a batch on a list in the obvious way: it appends, takes and drops
entries directly, each operation against the list that the one before it has left, and stops at
the first operation that is not valid at its turn. It knows neither edit scripts nor offsets that
count before or after an edit. Whether an operation is valid depends on the length of the list at
that moment and on the raw items it brings; `Operation.fault?` says so in one place.

`applyBatch` and `replay` agree: same list, entry for entry and making for making, same fault, and
an identifier that the final list would hold twice is the only thing refused beyond that. The
proof goes through edit scripts, operation by operation: a script removes from the highest offset
down and inserts from the lowest up, and under this order each kind of script amounts to the list
editing of its operation.
-/

namespace RoomTimeline

/-! ## Editing lists directly -/

/-- Why a raw item makes no envelope, if it makes none: an event needs an identity, and a virtual
item must not have one. -/
def RawItem.fault? (raw : RawItem) : Option EnvelopeFault :=
  match raw.kind, raw.identity with
  | .event _ _ _, none => some (.missingIdentity raw.uniqueId)
  | .virtual _, some id => some (.virtualWithIdentity raw.uniqueId id)
  | .event _ _ _, some _ | .virtual _, none => none

/-- The envelopes of raw items, numbered in order. -/
def fresh (serial : Nat) (raws : List RawItem) : List Envelope :=
  (raws.zipIdx serial).filterMap fun (raw, number) => (Envelope.ofRaw number raw).toOption

namespace Operation

/-- The raw items that the operation brings, in order. -/
def raws : Operation → List RawItem
  | .append raws | .reset raws => raws
  | .pushFront raw | .pushBack raw | .insert _ raw | .set _ raw => [raw]
  | .clear | .popFront | .popBack | .remove _ | .truncate _ => []

/-- Why the operation cannot be carried out on a list of some length. A position is looked at
before the item that goes there, and of several items the first bad one counts. -/
def fault? (length : Nat) : Operation → Option BatchFault
  | .append raws | .reset raws => (raws.findSome? RawItem.fault?).map .invalidItem
  | .pushFront raw | .pushBack raw => raw.fault?.map .invalidItem
  | .popFront => if length = 0 then some (.emptyTimeline .popFront) else none
  | .popBack => if length = 0 then some (.emptyTimeline .popBack) else none
  | .insert index raw =>
    if length < index then some (.indexOutOfBounds .insert index length)
    else raw.fault?.map .invalidItem
  | .set index raw =>
    if length ≤ index then some (.indexOutOfBounds .set index length)
    else raw.fault?.map .invalidItem
  | .remove index =>
    if length ≤ index then some (.indexOutOfBounds .remove index length) else none
  | .clear | .truncate _ => none

/-- What a valid operation makes of a list. -/
def edit (serial : Nat) (items : List Envelope) : Operation → List Envelope
  | .append raws => items ++ fresh serial raws
  | .clear => []
  | .pushFront raw => fresh serial [raw] ++ items
  | .pushBack raw => items ++ fresh serial [raw]
  | .popFront => items.tail
  | .popBack => items.dropLast
  | .insert index raw => items.take index ++ fresh serial [raw] ++ items.drop index
  | .set index raw => items.take index ++ fresh serial [raw] ++ items.drop (index + 1)
  | .remove index => items.take index ++ items.drop (index + 1)
  | .truncate _ => items
  | .reset raws => fresh serial raws

/-- The membership changes that a valid operation announces. What is put in front or brought by
a reset is history, not news. -/
def news (serial : Nat) : Operation → List EntryId
  | .append raws => EditScript.announced (fresh serial raws)
  | .pushBack raw | .insert _ raw | .set _ raw => EditScript.announced (fresh serial [raw])
  | .clear | .pushFront _ | .popFront | .popBack | .remove _ | .truncate _ | .reset _ => []

end Operation

/-- Carry out the operations of a batch one after another, each on the list that the one before
it has left, up to the first that is not valid at its turn. -/
def replay : Nat → List Envelope → Batch → Except BatchFault (List Envelope)
  | _, items, [] => .ok items
  | serial, items, operation :: rest =>
    match operation.fault? items.length with
    | some fault => .error fault
    | none => replay (serial + operation.carried) (operation.edit serial items) rest

/-! ## Wrapping raw items -/

/-- A raw item with a fault makes no envelope, for just this fault. -/
theorem ofRaw_of_fault {raw : RawItem} {fault : EnvelopeFault} (faulty : raw.fault? = some fault)
    (serial : Nat) : Envelope.ofRaw serial raw = .error fault := by
  obtain ⟨uniqueId, identity, kind, sendState, reactions, debugInfo⟩ := raw
  cases kind <;> cases identity <;> simp_all [RawItem.fault?, Envelope.ofRaw]

/-- A raw item without fault makes an envelope, whatever its number. -/
theorem ofRaw_of_sound {raw : RawItem} (sound : raw.fault? = none) (serial : Nat) :
    ∃ envelope, Envelope.ofRaw serial raw = .ok envelope := by
  obtain ⟨uniqueId, identity, kind, sendState, reactions, debugInfo⟩ := raw
  cases kind <;> cases identity <;> simp_all [RawItem.fault?, Envelope.ofRaw]

/-- The envelopes of some raw items are that of the first and those of the rest. -/
theorem fresh_cons {serial : Nat} {raw : RawItem} {envelope : Envelope}
    (made : Envelope.ofRaw serial raw = .ok envelope) (rest : List RawItem) :
    fresh serial (raw :: rest) = envelope :: fresh (serial + 1) rest := by
  simp [fresh, List.zipIdx_cons, made, Except.toOption]

/-- Wrapping a raw item with a fault fails with this fault. -/
theorem wrap_of_fault {raw : RawItem} {fault : EnvelopeFault} (faulty : raw.fault? = some fault)
    (serial : Nat) : wrap serial raw = .error (.invalidItem fault) := by
  unfold wrap
  rw [ofRaw_of_fault faulty]
  rfl

/-- Wrapping a raw item gives the envelope that is made of it. -/
theorem wrap_of_made {serial : Nat} {raw : RawItem} {envelope : Envelope}
    (made : Envelope.ofRaw serial raw = .ok envelope) : wrap serial raw = .ok envelope := by
  unfold wrap
  rw [made]
  rfl

/-- Wrapping a raw item without fault gives its one fresh envelope. -/
theorem wrap_of_sound {raw : RawItem} (sound : raw.fault? = none) (serial : Nat) :
    ∃ envelope, wrap serial raw = .ok envelope ∧ fresh serial [raw] = [envelope] := by
  obtain ⟨envelope, made⟩ := ofRaw_of_sound sound serial
  exact ⟨envelope, wrap_of_made made, fresh_cons made []⟩

/-- Wrapping a list fails with the fault of its first bad item, and otherwise gives the fresh
envelopes. -/
theorem wrapAll_eq (serial : Nat) (raws : List RawItem) :
    wrapAll serial raws =
      match raws.findSome? RawItem.fault? with
      | some fault => .error (.invalidItem fault)
      | none => .ok (fresh serial raws) := by
  induction raws generalizing serial with
  | nil => rfl
  | cons raw rest inductionHypothesis =>
    cases found : raw.fault? with
    | some fault => simp [wrapAll, wrap_of_fault found, found, bind, Except.bind]
    | none =>
      obtain ⟨envelope, made⟩ := ofRaw_of_sound found serial
      simp only [wrapAll, wrap_of_made made, inductionHypothesis, List.findSome?_cons, found, bind,
        Except.bind, fresh_cons made]
      cases rest.findSome? RawItem.fault? <;> rfl

/-! ## Applying scripts -/

namespace EditScript

/-- A script whose removals and insertions are listed in ascending order takes out the removed
entries from the last to the first and puts in the new ones from the first to the last. -/
theorem apply_of_ascending {script : EditScript} (removed : List Nat)
    (inserted : List (Nat × Envelope))
    (removals : script.changes.filterMap Change.removal? = removed)
    (insertions : script.changes.filterMap Change.insertion? = inserted)
    (removedAscend : removed.Pairwise (· < ·))
    (insertedAscend : (inserted.map Prod.fst).Pairwise (· < ·)) (items : List Envelope) :
    script.apply items = (do
      let kept ← removed.reverse.foldlM removeAt items
      inserted.foldlM insertAt kept) := by
  have removedSorted : script.removals = removed := by
    unfold EditScript.removals
    rw [removals]
    exact List.mergeSort_of_pairwise
      (removedAscend.imp fun less => by simpa using Nat.le_of_lt less)
  have insertedSorted : script.insertions = inserted := by
    unfold EditScript.insertions
    rw [insertions]
    exact List.mergeSort_of_pairwise
      ((List.pairwise_map.mp insertedAscend).imp fun less => by simpa using Nat.le_of_lt less)
  have removedOnce : removed.Nodup := removedAscend.imp Nat.ne_of_lt
  have insertedOnce : (inserted.map Prod.fst).Nodup := insertedAscend.imp Nat.ne_of_lt
  simp [apply, removedSorted, insertedSorted, removedOnce, insertedOnce]

/-- Removing every entry from the last to the first leaves nothing. -/
theorem removeAll (items : List Envelope) :
    (List.range items.length).reverse.foldlM removeAt items = .ok [] := by
  generalize size : items.length = count
  induction count generalizing items with
  | zero => simp [List.length_eq_zero_iff.mp size, pure, Except.pure]
  | succ count inductionHypothesis =>
    have inside : count < items.length := by omega
    have shorter : (items.eraseIdx count).length = count := by
      rw [List.length_eraseIdx_of_lt inside]
      omega
    simp only [List.range_succ, List.reverse_append, List.reverse_cons, List.reverse_nil,
      List.nil_append, List.cons_append, List.foldlM_cons, removeAt, inside, if_true]
    exact inductionHypothesis (items.eraseIdx count) shorter

/-- The insertions of entries side by side hold the first entry and those of the rest. -/
theorem insertions_cons (offset : Nat) (entry : Envelope) (rest : List Envelope) :
    (Change.insertions offset (entry :: rest)).filterMap Change.insertion? =
      (offset, entry) :: (Change.insertions (offset + 1) rest).filterMap Change.insertion? := rfl

/-- Inserting entries side by side from the end on appends them. -/
theorem insertBehind (entries kept : List Envelope) :
    ((Change.insertions kept.length entries).filterMap Change.insertion?).foldlM insertAt kept =
      .ok (kept ++ entries) := by
  induction entries generalizing kept with
  | nil => simp [Change.insertions, pure, Except.pure]
  | cons entry rest inductionHypothesis =>
    have longer : (kept ++ [entry]).length = kept.length + 1 := by simp
    have inserted : insertAt kept (kept.length, entry) = .ok (kept ++ [entry]) := by
      simp [insertAt]
    rw [insertions_cons, List.foldlM_cons, inserted, ← longer]
    simpa [bind, Except.bind] using inductionHypothesis (kept ++ [entry])

/-- Insertions side by side ascend, from their first offset on. -/
theorem insertions_ascend (offset : Nat) (entries : List Envelope) :
    (((Change.insertions offset entries).filterMap Change.insertion?).map Prod.fst).Pairwise
      (· < ·) ∧
    ∀ place ∈ ((Change.insertions offset entries).filterMap Change.insertion?).map Prod.fst,
      offset ≤ place := by
  induction entries generalizing offset with
  | nil => simp [Change.insertions]
  | cons entry rest inductionHypothesis =>
    obtain ⟨ascend, above⟩ := inductionHypothesis (offset + 1)
    rw [insertions_cons, List.map_cons]
    refine ⟨List.pairwise_cons.mpr ⟨fun place member => above place member, ascend⟩, ?_⟩
    intro place member
    rcases List.mem_cons.mp member with rfl | member
    · exact Nat.le_refl _
    · exact Nat.le_of_succ_le (above place member)

/-- Insertions remove nothing. -/
theorem removal_insertions (offset : Nat) (entries : List Envelope) :
    (Change.insertions offset entries).filterMap Change.removal? = [] := by
  induction entries generalizing offset with
  | nil => rfl
  | cons entry rest inductionHypothesis => exact inductionHypothesis (offset + 1)

/-- The removals of the first entries name just the offsets of these, and insert nothing. -/
theorem removal_removals (count : Nat) :
    (Change.removals count).filterMap Change.removal? = List.range count ∧
      (Change.removals count).filterMap Change.insertion? = [] := by
  constructor
  · simp [Change.removals, List.filterMap_map, Function.comp_def, Change.removal?]
  · simp [Change.removals, List.filterMap_map, Function.comp_def, Change.insertion?]

/-! ### The scripts of the operations -/

/-- A script that inserts entries side by side from the end of the list on appends them. -/
theorem apply_append (items entries : List Envelope) (memberships : List EntryId) :
    apply ⟨Change.insertions items.length entries, memberships⟩ items = .ok (items ++ entries) := by
  rw [apply_of_ascending [] _ (removal_insertions _ _) rfl List.Pairwise.nil
    (insertions_ascend items.length entries).1]
  exact insertBehind entries items

/-- A script that removes the whole list and inserts entries side by side from the front on leaves
just these entries. -/
theorem apply_replace (items entries : List Envelope) (memberships : List EntryId) :
    apply ⟨Change.removals items.length ++ Change.insertions 0 entries, memberships⟩ items =
      .ok entries := by
  obtain ⟨removed, noneInserted⟩ := removal_removals items.length
  rw [apply_of_ascending (List.range items.length)
    ((Change.insertions 0 entries).filterMap Change.insertion?)
    (by simp [removed, removal_insertions]) (by simp [noneInserted])
    List.pairwise_lt_range (insertions_ascend 0 entries).1, removeAll]
  exact insertBehind entries []

/-- Inserting an entry in a list puts it between the part before its place and the part from there
on. -/
theorem insertIdx_split {items : List Envelope} {index : Nat} (inside : index ≤ items.length)
    (entry : Envelope) :
    items.insertIdx index entry = items.take index ++ [entry] ++ items.drop index := by
  induction items generalizing index with
  | nil =>
    have first : index = 0 := Nat.le_zero.mp inside
    simp [first]
  | cons head rest inductionHypothesis =>
    cases index with
    | zero => simp
    | succ index => simp [inductionHypothesis (Nat.le_of_succ_le_succ inside)]

/-- A script of one insertion puts the entry to its place and changes nothing else. -/
theorem apply_insert {items : List Envelope} {index : Nat} (inside : index ≤ items.length)
    (entry : Envelope) (memberships : List EntryId) :
    apply ⟨[.insert index entry], memberships⟩ items =
      .ok (items.take index ++ [entry] ++ items.drop index) := by
  rw [apply_of_ascending [] [(index, entry)] rfl rfl (by simp) (by simp)]
  simp [insertAt, inside, insertIdx_split inside, bind, Except.bind, pure, Except.pure]

/-- A script of one removal takes out the entry in its place and changes nothing else. -/
theorem apply_remove {items : List Envelope} {index : Nat} (inside : index < items.length)
    (memberships : List EntryId) :
    apply ⟨[.remove index], memberships⟩ items =
      .ok (items.take index ++ items.drop (index + 1)) := by
  rw [apply_of_ascending [index] [] rfl rfl (by simp) (by simp)]
  simp [removeAt, inside, bind, Except.bind, pure, Except.pure, List.eraseIdx_eq_take_drop_succ]

/-- A script of a removal and an insertion at one place puts the new entry in the place of the old
one. -/
theorem apply_set {items : List Envelope} {index : Nat} (inside : index < items.length)
    (entry : Envelope) (memberships : List EntryId) :
    apply ⟨[.remove index, .insert index entry], memberships⟩ items =
      .ok (items.take index ++ [entry] ++ items.drop (index + 1)) := by
  have kept : index ≤ (items.eraseIdx index).length := by
    rw [List.length_eraseIdx_of_lt inside]
    omega
  have front : (items.take index).length = index := List.length_take_of_le (Nat.le_of_lt inside)
  have replaced : (items.eraseIdx index).insertIdx index entry =
      items.take index ++ [entry] ++ items.drop (index + 1) := by
    rw [insertIdx_split kept, List.eraseIdx_eq_take_drop_succ, List.take_left' front,
      List.drop_left' front]
  rw [apply_of_ascending [index] [(index, entry)] rfl rfl (by simp) (by simp)]
  simp [removeAt, inside, insertAt, kept, replaced, bind, Except.bind, pure, Except.pure]

end EditScript

namespace Operation

/-- An operation that is not valid makes no script, for just its fault. -/
theorem script_of_fault {serial : Nat} {items : List Envelope} {operation : Operation}
    {fault : BatchFault} (faulty : operation.fault? items.length = some fault) :
    operation.script serial items = .error fault := by
  cases operation with
  | append raws | reset raws =>
    obtain ⟨bad, found, rfl⟩ := Option.map_eq_some_iff.mp faulty
    simp [script, wrapAll_eq, found, bind, Except.bind]
  | pushFront raw | pushBack raw =>
    obtain ⟨bad, found, rfl⟩ := Option.map_eq_some_iff.mp faulty
    simp [script, wrap_of_fault found, bind, Except.bind]
  | insert index raw | set index raw =>
    simp only [fault?] at faulty
    split at faulty
    case isTrue outside =>
      cases faulty
      simp [script, outside]
    case isFalse inside =>
      obtain ⟨bad, found, rfl⟩ := Option.map_eq_some_iff.mp faulty
      simp [script, inside, wrap_of_fault found, bind, Except.bind]
  | popFront | popBack | remove index =>
    simp only [fault?] at faulty
    split at faulty
    case isTrue outside =>
      cases faulty
      simp [script, outside]
    case isFalse => cases faulty
  | clear | truncate length => cases faulty

/-- A valid operation makes a script, which edits the list as the operation does and announces
its news. -/
theorem script_of_valid {items : List Envelope} {operation : Operation} (serial : Nat)
    (valid : operation.fault? items.length = none) :
    ∃ script, operation.script serial items = .ok script ∧
      script.apply items = .ok (operation.edit serial items) ∧
      script.memberships = operation.news serial := by
  cases operation with
  | append raws =>
    have sound : raws.findSome? RawItem.fault? = none := by simpa [fault?] using valid
    exact ⟨_, by simp [script, wrapAll_eq, sound, bind, Except.bind]; rfl,
      EditScript.apply_append items _ _, rfl⟩
  | clear =>
    refine ⟨_, rfl, ?_, rfl⟩
    simpa [Change.insertions, edit] using EditScript.apply_replace items [] []
  | pushFront raw =>
    have sound : raw.fault? = none := by simpa [fault?] using valid
    obtain ⟨entry, wrapped, made⟩ := wrap_of_sound sound serial
    refine ⟨⟨[.insert 0 entry], []⟩, by simp [script, wrapped, bind, Except.bind], ?_, rfl⟩
    simpa [edit, made] using EditScript.apply_insert (Nat.zero_le items.length) entry []
  | pushBack raw =>
    have sound : raw.fault? = none := by simpa [fault?] using valid
    obtain ⟨entry, wrapped, made⟩ := wrap_of_sound sound serial
    refine ⟨_, by simp [script, wrapped, bind, Except.bind]; rfl, ?_, by simp [news, made]⟩
    simpa [edit, made] using EditScript.apply_insert (Nat.le_refl items.length) entry _
  | popFront =>
    have inside : items.length ≠ 0 := by
      intro empty
      simp [fault?, empty] at valid
    refine ⟨⟨[.remove 0], []⟩, by simp [script, inside], ?_, rfl⟩
    simpa [edit] using EditScript.apply_remove (Nat.pos_of_ne_zero inside) []
  | popBack =>
    have inside : items.length ≠ 0 := by
      intro empty
      simp [fault?, empty] at valid
    have last : items.length - 1 < items.length := by omega
    have nothingAfter : items.length ≤ items.length - 1 + 1 := by omega
    refine ⟨⟨[.remove (items.length - 1)], []⟩, by simp [script, inside], ?_, rfl⟩
    rw [EditScript.apply_remove last, List.drop_of_length_le nothingAfter, edit,
      List.dropLast_eq_take, List.append_nil]
  | insert index raw =>
    have inside : index ≤ items.length := by
      refine Nat.le_of_not_lt ?_
      intro outside
      simp [fault?, outside] at valid
    have sound : raw.fault? = none := by simpa [fault?, Nat.not_lt.mpr inside] using valid
    obtain ⟨entry, wrapped, made⟩ := wrap_of_sound sound serial
    refine ⟨_, by simp [script, Nat.not_lt.mpr inside, wrapped, bind, Except.bind]; rfl, ?_,
      by simp [news, made]⟩
    simpa [edit, made] using EditScript.apply_insert inside entry _
  | set index raw =>
    have inside : index < items.length := by
      refine Nat.lt_of_not_le ?_
      intro outside
      simp [fault?, outside] at valid
    have sound : raw.fault? = none := by simpa [fault?, Nat.not_le.mpr inside] using valid
    obtain ⟨entry, wrapped, made⟩ := wrap_of_sound sound serial
    refine ⟨_, by simp [script, Nat.not_le.mpr inside, wrapped, bind, Except.bind]; rfl, ?_,
      by simp [news, made]⟩
    simpa [edit, made] using EditScript.apply_set inside entry _
  | remove index =>
    have inside : index < items.length := by
      refine Nat.lt_of_not_le ?_
      intro outside
      simp [fault?, outside] at valid
    refine ⟨⟨[.remove index], []⟩, by simp [script, Nat.not_le.mpr inside], ?_, rfl⟩
    exact EditScript.apply_remove inside []
  | truncate length =>
    refine ⟨⟨[], []⟩, rfl, ?_, rfl⟩
    simpa [Change.insertions, edit] using EditScript.apply_append items [] []
  | reset raws =>
    have sound : raws.findSome? RawItem.fault? = none := by simpa [fault?] using valid
    exact ⟨_, by simp [script, wrapAll_eq, sound, bind, Except.bind]; rfl,
      EditScript.apply_replace items _ _, rfl⟩

end Operation

/-! ## Whole batches -/

/-- One step of a batch fails as its operation does, and otherwise edits the list directly. -/
theorem step_of_fault {outcome : Outcome} {operation : Operation} {fault : BatchFault}
    (faulty : operation.fault? outcome.items.length = some fault) :
    outcome.step operation = .error fault := by
  simp [Outcome.step, Operation.script_of_fault faulty, bind, Except.bind]

/-- A valid operation edits the list directly, uses up one number for each raw item it brings,
adds its news and remembers a reset. -/
theorem step_of_valid {outcome : Outcome} {operation : Operation}
    (valid : operation.fault? outcome.items.length = none) :
    outcome.step operation = .ok {
      items := operation.edit outcome.serial outcome.items
      serial := outcome.serial + operation.carried
      memberships := outcome.memberships ++ operation.news outcome.serial
      didReset := outcome.didReset || operation.isReset } := by
  obtain ⟨script, built, applied, announced⟩ := Operation.script_of_valid outcome.serial valid
  simp [Outcome.step, built, applied, announced, bind, Except.bind]

/-- Running the operations of a batch through their scripts is replaying them: the same fault, or
the same list. -/
theorem foldlM_step_eq_replay (batch : Batch) (outcome : Outcome) :
    (batch.foldlM Outcome.step outcome).map Outcome.items =
      replay outcome.serial outcome.items batch := by
  induction batch generalizing outcome with
  | nil => rfl
  | cons operation rest inductionHypothesis =>
    rw [List.foldlM_cons]
    cases turn : operation.fault? outcome.items.length with
    | some fault => simp [step_of_fault turn, replay, turn, bind, Except.bind, Except.map]
    | none =>
      simp only [step_of_valid turn, replay, turn]
      exact inductionHypothesis _

/-- Replaying fails only at an operation of the batch that is not valid on the list that the
operations before it have left. -/
theorem replay_error {serial : Nat} {items : List Envelope} {batch : Batch} {fault : BatchFault}
    (failed : replay serial items batch = .error fault) :
    ∃ before operation after left, batch = before ++ operation :: after ∧
      replay serial items before = .ok left ∧ operation.fault? left.length = some fault := by
  induction batch generalizing serial items with
  | nil => cases failed
  | cons operation rest inductionHypothesis =>
    cases turn : operation.fault? items.length with
    | some found =>
      have same : found = fault := by simpa [replay, turn] using failed
      exact ⟨[], operation, rest, items, rfl, rfl, same ▸ turn⟩
    | none =>
      simp only [replay, turn] at failed
      obtain ⟨before, later, after, left, rfl, reached, faulty⟩ := inductionHypothesis failed
      exact ⟨operation :: before, later, after, left, rfl, by simp [replay, turn, reached], faulty⟩

/-- The first repeat of a list stands behind an entry equal to it, and nothing before it repeats. -/
theorem firstRepeat?_eq_some {seen ids : List EntryId} {id : EntryId}
    (found : firstRepeat? seen ids = some id) :
    ∃ earlier later, ids = earlier ++ id :: later ∧ earlier.Nodup ∧
      (∀ other ∈ earlier, other ∉ seen) ∧ (id ∈ seen ∨ id ∈ earlier) := by
  induction ids generalizing seen with
  | nil => cases found
  | cons head rest inductionHypothesis =>
    by_cases known : head ∈ seen
    · have same : head = id := by simpa [firstRepeat?, known] using found
      exact ⟨[], rest, by simp [same], List.nodup_nil, by simp, Or.inl (same ▸ known)⟩
    · simp only [firstRepeat?, known, if_false] at found
      obtain ⟨earlier, later, rfl, distinct, new, repeated⟩ := inductionHypothesis found
      refine ⟨head :: earlier, later, rfl, ?_, ?_, ?_⟩
      · exact List.nodup_cons.mpr
          ⟨fun member => new head member List.mem_cons_self, distinct⟩
      · intro other member
        rcases List.mem_cons.mp member with rfl | member
        · exact known
        · exact fun before => new other member (List.mem_cons_of_mem head before)
      · rcases repeated with before | inside
        · rcases List.mem_cons.mp before with rfl | before
          · exact Or.inr List.mem_cons_self
          · exact Or.inl before
        · exact Or.inr (List.mem_cons_of_mem head inside)

/-- What a batch comes to, read off its steps: their fault, or their result unless it holds an
identifier twice. -/
theorem applyBatch_eq (serial : Nat) (items : List Envelope) (batch : Batch) :
    applyBatch serial items batch =
      match batch.foldlM Outcome.step ⟨items, serial, [], false⟩ with
      | .error fault => .error fault
      | .ok outcome =>
        match firstRepeat? [] (outcome.items.map Envelope.uniqueId) with
        | some id => .error (.duplicateId id)
        | none => .ok outcome := by
  unfold applyBatch
  cases batch.foldlM Outcome.step ⟨items, serial, [], false⟩ <;> rfl

/-- Applying a batch is replaying it. If every operation is valid at its turn and the final list
holds no identifier twice, the outcome holds just that list. If the list repeats an identifier,
the first one that does is named. Otherwise the fault is that of the first operation that is not
valid on the list left by those before it.

The steps of the batch and the replay take each operation alike (`foldlM_step_eq_replay`), so what
remains is to see what is looked at when all of them are done. -/
theorem applyBatch_replays (serial : Nat) (items : List Envelope) (batch : Batch) :
    match replay serial items batch with
    | .ok final =>
      if (final.map Envelope.uniqueId).Nodup then
        (applyBatch serial items batch).map Outcome.items = .ok final
      else
        ∃ earlier entry later, final = earlier ++ entry :: later ∧
          (earlier.map Envelope.uniqueId).Nodup ∧
          entry.uniqueId ∈ earlier.map Envelope.uniqueId ∧
          applyBatch serial items batch = .error (.duplicateId entry.uniqueId)
    | .error fault =>
      applyBatch serial items batch = .error fault ∧
        ∃ before operation after left, batch = before ++ operation :: after ∧
          replay serial items before = .ok left ∧
          operation.fault? left.length = some fault := by
  have stepwise := foldlM_step_eq_replay batch ⟨items, serial, [], false⟩
  cases run : batch.foldlM Outcome.step ⟨items, serial, [], false⟩ with
  | error fault =>
    have failed : replay serial items batch = .error fault := by
      simpa [run, Except.map] using stepwise.symm
    rw [failed]
    exact ⟨by simp [applyBatch_eq, run], replay_error failed⟩
  | ok outcome =>
    have replayed : replay serial items batch = .ok outcome.items := by
      simpa [run, Except.map] using stepwise.symm
    rw [replayed]
    cases twice : firstRepeat? [] (outcome.items.map Envelope.uniqueId) with
    | none =>
      have distinct : (outcome.items.map Envelope.uniqueId).Nodup :=
        ((firstRepeat?_eq_none_iff _ _).mp twice).1
      simp [distinct, applyBatch_eq, run, twice, Except.map]
    | some id =>
      have repeats : ¬ (outcome.items.map Envelope.uniqueId).Nodup := by
        intro distinct
        have none_found := (firstRepeat?_eq_none_iff [] _).mpr ⟨distinct, by simp⟩
        simp [twice] at none_found
      obtain ⟨front, back, split, distinct, -, repeated⟩ := firstRepeat?_eq_some twice
      obtain ⟨earlier, rest, final, rfl, tail⟩ := List.map_eq_append_iff.mp split
      obtain ⟨entry, later, rfl, rfl, rfl⟩ := List.map_eq_cons_iff.mp tail
      simp only [repeats, if_false]
      exact ⟨earlier, entry, later, final, distinct, by simpa using repeated,
        by simp [applyBatch_eq, run, twice]⟩

end RoomTimeline
