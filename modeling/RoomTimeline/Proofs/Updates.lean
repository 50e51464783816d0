import RoomTimeline.Snapshot
import RoomTimeline.Proofs.CommonOrder

/-!
# What a reader makes of the updates

A reader who knows the identifiers of one sequence of entries and is sent the updates to the next
takes out what was removed or changed, and then puts what was inserted or changed where the
updates say, in the order in which they were sent. `mirrored` is what the reader ends up with.

The updates match entries by identifier and making and never look at their order. So they are
enough (`mirrored_updatesBetween`) only under what the rest of the timeline has to provide: two
entries that count as unchanged are one and the same, and the entries that stay keep their order
(`Continues`).
-/

namespace RoomTimeline

namespace Update

/-- The identifier of the entry that an update names, if it names one. -/
def named? : Update → Option EntryId
  | .removed id | .inserted _ id | .changed _ id => some id
  | .entries _ | .pagination _ | .paginationFailed _ _ => none

/-- The identifier that a reader takes out: that of an entry which is gone or will be put back
changed. -/
def taken? : Update → Option EntryId
  | .removed id | .changed _ id => some id
  | .inserted _ _ | .entries _ | .pagination _ | .paginationFailed _ _ => none

/-- The place and the identifier that a reader puts in. -/
def put? : Update → Option (Nat × EntryId)
  | .inserted index id | .changed index id => some (index, id)
  | .removed _ | .entries _ | .pagination _ | .paginationFailed _ _ => none

end Update

/-- Put an identifier to its place. -/
def put (ids : List EntryId) (change : Nat × EntryId) : List EntryId :=
  ids.insertIdx change.1 change.2

/-- The identifiers that a reader arrives at by following updates. -/
def mirrored (ids : List EntryId) (updates : List Update) : List EntryId :=
  (updates.filterMap Update.put?).foldl put
    (ids.filter fun id => id ∉ updates.filterMap Update.taken?)

/-- The next sequence continues the previous one: an entry that counts as unchanged is the very
same entry in both, and what both share they hold in one order. -/
structure Continues (previous next : List Entry) : Prop where
  same : ∀ old ∈ previous, ∀ new ∈ next, old.unchanged new = true → old = new
  ordered : SharedInOrder previous next

variable {previous next : List Entry}

/-- Without repeated identifiers, looking one up finds its entry. -/
theorem lastWith?_of_mem (distinct : (previous.map Entry.uniqueId).Nodup) {entry : Entry}
    (member : entry ∈ previous) : lastWith? previous entry.uniqueId = some entry := by
  cases found : lastWith? previous entry.uniqueId with
  | none =>
    have absent := List.find?_eq_none.mp found entry (List.mem_reverse.mpr member)
    simp at absent
  | some other =>
    have same : other.uniqueId = entry.uniqueId := by
      simpa using (List.find?_eq_some_iff_append.mp found).1
    have known : other ∈ previous := List.mem_reverse.mp (List.mem_of_find?_eq_some found)
    rw [List.inj_on_of_nodup_map distinct known member same]

/-- What is found under an identifier is an entry that has it. -/
theorem mem_of_lastWith? {id : EntryId} {entry : Entry}
    (found : lastWith? previous id = some entry) :
    entry ∈ previous ∧ entry.uniqueId = id :=
  ⟨List.mem_reverse.mp (List.mem_of_find?_eq_some found),
    by simpa using (List.find?_eq_some_iff_append.mp found).1⟩

/-- Whether nothing needs to be said of an entry. -/
def stays (previous : List Entry) (entry : Entry) : Bool :=
  (lastWith? previous entry.uniqueId).any fun old => old.unchanged entry

/-- An entry that nothing is said of counts as one of those before. -/
theorem updateAt?_eq_none_iff (index : Nat) (entry : Entry) :
    updateAt? previous index entry = none ↔ stays previous entry = true := by
  unfold updateAt? stays
  cases lastWith? previous entry.uniqueId with
  | none => simp
  | some old => by_cases unchanged : old.unchanged entry = true <;> simp [unchanged]

/-- What is said of an entry names it, and puts it to its place. -/
theorem updateAt?_eq_some {index : Nat} {entry : Entry} {update : Update}
    (said : updateAt? previous index entry = some update) :
    update.named? = some entry.uniqueId ∧ update.put? = some (index, entry.uniqueId) := by
  unfold updateAt? at said
  split at said
  · cases said
    exact ⟨rfl, rfl⟩
  · split at said
    · cases said
    · cases said
      exact ⟨rfl, rfl⟩

/-- Of the next sequence, exactly the entries that were there before need nothing said about them.
-/
theorem stays_iff_mem (continues : Continues previous next)
    (distinct : (previous.map Entry.uniqueId).Nodup) {entry : Entry} (member : entry ∈ next) :
    stays previous entry = true ↔ entry ∈ previous := by
  unfold stays
  constructor
  · intro kept
    obtain ⟨old, found, unchanged⟩ := (Option.any_eq_true _ _).mp kept
    have known := (mem_of_lastWith? found).1
    exact continues.same old known entry member unchanged ▸ known
  · intro known
    simp [lastWith?_of_mem distinct known, Entry.unchanged]

/-- Nothing is said of an entry that was there before, whatever place it has now. -/
theorem updateAt?_of_mem (distinct : (previous.map Entry.uniqueId).Nodup) {entry : Entry}
    (known : entry ∈ previous) (index : Nat) : updateAt? previous index entry = none := by
  rw [updateAt?_eq_none_iff]
  simp [stays, lastWith?_of_mem distinct known, Entry.unchanged]

/-- Nothing is said of any entries that were there before, whatever places they have now. -/
theorem filterMap_updateAt?_of_subset {part : List Entry}
    (distinct : (previous.map Entry.uniqueId).Nodup) (known : part ⊆ previous) (index : Nat) :
    (part.zipIdx index).filterMap (fun (entry, index) => updateAt? previous index entry) = [] := by
  refine List.filterMap_eq_nil_iff.mpr ?_
  rintro ⟨entry, place⟩ member
  exact updateAt?_of_mem distinct (known (List.fst_mem_of_mem_zipIdx member)) place

/-- An entry with an identifier that was not there before is inserted. -/
theorem updateAt?_of_new {entry : Entry} (new : entry.uniqueId ∉ previous.map Entry.uniqueId)
    (index : Nat) : updateAt? previous index entry = some (.inserted index entry.uniqueId) := by
  unfold updateAt?
  cases found : lastWith? previous entry.uniqueId with
  | none => rfl
  | some old =>
    obtain ⟨known, same⟩ := mem_of_lastWith? found
    exact absurd (same ▸ List.mem_map_of_mem known) new

/-- An entry under the identifier of another one before is changed, if it is not that one. -/
theorem updateAt?_of_other (distinct : (previous.map Entry.uniqueId).Nodup) {old entry : Entry}
    (known : old ∈ previous) (same : entry.uniqueId = old.uniqueId) (index : Nat) :
    updateAt? previous index entry =
      if old.unchanged entry then none else some (.changed index entry.uniqueId) := by
  unfold updateAt?
  rw [same, lastWith?_of_mem distinct known]

/-! ## What the updates say -/

/-- What is gone are the entries whose identifiers are not there any more. -/
theorem updatesBetween_eq (previous next : List Entry) :
    updatesBetween previous next =
      (previous.filter fun entry => entry.uniqueId ∉ next.map Entry.uniqueId).map
          (fun entry => .removed entry.uniqueId) ++
        (next.zipIdx.filterMap fun (entry, index) => updateAt? previous index entry) := by
  unfold updatesBetween
  congr 2
  exact List.filter_congr fun entry _ => by simp

/-- The update about an entry puts it to its place, unless the entry stays. -/
theorem put?_updateAt? (previous : List Entry) (entry : Entry) (index : Nat) :
    (updateAt? previous index entry).bind Update.put? =
      if stays previous entry then none else some (index, entry.uniqueId) := by
  cases said : updateAt? previous index entry with
  | none => simp [(updateAt?_eq_none_iff index entry).mp said]
  | some update =>
    have spoken : ¬ stays previous entry = true := fun kept => by
      simp [(updateAt?_eq_none_iff index entry).mpr kept] at said
    simp [spoken, (updateAt?_eq_some said).2]

/-- A reader is told to put in the entries that do not stay, each to its place. -/
theorem put?_updatesBetween (previous next : List Entry) :
    (updatesBetween previous next).filterMap Update.put? =
      next.zipIdx.filterMap fun (entry, index) =>
        if stays previous entry then none else some (index, entry.uniqueId) := by
  have removals : ∀ entries : List Entry,
      (entries.map fun entry => Update.removed entry.uniqueId).filterMap Update.put? = [] := by
    intro entries
    simp [List.filterMap_map, Function.comp_def, Update.put?]
  unfold updatesBetween
  rw [List.filterMap_append, removals, List.nil_append, List.filterMap_filterMap]
  exact congrArg (List.filterMap · next.zipIdx)
    (funext fun (entry, index) => put?_updateAt? previous entry index)

/-- The identifier of an entry stands where the entry does. -/
theorem getElem?_map_uniqueId {entries : List Entry} {place : Nat} {entry : Entry}
    (there : entries[place]? = some entry) :
    (entries.map Entry.uniqueId)[place]? = some entry.uniqueId := by
  rw [List.getElem?_map, there]
  rfl

/-- Between sequences with the same identifiers in the same places all that is said is that entries
have changed, where they have. -/
theorem mem_updatesBetween_of_ids (same : next.map Entry.uniqueId = previous.map Entry.uniqueId)
    (distinct : (previous.map Entry.uniqueId).Nodup) {update : Update} :
    update ∈ updatesBetween previous next ↔ ∃ index old new, previous[index]? = some old ∧
      next[index]? = some new ∧ old.unchanged new = false ∧
      update = .changed index new.uniqueId := by
  have nothingGone :
      previous.filter (fun entry => entry.uniqueId ∉ next.map Entry.uniqueId) = [] := by
    refine List.filter_eq_nil_iff.mpr fun entry member => ?_
    rw [same]
    simpa only [decide_eq_true_iff, not_not] using List.mem_map_of_mem member
  have opposite : ∀ {index : Nat} {new : Entry}, next[index]? = some new →
      ∃ old, previous[index]? = some old ∧ new.uniqueId = old.uniqueId := by
    intro index new there
    have id := getElem?_map_uniqueId there
    rw [same, List.getElem?_map] at id
    obtain ⟨old, known, equal⟩ := Option.map_eq_some_iff.mp id
    exact ⟨old, known, equal.symm⟩
  rw [updatesBetween_eq, nothingGone, List.map_nil, List.nil_append, List.mem_filterMap]
  constructor
  · rintro ⟨⟨new, index⟩, numbered, said⟩
    have there : next[index]? = some new := List.mem_zipIdx_iff_getElem?.mp numbered
    obtain ⟨old, known, equal⟩ := opposite there
    change updateAt? previous index new = some update at said
    rw [updateAt?_of_other distinct (List.mem_of_getElem? known) equal index] at said
    split at said
    · cases said
    · rename_i differs
      exact ⟨index, old, new, known, there, Bool.eq_false_iff.mpr differs,
        (Option.some.inj said).symm⟩
  · rintro ⟨index, old, new, known, there, differs, rfl⟩
    obtain ⟨other, isOther, equal⟩ := opposite there
    cases known.symm.trans isOther
    refine ⟨(new, index), List.mem_zipIdx_iff_getElem?.mpr there, ?_⟩
    exact (updateAt?_of_other distinct (List.mem_of_getElem? known) equal index).trans
      (if_neg (by simp [differs]))

/-- What is put among a list is named from its places on, entry by entry. -/
theorem named?_updateAt? (previous : List Entry) (entry : Entry) (index : Nat) :
    (updateAt? previous index entry).bind Update.named? =
      if stays previous entry then none else some entry.uniqueId := by
  cases said : updateAt? previous index entry with
  | none => simp [(updateAt?_eq_none_iff index entry).mp said]
  | some update =>
    have spoken : ¬ stays previous entry = true := fun kept => by
      simp [(updateAt?_eq_none_iff index entry).mpr kept] at said
    simp [spoken, (updateAt?_eq_some said).1]

/-- A selection from numbered entries that ignores the numbers is one from the entries. -/
theorem filterMap_zipIdx {β : Type} (select : Entry → Option β) (entries : List Entry) :
    (entries.zipIdx.filterMap fun (entry, _) => select entry) = entries.filterMap select := by
  calc (entries.zipIdx.filterMap fun (entry, _) => select entry)
      = (entries.zipIdx.map Prod.fst).filterMap select := List.filterMap_map.symm
    _ = entries.filterMap select := by rw [List.zipIdx_map_fst]

/-- The updates name the identifiers of what is gone, and behind these those of what is new or
changed. -/
theorem named?_updatesBetween (previous next : List Entry) :
    (updatesBetween previous next).filterMap Update.named? =
      (previous.filter fun entry => ¬ next.any fun other => other.uniqueId = entry.uniqueId).map
          Entry.uniqueId ++
        (next.filter fun entry => ¬ stays previous entry).map Entry.uniqueId := by
  have gone : ∀ entries : List Entry,
      (entries.map fun entry => Update.removed entry.uniqueId).filterMap Update.named? =
        entries.map Entry.uniqueId := by
    intro entries
    rw [List.filterMap_map]
    exact congrFun List.filterMap_eq_map entries
  have spoken : (next.zipIdx.filterMap fun (entry, index) =>
        updateAt? previous index entry).filterMap Update.named? =
      (next.filter fun entry => ¬ stays previous entry).map Entry.uniqueId := by
    rw [List.filterMap_filterMap]
    calc next.zipIdx.filterMap (fun (entry, index) =>
            (updateAt? previous index entry).bind Update.named?)
        = next.zipIdx.filterMap (fun (entry, _) =>
            if stays previous entry then none else some entry.uniqueId) :=
          congrArg (List.filterMap · next.zipIdx)
            (funext fun (entry, index) => named?_updateAt? previous entry index)
      _ = next.filterMap (fun entry =>
            if stays previous entry then none else some entry.uniqueId) :=
          filterMap_zipIdx (fun entry =>
            if stays previous entry then none else some entry.uniqueId) next
      _ = (next.filter fun entry => ¬ stays previous entry).map Entry.uniqueId := by
          rw [← List.filterMap_eq_map, List.filterMap_filter]
          refine congrArg (List.filterMap · next) (funext fun entry => ?_)
          by_cases kept : stays previous entry = true <;> simp [kept]
  unfold updatesBetween
  rw [List.filterMap_append, gone, spoken]

/-- A reader is told to take out an identifier if no entry has it any more, or if the entry that
has it now is not the one that had it before. -/
theorem mem_taken?_updatesBetween {id : EntryId} :
    id ∈ (updatesBetween previous next).filterMap Update.taken? ↔
      (∃ old ∈ previous, old.uniqueId = id ∧ ∀ new ∈ next, new.uniqueId ≠ id) ∨
      (∃ new ∈ next, new.uniqueId = id ∧
        ∃ old, lastWith? previous id = some old ∧ old.unchanged new = false) := by
  unfold updatesBetween
  rw [List.filterMap_append, List.mem_append]
  refine or_congr ?_ ?_
  · simp only [List.mem_filterMap, List.mem_map, List.mem_filter]
    constructor
    · rintro ⟨update, ⟨old, ⟨member, absent⟩, rfl⟩, taken⟩
      cases taken
      exact ⟨old, member, rfl, by simpa using absent⟩
    · rintro ⟨old, member, rfl, absent⟩
      exact ⟨_, ⟨old, ⟨member, by simpa using absent⟩, rfl⟩, rfl⟩
  · simp only [List.mem_filterMap]
    constructor
    · rintro ⟨update, ⟨⟨new, index⟩, numbered, said⟩, taken⟩
      have member : new ∈ next := (List.mem_zipIdx' numbered).2 ▸ List.getElem_mem _
      unfold updateAt? at said
      split at said
      · cases said
        cases taken
      · rename_i old found
        split at said
        · cases said
        · rename_i differs
          cases said
          cases taken
          exact ⟨new, member, rfl, old, found, by simpa using differs⟩
    · rintro ⟨new, member, rfl, old, found, differs⟩
      obtain ⟨index, inside, rfl⟩ := List.getElem_of_mem member
      exact ⟨_, ⟨(next[index], index), List.mem_zipIdx_iff_getElem?.mpr (by simp [inside]),
        by simp [updateAt?, found, differs]; rfl⟩, rfl⟩

/-! ## What the reader ends up with -/

/-- Inserting at the end of a first part puts the element between the parts. -/
theorem insertIdx_length {α : Type} (front back : List α) (element : α) :
    (front ++ back).insertIdx front.length element = front ++ element :: back := by
  induction front with
  | nil => rfl
  | cons head front inductionHypothesis => simp [inductionHypothesis]

/-- Putting the missing entries of a sequence to their places, from the first to the last, leaves
nothing missing. Behind what is complete already, an entry that is there stays where it is, and one
that is missing is put just behind it. -/
theorem foldl_put_missing (there : Entry → Bool) (rest : List Entry) (complete : List EntryId) :
    ((rest.zipIdx complete.length).filterMap fun (entry, index) =>
        if there entry then none else some (index, entry.uniqueId)).foldl put
      (complete ++ (rest.filter there).map Entry.uniqueId) =
    complete ++ rest.map Entry.uniqueId := by
  induction rest generalizing complete with
  | nil => simp
  | cons entry rest inductionHypothesis =>
    have further := inductionHypothesis (complete ++ [entry.uniqueId])
    rw [List.length_append, List.length_singleton, List.append_assoc, List.append_assoc] at further
    by_cases present : there entry = true
    · simpa [present] using further
    · have placed : put (complete ++ (rest.filter there).map Entry.uniqueId)
          (complete.length, entry.uniqueId) =
          complete ++ ([entry.uniqueId] ++ (rest.filter there).map Entry.uniqueId) := by
        simpa [put] using insertIdx_length complete _ entry.uniqueId
      simpa [present, placed] using further

/-- Taking out what the updates say leaves exactly the identifiers of the entries that stay. -/
theorem kept_updatesBetween (continues : Continues previous next)
    (distinct : (previous.map Entry.uniqueId).Nodup)
    (nextDistinct : (next.map Entry.uniqueId).Nodup) :
    (previous.map Entry.uniqueId).filter
        (fun id => id ∉ (updatesBetween previous next).filterMap Update.taken?) =
      (next.filter (stays previous)).map Entry.uniqueId := by
  obtain ⟨shared, inPrevious, inNext, complete⟩ := continues.ordered
  have taken : ∀ entry ∈ previous,
      entry.uniqueId ∉ (updatesBetween previous next).filterMap Update.taken? ↔ entry ∈ shared := by
    intro entry member
    rw [mem_taken?_updatesBetween]
    constructor
    · intro kept
      by_contra absent
      have apart : entry ∉ next := fun other => absent (complete entry member other)
      refine kept ?_
      by_cases reused : ∃ new ∈ next, new.uniqueId = entry.uniqueId
      · obtain ⟨new, newMember, same⟩ := reused
        refine Or.inr ⟨new, newMember, same, entry, lastWith?_of_mem distinct member, ?_⟩
        by_contra unchanged
        have one := continues.same entry member new newMember (by simpa using unchanged)
        exact apart (one ▸ newMember)
      · refine Or.inl ⟨entry, member, rfl, fun new newMember same => ?_⟩
        exact reused ⟨new, newMember, same⟩
    · intro stayed
      have newMember := inNext.subset stayed
      rintro (⟨old, -, -, gone⟩ | ⟨new, otherMember, same, old, found, differs⟩)
      · exact gone entry newMember rfl
      · have one : new = entry := List.inj_on_of_nodup_map nextDistinct otherMember newMember same
        have itself : entry = old := by
          simpa [lastWith?_of_mem distinct member] using found
        rw [one, ← itself] at differs
        simp [Entry.unchanged] at differs
  have left : previous.filter (fun entry => decide (entry.uniqueId ∉
      (updatesBetween previous next).filterMap Update.taken?)) = shared :=
    filter_eq_of_sublist inPrevious (List.Nodup.of_map _ distinct) fun entry member => by
      simpa using taken entry member
  have right : next.filter (stays previous) = shared :=
    filter_eq_of_sublist inNext (List.Nodup.of_map _ nextDistinct) fun entry member =>
      (stays_iff_mem continues distinct member).trans
        ⟨fun known => complete entry known member, fun stayed => inPrevious.subset stayed⟩
  rw [List.filter_map, right, ← left]
  rfl

/-- A reader who follows the updates arrives at the identifiers of the next sequence. -/
theorem mirrored_updatesBetween (continues : Continues previous next)
    (distinct : (previous.map Entry.uniqueId).Nodup)
    (nextDistinct : (next.map Entry.uniqueId).Nodup) :
    mirrored (previous.map Entry.uniqueId) (updatesBetween previous next) =
      next.map Entry.uniqueId := by
  have built := foldl_put_missing (stays previous) next []
  unfold mirrored
  rw [kept_updatesBetween continues distinct nextDistinct, put?_updatesBetween]
  simpa using built

/-- Where no identifier repeats in either sequence, the updates between them name none twice. -/
theorem nodup_named?_updatesBetween (distinct : (previous.map Entry.uniqueId).Nodup)
    (nextDistinct : (next.map Entry.uniqueId).Nodup) :
    ((updatesBetween previous next).filterMap Update.named?).Nodup := by
  rw [named?_updatesBetween]
  refine List.Nodup.append (distinct.sublist (List.filter_sublist.map _))
    (nextDistinct.sublist (List.filter_sublist.map _)) ?_
  intro id gone spoken
  obtain ⟨old, absent, rfl⟩ := List.mem_map.mp gone
  obtain ⟨new, said, same⟩ := List.mem_map.mp spoken
  have none_left := (List.mem_filter.mp absent).2
  have member := (List.mem_filter.mp said).1
  simp at none_left
  exact none_left new member same

/-- An entry that no update names was there before. -/
theorem mem_of_unnamed (continues : Continues previous next)
    (distinct : (previous.map Entry.uniqueId).Nodup) {entry : Entry} (member : entry ∈ next)
    (unnamed : entry.uniqueId ∉ (updatesBetween previous next).filterMap Update.named?) :
    entry ∈ previous := by
  rw [← stays_iff_mem continues distinct member]
  by_contra spoken
  refine unnamed ?_
  rw [named?_updatesBetween]
  refine List.mem_append_right _ (List.mem_map_of_mem (List.mem_filter.mpr ⟨member, ?_⟩))
  simpa using spoken

/-! ## Between two snapshots -/

/-- The updates that name an entry. -/
def aboutEntries (updates : List Update) : List Update :=
  updates.filter fun update => update.named?.isSome

/-- All updates from one sequence to the next name an entry. -/
theorem aboutEntries_updatesBetween (previous next : List Entry) :
    aboutEntries (updatesBetween previous next) = updatesBetween previous next := by
  refine List.filter_eq_self.mpr ?_
  intro update member
  rcases List.mem_append.mp member with gone | said
  · obtain ⟨old, -, rfl⟩ := List.mem_map.mp gone
    rfl
  · obtain ⟨⟨entry, index⟩, -, said⟩ := List.mem_filterMap.mp said
    rw [(updateAt?_eq_some said).1]
    rfl

/-- What follows the updates about entries: a note on the length and one on the pagination
status, where there is something to note. -/
def notes (previous next : Snapshot) : List Update :=
  (if updatesBetween previous.entries next.entries = [] then [] else
      [.entries next.entries.length]) ++
    if previous.pagination = next.pagination then [] else [.pagination next.pagination]

/-- The updates from one snapshot to the next are those about entries, and then the notes. -/
theorem updates_eq (previous next : Snapshot) :
    previous.updates next = updatesBetween previous.entries next.entries ++ notes previous next :=
  List.append_assoc ..

/-- A note names no entry and moves none. -/
theorem notes_silent (previous next : Snapshot) :
    ∀ update ∈ notes previous next,
      update.named? = none ∧ update.taken? = none ∧ update.put? = none := by
  intro update member
  unfold notes at member
  rcases List.mem_append.mp member with length | pair
  · split at length
    · cases length
    · rw [List.mem_singleton.mp length]
      exact ⟨rfl, rfl, rfl⟩
  · split at pair
    · cases pair
    · rw [List.mem_singleton.mp pair]
      exact ⟨rfl, rfl, rfl⟩

/-- The identifiers named by the updates between snapshots are those named by the updates about
entries. -/
theorem named?_updates (previous next : Snapshot) :
    (previous.updates next).filterMap Update.named? =
      (updatesBetween previous.entries next.entries).filterMap Update.named? := by
  have silent : (notes previous next).filterMap Update.named? = [] :=
    List.filterMap_eq_nil_iff.mpr fun update member => (notes_silent previous next update member).1
  rw [updates_eq, List.filterMap_append, silent, List.append_nil]

/-- A reader who follows all updates between snapshots arrives where the updates about entries lead.
-/
theorem mirrored_updates (ids : List EntryId) (previous next : Snapshot) :
    mirrored ids (previous.updates next) =
      mirrored ids (updatesBetween previous.entries next.entries) := by
  have noneTaken : (notes previous next).filterMap Update.taken? = [] :=
    List.filterMap_eq_nil_iff.mpr fun update member =>
      (notes_silent previous next update member).2.1
  have nonePut : (notes previous next).filterMap Update.put? = [] :=
    List.filterMap_eq_nil_iff.mpr fun update member =>
      (notes_silent previous next update member).2.2
  unfold mirrored
  rw [updates_eq, List.filterMap_append, List.filterMap_append, noneTaken, nonePut,
    List.append_nil, List.append_nil]

/-- The updates about entries can be told from the notes. -/
theorem aboutEntries_updates (previous next : Snapshot) :
    aboutEntries (previous.updates next) = updatesBetween previous.entries next.entries := by
  have silent : aboutEntries (notes previous next) = [] := by
    refine List.filter_eq_nil_iff.mpr ?_
    intro update member
    simp [(notes_silent previous next update member).1]
  have named := aboutEntries_updatesBetween previous.entries next.entries
  unfold aboutEntries at silent named ⊢
  rw [updates_eq, List.filter_append, silent, named, List.append_nil]

end RoomTimeline
