import Mathlib.Data.List.DropRight
import RoomTimeline.Proofs.Batch.News
import RoomTimeline.Proofs.Blocks
import RoomTimeline.Proofs.Framing
import RoomTimeline.Proofs.Keeping

/-!
# Another item in the place of one

An item is replaced by another of the same identifier that may be folded just if the old one could.
The steps from a collection to its updates are followed one by one.

- The batch that sets the item is taken (`applyBatch_set`), and the blocks are those from before
  with the item in its place in one of them (`blocks_replaced`).
- The fold shows every other block by the entry that has shown it before. The item itself or, if it
  is in a run, a new entry for this run stands in the old place, under the old identifier
  (`Depiction.replaced`). That entry is new since no collapsed entry in use can hold an item whose
  number has just been given out (`Depiction.holds_eq_false_of_newer`).
- The arrangement around that entry does not depend on it (`arrange_around`), so the updates can
  name it and its neighbours only, and a virtual entry does not even change the positions of these
  (`updatesBetween_replaced`).
-/

namespace RoomTimeline

/-! ## In the collection -/

/-- A valid operation that sets an item under its old identifier is taken as a batch. -/
theorem applyBatch_set {serial index : Nat} {items : List Envelope} {raw : RawItem}
    {old item : Envelope} (there : items[index]? = some old)
    (made : Envelope.ofRaw serial raw = .ok item) (same : item.uniqueId = old.uniqueId)
    (ids : (items.map Envelope.uniqueId).Nodup) :
    ∃ outcome, applyBatch serial items [.set index raw] = .ok outcome ∧
      outcome.items = items.set index item ∧ outcome.serial = serial + 1 ∧
      outcome.didReset = false := by
  obtain ⟨inside, isOld⟩ := List.getElem?_eq_some_iff.mp there
  have sound : raw.fault? = none := by
    cases faulty : raw.fault? with
    | none => rfl
    | some fault =>
      rw [ofRaw_of_fault faulty serial] at made
      cases made
  have replayed : replay serial items [.set index raw] = .ok (items.set index item) := by
    have possible : (Operation.set index raw).fault? items.length = none := by
      simp [Operation.fault?, sound, inside]
    have alone : fresh serial [raw] = [item] := fresh_cons made []
    have edited : (Operation.set index raw).edit serial items = items.set index item := by
      simp [Operation.edit, alone, List.set_eq_take_append_cons_drop, inside]
    simp [replay, possible, edited]
  have sameIds : (items.set index item).map Envelope.uniqueId = items.map Envelope.uniqueId := by
    have bound : index < (items.map Envelope.uniqueId).length := by simpa using inside
    have id : (items.map Envelope.uniqueId)[index] = item.uniqueId := by
      rw [List.getElem_map, isOld, same]
    rw [List.map_set, ← id, List.set_getElem_self]
  have passed : judged (items.set index item) = .ok (items.set index item) := by
    unfold judged
    rw [sameIds, (firstRepeat?_eq_none_iff [] _).mpr ⟨ids, by simp⟩]
  refine ⟨⟨items.set index item, serial + 1, Batch.announced [.set index raw], false⟩, ?_, rfl, rfl,
    rfl⟩
  rw [applyBatch_eq_judged, replayed]
  simp only [Except.bind, passed]
  rfl

/-! ## Among the blocks -/

/-- Around a place there is a longest run that a collapsible entry there would belong to. -/
theorem exists_longestRun (before after : List Envelope) :
    ∃ outer left right further, before = outer ++ left ∧ after = right ++ further ∧
      ∀ entry, entry.isCollapsible = true → LongestRun outer (left ++ entry :: right) further := by
  refine ⟨before.rdropWhile Envelope.isCollapsible, before.rtakeWhile Envelope.isCollapsible,
    after.takeWhile Envelope.isCollapsible, after.dropWhile Envelope.isCollapsible,
    (List.rdropWhile_append_rtakeWhile ..).symm, (List.takeWhile_append_dropWhile ..).symm, ?_⟩
  intro entry collapsible
  refine ⟨?_, ?_, ?_⟩
  · intro other member
    rcases List.mem_append.mp member with inFront | behind
    · exact List.mem_rtakeWhile_imp inFront
    · rcases List.mem_cons.mp behind with rfl | behind
      · exact collapsible
      · exact List.mem_takeWhile_imp behind
  · intro last isLast
    obtain ⟨filled, isGot⟩ := List.mem_getLast?_eq_getLast isLast
    exact Bool.eq_false_iff.mpr (isGot ▸ List.rdropWhile_last_not _ _ filled)
  · intro first isFirst
    have refused := List.head?_dropWhile_not Envelope.isCollapsible after
    rw [Option.mem_def.mp isFirst] at refused
    simpa using refused

/-- Another item that may be folded just if the old one could stands in the same block in its
place, and all other blocks are the same. -/
theorem blocks_replaced {old item : Envelope} (collapsible : item.isCollapsible = old.isCollapsible)
    (before after : List Envelope) :
    ∃ front left right back,
      blocks (before ++ old :: after) = front ++ (left ++ old :: right) :: back ∧
      blocks (before ++ item :: after) = front ++ (left ++ item :: right) :: back := by
  cases folds : old.isCollapsible with
  | false =>
    rw [folds] at collapsible
    exact ⟨blocks before, [], [], blocks after, blocks_single folds, blocks_single collapsible⟩
  | true =>
    rw [folds] at collapsible
    obtain ⟨outer, left, right, further, rfl, rfl, longest⟩ := exists_longestRun before after
    refine ⟨blocks outer, left, right, blocks further, ?_, ?_⟩
    · have cut := blocks_longestRun (longest old folds) (by simp)
      simpa using cut
    · have cut := blocks_longestRun (longest item collapsible) (by simp)
      simpa using cut

/-! ## Among what is shown -/

/-- What is shown of blocks one of which is picked out: one entry for that one, and what is shown of
those in front of it and behind. -/
theorem Shows.split {front back : List (List Envelope)} {block shown : List Envelope} {runs : Runs}
    (shows : Shows (front ++ block :: back) shown runs) :
    ∃ left entry right leftRuns own rightRuns, shown = left ++ entry :: right ∧
      runs = leftRuns ++ (own ++ rightRuns) ∧ Shows front left leftRuns ∧
      Shows [block] [entry] own ∧ Shows back right rightRuns := by
  induction front generalizing shown runs with
  | nil =>
    cases shows with
    | single entry others =>
      exact ⟨[], entry, _, [], [], _, rfl, rfl, .nil, .single entry .nil, others⟩
    | run serial first second more others =>
      exact ⟨[], _, _, [], [_], _, rfl, rfl, .nil, .run serial first second more .nil, others⟩
  | cons before rest inductionHypothesis =>
    cases shows with
    | single entry others =>
      obtain ⟨left, holder, right, leftRuns, own, rightRuns, rfl, rfl, inFront, itself, behind⟩ :=
        inductionHypothesis others
      exact ⟨entry :: left, holder, right, leftRuns, own, rightRuns, rfl, rfl,
        .single entry inFront, itself, behind⟩
    | run serial first second more others =>
      obtain ⟨left, holder, right, leftRuns, own, rightRuns, rfl, rfl, inFront, itself, behind⟩ :=
        inductionHypothesis others
      exact ⟨_ :: left, holder, right, _ :: leftRuns, own, rightRuns, rfl, rfl,
        .run serial first second more inFront, itself, behind⟩

/-- The entries that show an item and another one in its place: the items themselves, or an older
and a newer collapsed entry for their run, under one identifier. -/
inductive InPlace (old item : Envelope) : Envelope → Envelope → Prop
  | alone : InPlace old item old item
  | inRun {number newer : Nat} {first other : Envelope} (left right : List Envelope)
      (same : other.uniqueId = first.uniqueId) (later : number < newer) :
      InPlace old item (runEntry number first (left ++ old :: right))
        (runEntry newer other (left ++ item :: right))

namespace CollapsePass

/-- A run whose entry cannot be taken over gets a new one. -/
theorem entryFor_new {pass : CollapsePass} {members : List Envelope} (first : Envelope)
    (lost : ∀ run ∈ pass.previous, run.holds members = false) :
    pass.entryFor first members = (runEntry pass.serial first members, {
      previous := pass.previous.erase (Runs.idFor first)
      runs := pass.runs.insert (runEntry pass.serial first members)
      serial := pass.serial + 1 }) := by
  have nothing : (pass.previous.find? (Runs.idFor first)).filter
      (fun entry => entry.holds members) = none := by
    refine Option.filter_eq_none_iff.mpr fun run found => ?_
    simp [lost run (List.mem_of_find?_eq_some found)]
  simp only [entryFor, nothing]
  rfl

/-- A run with another item in the place of one begins with an entry of the same identifier. -/
theorem exists_first_replaced {left right more : List Envelope} {old item first second : Envelope}
    (same : item.uniqueId = old.uniqueId) (whole : left ++ old :: right = first :: second :: more) :
    ∃ other next rest, left ++ item :: right = other :: next :: rest ∧
      other.uniqueId = first.uniqueId := by
  match left, whole with
  | [], whole =>
    cases whole
    exact ⟨item, second, more, rfl, same⟩
  | [_], whole =>
    cases whole
    exact ⟨first, item, right, rfl, rfl⟩
  | _ :: _ :: others, whole =>
    cases whole
    exact ⟨first, second, others ++ item :: right, rfl, rfl⟩

/-- A block with another item in the place of one is shown by one entry under the old identifier. If
it is a run its entry is new, and behind it the pass can take over whatever it could have taken over
behind the old one. -/
theorem block_replaced {pass : CollapsePass} {left right : List Envelope}
    {old item entry : Envelope} {own runs : Runs} (shows : Shows [left ++ old :: right] [entry] own)
    (keeps : pass.Keeps (own ++ runs)) (same : item.uniqueId = old.uniqueId)
    (older : ∀ run ∈ pass.previous, run.serial < pass.serial)
    (lost : ∀ run ∈ pass.previous, run.holds (left ++ item :: right) = false) :
    ∃ changed next, pass.block (left ++ item :: right) = ([changed], next) ∧
      InPlace old item entry changed ∧ next.Keeps runs := by
  generalize whole : left ++ old :: right = block at shows
  cases shows with
  | single _ others =>
    cases others
    obtain ⟨rfl, rest⟩ := (List.append_eq_singleton_iff.mp whole).resolve_right (by simp)
    cases rest
    exact ⟨item, pass, rfl, .alone, keeps⟩
  | run serial first second more others =>
    cases others
    obtain ⟨other, next, rest, found, sameId⟩ := exists_first_replaced same whole
    have idEq : Runs.idFor other = Runs.idFor first := by simp [Runs.idFor, sameId]
    have front : runEntry serial first (first :: second :: more) ∈
        [runEntry serial first (first :: second :: more)] ++ runs := List.mem_cons_self
    have entered : pass.runs.insert (runEntry pass.serial other (left ++ item :: right)) =
        pass.runs ++ [runEntry pass.serial other (left ++ item :: right)] := by
      refine Runs.insert_of_new fun run member => ?_
      rw [uniqueId_runEntry, idEq]
      exact keeps.unseen _ front run member
    have made := entryFor_new other lost
    rw [entered, idEq] at made
    have stepped : pass.block (other :: next :: rest) = ([(pass.entryFor other
        (other :: next :: rest)).1], (pass.entryFor other (other :: next :: rest)).2) := rfl
    rw [← found, made] at stepped
    refine ⟨_, _, stepped, ?_, ?_⟩
    · rw [← whole]
      exact .inRun left right sameId (older _ (keeps.known front))
    · refine keeps.tail.of_ids ?_ ?_
      · simp [keeping, Runs.erase]
      · simp [keeping, idEq]

/-- Among blocks of which one has another item in the place of one, all others are shown by the
entries that have shown them before. -/
theorem blocks_replaced {pass : CollapsePass} {front back : List (List Envelope)}
    {left right shown : List Envelope} {old item : Envelope} {runs : Runs}
    (shows : Shows (front ++ (left ++ old :: right) :: back) shown runs) (keeps : pass.Keeps runs)
    (same : item.uniqueId = old.uniqueId)
    (older : ∀ run ∈ pass.previous, run.serial < pass.serial)
    (lost : ∀ run ∈ pass.previous, run.holds (left ++ item :: right) = false) :
    ∃ before entry changed after, shown = before ++ entry :: after ∧
      (pass.blocks (front ++ (left ++ item :: right) :: back)).1 = before ++ changed :: after ∧
      InPlace old item entry changed := by
  obtain ⟨before, entry, after, frontRuns, own, backRuns, rfl, rfl, inFront, itself, behind⟩ :=
    shows.split
  have first := blocks_kept inFront (keeps.sublist (List.sublist_append_left _ _))
  have inside : (pass.keeping frontRuns).previous ⊆ pass.previous := List.filter_subset_self _
  obtain ⟨changed, next, second, inPlace, further⟩ := block_replaced itself keeps.drop same
    (fun run member => older run (inside member)) fun run member => lost run (inside member)
  have third := blocks_kept behind further
  refine ⟨before, entry, changed, after, rfl, ?_, inPlace⟩
  rw [blocks_append, first]
  simp [CollapsePass.blocks, second, third]

end CollapsePass

/-- No collapsed entry in use holds an item that is newer than the collection. -/
theorem Depiction.holds_eq_false_of_newer {config : Config} {serial : Nat}
    {items shown members : List Envelope}
    {runs : Runs} {item : Envelope} (depiction : Depiction config serial items runs shown)
    (new : serial ≤ item.serial) (member : item ∈ members) :
    ∀ run ∈ runs, run.holds members = false := by
  intro run inRuns
  obtain ⟨first, second, more, formed, inside⟩ := depiction.exists_runEntry run inRuns
  rw [Bool.eq_false_iff]
  intro holds
  rw [formed] at holds
  have numbers : (first :: second :: more).map Envelope.serial = members.map Envelope.serial := by
    simpa only [runEntry, Envelope.synthesized, Envelope.holds, beq_iff_eq] using holds
  have number : item.serial ∈ (first :: second :: more).map Envelope.serial :=
    numbers ▸ List.mem_map_of_mem member
  obtain ⟨known, inRun, equal⟩ := List.mem_map.mp number
  have below := depiction.itemsNumbered.below known (inside inRun)
  omega

/-- What is shown of a collection with another item in the place of one differs from what was shown
before in one entry, the one that shows the item. -/
theorem Depiction.replaced {config : Config} {serial nextSerial : Nat}
    {before after shown : List Envelope} {old item : Envelope} {runs : Runs}
    (depiction : Depiction config serial (before ++ old :: after) runs shown)
    (same : item.uniqueId = old.uniqueId) (collapsible : item.isCollapsible = old.isCollapsible)
    (new : serial ≤ item.serial) (above : serial ≤ nextSerial) :
    ∃ front entry changed back, shown = front ++ entry :: back ∧
      (bodyOf config runs nextSerial (before ++ item :: after)).shown = front ++ changed :: back ∧
      InPlace old item entry changed := by
  have depicts := depiction.depicts
  unfold Depicts at depicts
  unfold bodyOf
  split at depicts
  case isTrue folds =>
    rw [if_pos folds]
    have keeps := depicts.keeps depiction.ids nextSerial
    obtain ⟨front, left, right, back, cut, otherCut⟩ := blocks_replaced collapsible before after
    rw [cut] at depicts
    rw [collapse_eq, otherCut]
    exact CollapsePass.blocks_replaced depicts keeps same
      (fun run member => Nat.lt_of_lt_of_le
        (depiction.numbered.below run (List.mem_append_right _ member)) above)
      (depiction.holds_eq_false_of_newer new (by simp))
  case isFalse plain =>
    rw [if_neg plain, depicts.1]
    exact ⟨before, old, item, after, rfl, rfl, .alone⟩

/-! ## Among the entries -/

/-- An event is no read marker. -/
theorem Envelope.isReadMarker_of_event {entry : Envelope} (event : entry.event?.isSome = true) :
    entry.isReadMarker = false := by
  cases entry with
  | event header details => rfl
  | virtual header item => cases event

namespace InPlace

variable {old item entry changed : Envelope}

/-- The entries that show an item and another one in its place are the items themselves, or virtual
entries that hold these in one place. -/
theorem shows (inPlace : InPlace old item entry changed) :
    (entry = old ∧ changed = item) ∨ (∃ left right,
      entry.virtual? = some (.collapsed (left ++ old :: right)) ∧
      changed.virtual? = some (.collapsed (left ++ item :: right))) ∧
      entry.event? = none ∧ changed.event? = none := by
  cases inPlace with
  | alone => exact Or.inl ⟨rfl, rfl⟩
  | inRun left right sameId later => exact Or.inr ⟨⟨left, right, rfl, rfl⟩, rfl, rfl⟩

/-- The entries that show an item and another one in its place have one identifier, if the items do.
-/
theorem uniqueId (inPlace : InPlace old item entry changed) (same : item.uniqueId = old.uniqueId) :
    changed.uniqueId = entry.uniqueId := by
  cases inPlace with
  | alone => exact same
  | inRun left right sameId later => simp [Runs.idFor, sameId]

/-- The entry that shows the newer item is newer than the one that has shown the older. -/
theorem serial_lt (inPlace : InPlace old item entry changed) (newer : old.serial < item.serial) :
    entry.serial < changed.serial := by
  cases inPlace with
  | alone => exact newer
  | inRun left right sameId later => exact later

/-- Neither of the entries that show an item and another one in its place is a read marker, if both
items are events. -/
theorem isReadMarker (inPlace : InPlace old item entry changed)
    (wasEvent : old.event?.isSome = true) (isEvent : item.event?.isSome = true) :
    entry.isReadMarker = false ∧ changed.isReadMarker = false := by
  cases inPlace with
  | alone =>
    exact ⟨Envelope.isReadMarker_of_event wasEvent, Envelope.isReadMarker_of_event isEvent⟩
  | inRun left right sameId later => exact ⟨rfl, rfl⟩

end InPlace

/-- What is arranged around an entry that is no read marker does not depend on it. -/
theorem arrange_around (config : Config) (pair : PaginationPair) (front back : List Envelope) :
    ∃ before after, ∀ entry : Envelope, entry.isReadMarker = false →
      arrange config pair (front ++ entry :: back) = before ++ entry :: after := by
  refine ⟨indicator config pair.backward startIndicator ++ front,
    trimmed config back ++ indicator config pair.forward finishIndicator, ?_⟩
  intro entry plain
  have kept : trimmed config (front ++ entry :: back) = front ++ entry :: trimmed config back := by
    cases back with
    | nil => rw [trimmed_nil, trimmed_concat config front plain]
    | cons next others =>
      have cut := trimmed_append config (front ++ [entry]) (List.cons_ne_nil next others)
      simpa using cut
  rw [arrange_eq, kept]
  simp

/-- Two lists that differ in one element hold the same in every other place. -/
theorem getElem?_append_cons_of_ne {α : Type} (front back : List α) (element other : α)
    {index : Nat} (elsewhere : index ≠ front.length) :
    (front ++ other :: back)[index]? = (front ++ element :: back)[index]? := by
  have replaced : front ++ other :: back = (front ++ element :: back).set front.length other := by
    simp
  rw [replaced, List.getElem?_set_ne elsewhere.symm]

/-- An entry that differs from the one in its place before stands where another envelope has been
put or next to it, and just there if both envelopes are virtual. -/
theorem place_of_changed {policy : GroupingPolicy} {before after : List Envelope}
    {entry changed : Envelope} {index : Nat} {was is : Entry}
    (known : (grouped policy (before ++ entry :: after))[index]? = some was)
    (there : (grouped policy (before ++ changed :: after))[index]? = some is)
    (differs : was.unchanged is = false) :
    (index = before.length ∨ index + 1 = before.length ∨ index = before.length + 1) ∧
      (entry.event? = none → changed.event? = none → index = before.length) := by
  have unlike : (grouped policy (before ++ changed :: after))[index]? ≠
      (grouped policy (before ++ entry :: after))[index]? := by
    intro same
    rw [known, there] at same
    cases same
    simp [Entry.unchanged] at differs
  constructor
  · by_contra far
    obtain ⟨elsewhere, near⟩ := not_or.mp far
    obtain ⟨notBefore, notBehind⟩ := not_or.mp near
    have replaced : before ++ changed :: after =
        (before ++ entry :: after).set before.length changed := by simp
    rw [replaced] at unlike
    exact unlike (getElem?_grouped_set policy _ changed elsewhere notBefore notBehind)
  · intro wasVirtual isVirtual
    by_contra elsewhere
    rw [grouped_virtual wasVirtual, grouped_virtual isVirtual] at unlike
    exact unlike (getElem?_append_cons_of_ne _ _ _ _ (by rwa [length_grouped]))

/-- If all updates are the same and no identifier is named twice, there is only one. -/
theorem eq_singleton_of_named {updates : List Update} {update : Update} {id : EntryId}
    (said : update ∈ updates) (named : update.named? = some id)
    (all : ∀ other ∈ updates, other = update)
    (once : (updates.filterMap Update.named?).Nodup) : updates = [update] := by
  have repeated := List.eq_replicate_of_mem all
  rw [repeated, List.filterMap_replicate_of_some named, List.nodup_replicate] at once
  have some_said := List.length_pos_of_mem said
  rw [repeated, show updates.length = 1 by omega]
  rfl

/-- What follows for the updates, if the two envelopes have one identifier and the second is newer:
they name the entry in that place and at most its neighbours, all of which have changed, and it
alone if both envelopes are virtual. -/
theorem updatesBetween_replaced {policy : GroupingPolicy} {before after : List Envelope}
    {entry changed : Envelope} {previous next : List Entry}
    (isPrevious : previous = grouped policy (before ++ entry :: after))
    (isNext : next = grouped policy (before ++ changed :: after))
    (distinct : (previous.map Entry.uniqueId).Nodup) (same : changed.uniqueId = entry.uniqueId)
    (newer : entry.serial < changed.serial) :
    next.map Entry.uniqueId = previous.map Entry.uniqueId ∧
      ((updatesBetween previous next).filterMap Update.named?).Nodup ∧
      .changed before.length changed.uniqueId ∈ updatesBetween previous next ∧
      (∀ update ∈ updatesBetween previous next, ∃ index id, update = .changed index id ∧
        (next.map Entry.uniqueId)[index]? = some id ∧
        (index = before.length ∨ index + 1 = before.length ∨ index = before.length + 1)) ∧
      (entry.event? = none → changed.event? = none →
        updatesBetween previous next = [.changed before.length changed.uniqueId]) := by
  have sameIds : next.map Entry.uniqueId = previous.map Entry.uniqueId := by
    rw [isPrevious, isNext, grouped_ids, grouped_ids]
    simp [same]
  have once := nodup_named?_updatesBetween distinct (sameIds ▸ distinct)
  obtain ⟨group, known⟩ := @exists_getElem?_grouped policy (before ++ entry :: after)
    before.length entry (by simp)
  obtain ⟨newGroup, there⟩ := @exists_getElem?_grouped policy (before ++ changed :: after)
    before.length changed (by simp)
  rw [← isPrevious] at known
  rw [← isNext] at there
  have said : .changed before.length changed.uniqueId ∈ updatesBetween previous next := by
    refine (mem_updatesBetween_of_ids sameIds distinct).mpr
      ⟨before.length, _, _, known, there, ?_, rfl⟩
    have other : entry.serial ≠ changed.serial := Nat.ne_of_lt newer
    simp [Entry.unchanged, other]
  have spoken : ∀ update ∈ updatesBetween previous next, ∃ index id, update = .changed index id ∧
      (next.map Entry.uniqueId)[index]? = some id ∧
      (index = before.length ∨ index + 1 = before.length ∨ index = before.length + 1) ∧
      (entry.event? = none → changed.event? = none → index = before.length) := by
    intro update member
    obtain ⟨index, was, is, wasThere, isThere, differs, rfl⟩ :=
      (mem_updatesBetween_of_ids sameIds distinct).mp member
    have id := getElem?_map_uniqueId isThere
    rw [isPrevious] at wasThere
    rw [isNext] at isThere
    obtain ⟨near, alone⟩ := place_of_changed wasThere isThere differs
    exact ⟨index, is.uniqueId, rfl, id, near, alone⟩
  refine ⟨sameIds, once, said, ?_, ?_⟩
  · intro update member
    obtain ⟨index, id, isChange, found, near, -⟩ := spoken update member
    exact ⟨index, id, isChange, found, near⟩
  · intro wasVirtual isVirtual
    refine eq_singleton_of_named said rfl ?_ once
    intro update member
    obtain ⟨index, id, rfl, found, -, alone⟩ := spoken update member
    rw [alone wasVirtual isVirtual, List.getElem?_map, there] at found
    rw [alone wasVirtual isVirtual, ← Option.some.inj found]
    rfl

end RoomTimeline
