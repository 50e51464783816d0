import Mathlib.Data.List.Induction
import RoomTimeline.Proofs.Batch.Replay

/-!
# What the offsets of a script mean

A script names offsets of two lists. Its removals count in the list before the script and its
insertions in the list after it, in whatever order the script holds them. `EditScript.apply` edits
one list step by step. Here is shown that the steps come to what the offsets say, on any list, and
that they fail exactly where an offset cannot exist (`EditScript.apply_meets_offsets`).

All of it comes down to the highest offset. Taking out the entry there leaves every lower offset
where it is (`without_eraseIdx`), so removals go down to it and insertions come up to it. Whether a
list has the offsets of a script depends on its length alone (`EditScript.Fits`), which is why a
script that an operation makes for one list fits every other list of that length.
-/

namespace RoomTimeline

universe u
variable {α : Type u}

/-! ## Taking out entries by offset -/

/-- What is left of a list when the entries at some offsets are taken out. -/
def without (offsets : List Nat) (items : List α) : List α :=
  (items.zipIdx.filter fun place => place.2 ∉ offsets).map Prod.fst

/-- Taking out the entries at no offset leaves the whole list. -/
theorem without_nil (items : List α) : without [] items = items := by
  have all : items.zipIdx.filter (fun place => place.2 ∉ []) = items.zipIdx :=
    List.filter_eq_self.mpr (by simp)
  unfold without
  rw [all, List.zipIdx_map_fst]

/-- Entries behind all offsets stay where they are when the entries at the offsets are taken out. -/
theorem without_append {offsets : List Nat} {front : List α} (back : List α)
    (below : ∀ offset ∈ offsets, offset < front.length) :
    without offsets (front ++ back) = without offsets front ++ back := by
  have stays : (back.zipIdx (0 + front.length)).filter (fun place => place.2 ∉ offsets) =
      back.zipIdx (0 + front.length) := by
    refine List.filter_eq_self.mpr ?_
    intro place member
    have behind := List.le_snd_of_mem_zipIdx member
    have absent : place.2 ∉ offsets := by
      intro named
      have before := below place.2 named
      omega
    simpa using absent
  unfold without
  rw [List.zipIdx_append, List.filter_append, stays, List.map_append, List.zipIdx_map_fst]

/-- The entry at the highest offset may be taken out first: the lower offsets still name what they
have named before. -/
theorem without_eraseIdx {offsets : List Nat} {items : List α} {last : Nat}
    (inside : last < items.length) (below : ∀ offset ∈ offsets, offset < last) :
    without (offsets ++ [last]) items = without offsets (items.eraseIdx last) := by
  have front : (items.take last).length = last := List.length_take_of_le (Nat.le_of_lt inside)
  have upTo : (items.take last ++ [items[last]]).length = last + 1 := by
    rw [List.length_append, front, List.length_singleton]
  have split : items = items.take last ++ [items[last]] ++ items.drop (last + 1) := by simp
  have named : ∀ offset ∈ offsets ++ [last],
      offset < (items.take last ++ [items[last]]).length := by
    intro offset member
    rw [upTo]
    rcases List.mem_append.mp member with lower | highest
    · exact Nat.lt_succ_of_lt (below offset lower)
    · exact List.mem_singleton.mp highest ▸ Nat.lt_succ_self last
  have others : ∀ place ∈ (items.take last).zipIdx,
      (place.2 ∉ offsets ++ [last]) ↔ place.2 ∉ offsets := by
    intro place member
    have before := List.snd_lt_of_mem_zipIdx member
    have apart : place.2 ≠ last := by omega
    simp [apart]
  have dropsLast : without (offsets ++ [last]) (items.take last ++ [items[last]]) =
      without offsets (items.take last) := by
    unfold without
    rw [List.zipIdx_append, List.filter_append, List.map_append]
    have kept := List.filter_congr (p := fun place => decide (place.2 ∉ offsets ++ [last]))
      (q := fun place => decide (place.2 ∉ offsets)) fun place member =>
        decide_eq_decide.mpr (others place member)
    rw [kept]
    simp [front]
  conv => lhs; rw [split]
  rw [without_append _ named, dropsLast, List.eraseIdx_eq_take_drop_succ,
    without_append _ (by rwa [front])]

/-! ## Ascending offsets -/

/-- How many of some offsets are lower than a given one. -/
def rank (offsets : List Nat) (offset : Nat) : Nat := offsets.countP fun other => other < offset

/-- Of offsets that are all lower, the rank is their number. -/
theorem rank_of_above {lower : List Nat} {offset : Nat} (above : ∀ other ∈ lower, other < offset) :
    rank lower offset = lower.length :=
  List.countP_eq_length.mpr fun other member => decide_eq_true (above other member)

/-- Offsets that are not lower than a given one do not count for its rank. -/
theorem rank_append {lower higher : List Nat} {offset : Nat}
    (below : ∀ other ∈ higher, offset ≤ other) :
    rank (lower ++ higher) offset = rank lower offset := by
  have none : higher.countP (fun other => other < offset) = 0 :=
    List.countP_eq_zero.mpr fun other member => by simpa using below other member
  unfold rank
  rw [List.countP_append, none, Nat.add_zero]

namespace EditScript

/-- Removals from the highest offset down take out the entries at just these offsets. -/
theorem foldlM_removeAt {removed : List Nat} (ascend : removed.Pairwise (· < ·))
    {items : List Envelope} (inside : ∀ offset ∈ removed, offset < items.length) :
    removed.reverse.foldlM removeAt items = .ok (without removed items) ∧
      (without removed items).length + removed.length = items.length := by
  induction removed using List.reverseRecOn generalizing items with
  | nil => simp [without_nil, pure, Except.pure]
  | append_singleton lower last inductionHypothesis =>
    obtain ⟨lowerAscend, -, apart⟩ := List.pairwise_append.mp ascend
    have below : ∀ offset ∈ lower, offset < last :=
      fun offset member => apart offset member last List.mem_cons_self
    have lastInside : last < items.length := inside last (by simp)
    have shorter : (items.eraseIdx last).length + 1 = items.length := by
      rw [List.length_eraseIdx_of_lt lastInside]
      omega
    have lowerInside : ∀ offset ∈ lower, offset < (items.eraseIdx last).length := by
      intro offset member
      have before := below offset member
      omega
    obtain ⟨removes, counts⟩ := inductionHypothesis lowerAscend lowerInside
    rw [without_eraseIdx lastInside below]
    constructor
    · rw [List.reverse_append, List.reverse_singleton, List.singleton_append, List.foldlM_cons,
        removeAt, if_pos lastInside]
      exact removes
    · rw [List.length_append, List.length_singleton]
      omega

/-- Insertions from the lowest offset up put their entries to just these offsets and leave the
others as they were, if every offset is within the list by the time its turn comes. -/
theorem foldlM_insertAt {inserted : List (Nat × Envelope)}
    (ascend : (inserted.map Prod.fst).Pairwise (· < ·)) {kept : List Envelope}
    (fits : ∀ offset ∈ inserted.map Prod.fst,
      offset ≤ kept.length + rank (inserted.map Prod.fst) offset) :
    ∃ edited, inserted.foldlM insertAt kept = .ok edited ∧
      edited.length = kept.length + inserted.length ∧
      (∀ place ∈ inserted, edited[place.1]? = some place.2) ∧
      without (inserted.map Prod.fst) edited = kept := by
  induction inserted using List.reverseRecOn with
  | nil => exact ⟨kept, rfl, rfl, by simp, without_nil kept⟩
  | append_singleton lower last inductionHypothesis =>
    rw [List.map_append, List.map_singleton] at ascend fits
    obtain ⟨lowerAscend, -, apart⟩ := List.pairwise_append.mp ascend
    have below : ∀ offset ∈ lower.map Prod.fst, offset < last.1 :=
      fun offset member => apart offset member last.1 List.mem_cons_self
    have lowerFits : ∀ offset ∈ lower.map Prod.fst,
        offset ≤ kept.length + rank (lower.map Prod.fst) offset := by
      intro offset member
      have fit := fits offset (List.mem_append_left _ member)
      rwa [rank_append (by simpa using Nat.le_of_lt (below offset member))] at fit
    obtain ⟨edited, inserts, counts, places, others⟩ := inductionHypothesis lowerAscend lowerFits
    have within : last.1 ≤ edited.length := by
      have fit := fits last.1 (by simp)
      rw [rank_append (by simp), rank_of_above below, List.length_map] at fit
      omega
    refine ⟨edited.insertIdx last.1 last.2, ?_, ?_, ?_, ?_⟩
    · rw [List.foldlM_append, inserts]
      simp [insertAt, within, bind, Except.bind, pure, Except.pure]
    · rw [List.length_insertIdx_of_le_length within, List.length_append, List.length_singleton]
      omega
    · intro place member
      rcases List.mem_append.mp member with before | new
      · rw [List.getElem?_insertIdx, if_pos (below place.1 (List.mem_map_of_mem before))]
        exact places place before
      · rw [List.mem_singleton.mp new, List.getElem?_insertIdx, if_neg (Nat.lt_irrefl _),
          if_pos rfl, if_pos within]
    · have longer : last.1 < (edited.insertIdx last.1 last.2).length := by
        rw [List.length_insertIdx_of_le_length within]
        omega
      rw [List.map_append, List.map_singleton, without_eraseIdx longer below,
        List.eraseIdx_insertIdx_self]
      exact others

/-- The first insertion that comes to a list which does not have its offset ends the edit. -/
theorem foldlM_insertAt_of_beyond {front back : List (Nat × Envelope)} {place : Nat × Envelope}
    (ascend : ((front ++ place :: back).map Prod.fst).Pairwise (· < ·)) {kept : List Envelope}
    (fits : ∀ offset ∈ front.map Prod.fst,
      offset ≤ kept.length + rank ((front ++ place :: back).map Prod.fst) offset)
    (beyond : kept.length + rank ((front ++ place :: back).map Prod.fst) place.1 < place.1) :
    (front ++ place :: back).foldlM insertAt kept = .error (.diverged (.insertion place.1
      (kept.length + rank ((front ++ place :: back).map Prod.fst) place.1))) := by
  rw [List.map_append, List.map_cons] at ascend fits beyond ⊢
  obtain ⟨frontAscend, backAscend, apart⟩ := List.pairwise_append.mp ascend
  obtain ⟨behind, -⟩ := List.pairwise_cons.mp backAscend
  have below : ∀ offset ∈ front.map Prod.fst, offset < place.1 :=
    fun offset member => apart offset member place.1 List.mem_cons_self
  have frontFits : ∀ offset ∈ front.map Prod.fst,
      offset ≤ kept.length + rank (front.map Prod.fst) offset := by
    intro offset member
    have fit := fits offset member
    rwa [rank_append fun other named => Nat.le_of_lt (apart offset member other named)] at fit
  have turn : rank (front.map Prod.fst ++ place.1 :: back.map Prod.fst) place.1 = front.length := by
    rw [rank_append, rank_of_above below, List.length_map]
    intro other named
    rcases List.mem_cons.mp named with rfl | after
    · exact Nat.le_refl _
    · exact Nat.le_of_lt (behind other after)
  obtain ⟨edited, inserts, counts, -, -⟩ := foldlM_insertAt frontAscend frontFits
  rw [turn, ← counts] at beyond ⊢
  rw [List.foldlM_append, inserts]
  simp [insertAt, Nat.not_le.mpr beyond, bind, Except.bind]

/-! ## The offsets of a script -/

/-- The offsets of the removals, in the order in which the script holds them. -/
def removed (script : EditScript) : List Nat := script.changes.filterMap Change.removal?

/-- The insertions in the order in which the script holds them. -/
def inserted (script : EditScript) : List (Nat × Envelope) :=
  script.changes.filterMap Change.insertion?

/-- The offsets of the insertions. -/
def insertedAt (script : EditScript) : List Nat := script.inserted.map Prod.fst

/-- The length that a list has come to when the insertion at an offset has its turn: all removals
have been made and all insertions at lower offsets. -/
def lengthBefore (script : EditScript) (length offset : Nat) : Nat :=
  length - script.removed.length + rank script.insertedAt offset

/-- Whether lists of a length have the offsets of a script. None is named twice, and each is within
the list by the time its turn comes. -/
structure Fits (script : EditScript) (length : Nat) : Prop where
  removedOnce : script.removed.Nodup
  insertedOnce : script.insertedAt.Nodup
  removals : ∀ offset ∈ script.removed, offset < length
  insertions : ∀ offset ∈ script.insertedAt, offset ≤ script.lengthBefore length offset

variable {script : EditScript} {target : List Envelope}

/-- The removals that are made, in whatever order, are those that the script holds. -/
theorem removals_perm (script : EditScript) : script.removals.Perm script.removed :=
  List.mergeSort_perm _ _

/-- The insertions that are made, in whatever order, are those that the script holds. -/
theorem insertions_perm (script : EditScript) : script.insertions.Perm script.inserted :=
  List.mergeSort_perm _ _

/-- The offsets at which insertions are made, in whatever order, are those that the script names for
them. -/
theorem map_insertions_perm (script : EditScript) :
    (script.insertions.map Prod.fst).Perm script.insertedAt :=
  (insertions_perm script).map Prod.fst

/-- Where no removal is repeated, the removals sorted by their offsets ascend strictly. -/
theorem removals_ascending (once : script.removed.Nodup) : script.removals.Pairwise (· < ·) := by
  have sorted : script.removals.Pairwise fun first second => decide (first ≤ second) = true :=
    List.pairwise_mergeSort (by simpa using fun _ _ _ => Nat.le_trans)
      (by simpa using Nat.le_total) _
  have distinct : script.removals.Nodup := (removals_perm script).nodup_iff.mpr once
  exact sorted.imp₂ (fun first second upTo apart =>
    Nat.lt_of_le_of_ne (of_decide_eq_true upTo) apart) distinct

/-- Where no offset of an insertion is repeated, the insertions sorted by their offsets ascend
strictly. -/
theorem insertions_ascending (once : script.insertedAt.Nodup) :
    (script.insertions.map Prod.fst).Pairwise (· < ·) := by
  have sorted : script.insertions.Pairwise fun first second =>
      decide (first.1 ≤ second.1) = true :=
    List.pairwise_mergeSort (by simpa using fun _ _ _ _ _ _ => Nat.le_trans)
      (by simpa using fun first _ second _ => Nat.le_total first second) _
  have distinct : (script.insertions.map Prod.fst).Nodup :=
    (map_insertions_perm script).nodup_iff.mpr once
  exact List.pairwise_map.mpr (sorted.imp₂ (fun first second upTo apart =>
    Nat.lt_of_le_of_ne (of_decide_eq_true upTo) apart) (List.pairwise_map.mp distinct))

/-- A script that names no offset twice removes first and then inserts. -/
theorem apply_eq_of_once (removedOnce : script.removed.Nodup)
    (insertedOnce : script.insertedAt.Nodup) (target : List Envelope) :
    script.apply target = (do
      let kept ← script.removals.reverse.foldlM removeAt target
      script.insertions.foldlM insertAt kept) := by
  have removals : script.removals.Nodup := (removals_perm script).nodup_iff.mpr removedOnce
  have insertions : (script.insertions.map Prod.fst).Nodup :=
    (map_insertions_perm script).nodup_iff.mpr insertedOnce
  simp [apply, removals, insertions]

/-- The rank of an offset among the insertions is the same before and after sorting them. -/
theorem rank_insertions (script : EditScript) (offset : Nat) :
    rank (script.insertions.map Prod.fst) offset = rank script.insertedAt offset :=
  (map_insertions_perm script).countP_eq _

/-- A script whose highest removal is not in the list fails there, before anything is removed. -/
theorem apply_of_outside (removedOnce : script.removed.Nodup)
    (insertedOnce : script.insertedAt.Nodup) {offset : Nat} (named : offset ∈ script.removed)
    (highest : ∀ other ∈ script.removed, other ≤ offset) (outside : target.length ≤ offset) :
    script.apply target = .error (.diverged (.removal offset target.length)) := by
  have ascend := removals_ascending removedOnce
  have inSorted : offset ∈ script.removals := (removals_perm script).mem_iff.mpr named
  rw [apply_eq_of_once removedOnce insertedOnce]
  rcases List.eq_nil_or_concat script.removals with none | ⟨lower, last, found⟩
  · rw [none] at inSorted
    cases inSorted
  · rw [List.concat_eq_append] at found
    have lastNamed : last ∈ script.removed := (removals_perm script).mem_iff.mp (by simp [found])
    have same : offset = last := by
      rw [found] at inSorted ascend
      rcases List.mem_append.mp inSorted with before | isLast
      · have less := (List.pairwise_append.mp ascend).2.2 offset before last List.mem_cons_self
        have most := highest last lastNamed
        omega
      · exact List.mem_singleton.mp isLast
    subst same
    simp [found, removeAt, Nat.not_lt.mpr outside, bind, Except.bind]

/-- With all removals in the list, what is left is the list without them. -/
theorem removals_applied (removedOnce : script.removed.Nodup)
    (inside : ∀ offset ∈ script.removed, offset < target.length) :
    script.removals.reverse.foldlM removeAt target = .ok (without script.removed target) ∧
      (without script.removed target).length = target.length - script.removed.length := by
  have perm := removals_perm script
  have allInside : ∀ offset ∈ script.removals, offset < target.length := fun offset member =>
    inside offset (perm.mem_iff.mp member)
  obtain ⟨removes, counts⟩ := foldlM_removeAt (removals_ascending removedOnce) allInside
  have same : without script.removals target = without script.removed target := by
    simp [without, perm.mem_iff]
  rw [same] at removes counts
  rw [perm.length_eq] at counts
  exact ⟨removes, by omega⟩

/-- The lowest insertion that comes to a list without its offset ends the edit. -/
theorem apply_of_beyond (removedOnce : script.removed.Nodup)
    (insertedOnce : script.insertedAt.Nodup)
    (inside : ∀ offset ∈ script.removed, offset < target.length) {offset : Nat}
    (named : offset ∈ script.insertedAt)
    (beyond : script.lengthBefore target.length offset < offset)
    (lowest : ∀ other ∈ script.insertedAt,
      script.lengthBefore target.length other < other → offset ≤ other) :
    script.apply target =
      .error (.diverged (.insertion offset (script.lengthBefore target.length offset))) := by
  obtain ⟨removes, counts⟩ := removals_applied removedOnce inside
  have ascend := insertions_ascending insertedOnce
  obtain ⟨place, inSorted, rfl⟩ :=
    List.mem_map.mp ((map_insertions_perm script).mem_iff.mpr named)
  obtain ⟨front, back, split⟩ := List.append_of_mem inSorted
  have turn : ∀ other, script.lengthBefore target.length other =
      (without script.removed target).length +
        rank ((front ++ place :: back).map Prod.fst) other := by
    intro other
    rw [counts, ← split, rank_insertions]
    rfl
  rw [split] at ascend
  have frontFits : ∀ other ∈ front.map Prod.fst, other ≤
      (without script.removed target).length +
        rank ((front ++ place :: back).map Prod.fst) other := by
    intro other member
    rw [List.map_append] at ascend
    have before : other < place.1 :=
      (List.pairwise_append.mp ascend).2.2 other member place.1 List.mem_cons_self
    have otherNamed : other ∈ script.insertedAt := by
      refine (map_insertions_perm script).mem_iff.mp ?_
      rw [split, List.map_append]
      exact List.mem_append_left _ member
    refine Nat.le_of_not_lt ?_
    intro further
    have least := lowest other otherNamed ((turn other).symm ▸ further)
    omega
  rw [turn] at beyond ⊢
  rw [apply_eq_of_once removedOnce insertedOnce, removes, split]
  exact foldlM_insertAt_of_beyond ascend frontFits beyond

/-- A script that fits the list puts each entry to its offset, and the others are what the removals
have left. -/
theorem apply_of_fits (fits : script.Fits target.length) :
    ∃ edited, script.apply target = .ok edited ∧
      edited.length = target.length - script.removed.length + script.inserted.length ∧
      (∀ place ∈ script.inserted, edited[place.1]? = some place.2) ∧
      without script.insertedAt edited = without script.removed target := by
  obtain ⟨removes, counts⟩ := removals_applied fits.removedOnce fits.removals
  have perm := insertions_perm script
  have sortedFits : ∀ offset ∈ script.insertions.map Prod.fst, offset ≤
      (without script.removed target).length + rank (script.insertions.map Prod.fst) offset := by
    intro offset member
    rw [counts, rank_insertions]
    exact fits.insertions offset ((map_insertions_perm script).mem_iff.mp member)
  obtain ⟨edited, inserts, longer, places, others⟩ :=
    foldlM_insertAt (insertions_ascending fits.insertedOnce) sortedFits
  refine ⟨edited, ?_, ?_, fun place member => places place (perm.mem_iff.mpr member), ?_⟩
  · rw [apply_eq_of_once fits.removedOnce fits.insertedOnce, removes]
    exact inserts
  · rw [longer, counts, perm.length_eq]
  · have same : without (script.insertions.map Prod.fst) edited =
        without script.insertedAt edited := by
      simp only [without, (map_insertions_perm script).mem_iff]
    rw [← same, others]

/-- A script can be applied to no list but those that it fits. -/
theorem fits_of_apply {edited : List Envelope} (applied : script.apply target = .ok edited) :
    script.Fits target.length := by
  have removedOnce : script.removed.Nodup := by
    by_contra repeated
    have sorted : ¬ script.removals.Nodup :=
      fun distinct => repeated ((removals_perm script).nodup_iff.mp distinct)
    simp [apply, sorted, bind, Except.bind, throw, throwThe, MonadExceptOf.throw] at applied
  have insertedOnce : script.insertedAt.Nodup := by
    by_contra repeated
    have removals : script.removals.Nodup := (removals_perm script).nodup_iff.mpr removedOnce
    have sorted : ¬ (script.insertions.map Prod.fst).Nodup :=
      fun distinct => repeated ((map_insertions_perm script).nodup_iff.mp distinct)
    simp [apply, removals, sorted, bind, Except.bind, throw, throwThe, MonadExceptOf.throw]
      at applied
  have inside : ∀ offset ∈ script.removed, offset < target.length := by
    intro offset named
    refine Nat.lt_of_not_le ?_
    intro outside
    -- The highest removal is outside as well, and its turn comes first.
    obtain ⟨most, found⟩ := Option.isSome_iff_exists.mp (List.isSome_max?_of_mem named)
    obtain ⟨mostNamed, highest⟩ := List.max?_eq_some_iff.mp found
    rw [apply_of_outside removedOnce insertedOnce mostNamed highest
      (Nat.le_trans outside (highest offset named))] at applied
    cases applied
  refine ⟨removedOnce, insertedOnce, inside, ?_⟩
  intro offset named
  refine Nat.le_of_not_lt ?_
  intro beyond
  -- Of all insertions that come too early the lowest has its turn first.
  have early : offset ∈ script.insertedAt.filter fun other =>
      script.lengthBefore target.length other < other :=
    List.mem_filter.mpr ⟨named, decide_eq_true beyond⟩
  obtain ⟨least, found⟩ := Option.isSome_iff_exists.mp (List.isSome_min?_of_mem early)
  obtain ⟨leastEarly, lowest⟩ := List.min?_eq_some_iff.mp found
  obtain ⟨leastNamed, leastBeyond⟩ := List.mem_filter.mp leastEarly
  rw [apply_of_beyond removedOnce insertedOnce inside leastNamed (of_decide_eq_true leastBeyond)
    fun other otherNamed further =>
      lowest other (List.mem_filter.mpr ⟨otherNamed, decide_eq_true further⟩)] at applied
  cases applied

/-- The script that an operation makes for a list fits it. -/
theorem fits_of_script {serial : Nat} {items : List Envelope} {operation : Operation}
    (made : operation.script serial items = .ok script) : script.Fits items.length := by
  cases turn : operation.fault? items.length with
  | some fault =>
    rw [Operation.script_of_fault turn] at made
    cases made
  | none =>
    obtain ⟨other, sameMade, applied, -⟩ := Operation.script_of_valid serial turn
    rw [sameMade] at made
    cases made
    exact fits_of_apply applied

/-- Applying a script to any list comes to what its offsets say. The script names no offset twice
among its removals, nor among its insertions, and may hold them in any order.
- If the highest removal is not in the list, the edit diverges there, and reports this offset and
  the length of the list.
- Otherwise, if an insertion is further out than the list has become by its turn, the edit diverges
  at the lowest such offset, and reports it with this length: that of the list less all removals,
  and one more for each insertion at a lower offset.
- Otherwise the list is edited. It has become shorter by the removals and longer by the insertions.
  Each inserted entry stands at its offset, and all other entries are those that no removal names,
  in order.

A script that an operation makes for one list can be applied to every list of the same length. -/
theorem apply_meets_offsets (script : EditScript) (target : List Envelope)
    (removedOnce : script.removed.Nodup) (insertedOnce : script.insertedAt.Nodup) :
    (∀ offset ∈ script.removed, (∀ other ∈ script.removed, other ≤ offset) →
      target.length ≤ offset →
      script.apply target = .error (.diverged (.removal offset target.length))) ∧
    ((∀ offset ∈ script.removed, offset < target.length) →
      (∀ offset ∈ script.insertedAt, script.lengthBefore target.length offset < offset →
        (∀ other ∈ script.insertedAt,
          script.lengthBefore target.length other < other → offset ≤ other) →
        script.apply target =
          .error (.diverged (.insertion offset (script.lengthBefore target.length offset)))) ∧
      ((∀ offset ∈ script.insertedAt, offset ≤ script.lengthBefore target.length offset) →
        ∃ edited, script.apply target = .ok edited ∧
          edited.length = target.length - script.removed.length + script.inserted.length ∧
          (∀ place ∈ script.inserted, edited[place.1]? = some place.2) ∧
          without script.insertedAt edited = without script.removed target)) ∧
    ∀ serial items operation built, Operation.script serial items operation = .ok built →
      items.length = target.length → ∃ edited, built.apply target = .ok edited := by
  refine ⟨?_, fun inside => ⟨?_, ?_⟩, ?_⟩
  · intro offset named highest outside
    exact apply_of_outside removedOnce insertedOnce named highest outside
  · intro offset named beyond lowest
    exact apply_of_beyond removedOnce insertedOnce inside named beyond lowest
  · intro insertions
    exact apply_of_fits ⟨removedOnce, insertedOnce, inside, insertions⟩
  · intro serial items operation built made sameLength
    have fits := fits_of_script made
    rw [sameLength] at fits
    obtain ⟨edited, applied, -⟩ := apply_of_fits fits
    exact ⟨edited, applied⟩

/-- A script that holds its changes out of order edits a list of three entries, and diverges on a
list that lacks the last of them. With one insertion further out it diverges there. -/
theorem apply_meets_offsets_of_mixed_changes :
    ∃ (entry : Nat → Envelope) (script further : EditScript) (target : List Envelope),
      script.changes = [.insert 2 (entry 6), .remove 2, .insert 0 (entry 5), .remove 0] ∧
      further.changes = .insert 4 (entry 7) :: script.changes ∧
      script.removed.Nodup ∧ script.insertedAt.Nodup ∧ further.removed.Nodup ∧
      further.insertedAt.Nodup ∧ target = [entry 2, entry 3, entry 4] ∧
      (∃ edited, script.apply target = .ok edited ∧ edited.length = 3 ∧
        (∀ place ∈ [(2, entry 6), (0, entry 5)], edited[place.1]? = some place.2) ∧
        without [2, 0] edited = [entry 3]) ∧
      script.apply [entry 2, entry 3] = .error (.diverged (.removal 2 2)) ∧
      further.apply target = .error (.diverged (.insertion 4 3)) := by
  let entry : Nat → Envelope := fun number => .synthesized number ⟨"entry"⟩ .readMarker
  let script : EditScript :=
    ⟨[.insert 2 (entry 6), .remove 2, .insert 0 (entry 5), .remove 0], []⟩
  let further : EditScript := ⟨.insert 4 (entry 7) :: script.changes, []⟩
  let target := [entry 2, entry 3, entry 4]
  have removals : script.removed.Nodup := by decide
  have insertions : script.insertedAt.Nodup := by decide
  have moreRemovals : further.removed.Nodup := by decide
  have moreInsertions : further.insertedAt.Nodup := by decide
  refine ⟨entry, script, further, target, rfl, rfl, removals, insertions, moreRemovals,
    moreInsertions, rfl, ?_, ?_, ?_⟩
  · exact ((apply_meets_offsets script target removals insertions).2.1 (by decide)).2 (by decide)
  · exact (apply_meets_offsets script [entry 2, entry 3] removals insertions).1 2 (by decide)
      (by decide) (by decide)
  · exact ((apply_meets_offsets further target moreRemovals moreInsertions).2.1 (by decide)).1 4
      (by decide) (by decide) (by decide)

end EditScript

end RoomTimeline
