import RoomTimeline.Proofs.Batch.Origins
import RoomTimeline.Proofs.Rendering

/-!
# Identifiers of what is shown

The source gives each of its entries an identifier, and rendering gives one to each entry that it
makes itself: the two indicators have fixed ones, and that of a collapsed entry is made from that of
its first member. A collection never holds an identifier twice, and neither do the entries that
rendering makes. But nothing keeps the source from using an identifier that rendering uses as well.
So identifiers repeat in what is shown just if an entry of the source that is shown as it is has the
identifier of an entry that rendering has made (`Depiction.ids_nodup_iff`).
-/

namespace RoomTimeline

/-! ## Identifiers that rendering gives -/

/-- The identifiers of the entries that rendering makes for a collection. -/
inductive Made (config : Config) (pair : PaginationPair) (items : List Envelope) : EntryId → Prop
  | start (shown : config.showPaginationIndicators = true)
      (loading : pair.backward = .paginating) : Made config pair items startIndicator.uniqueId
  | finish (shown : config.showPaginationIndicators = true)
      (loading : pair.forward = .paginating) : Made config pair items finishIndicator.uniqueId
  | run {first second : Envelope} {more : List Envelope} (folds : config.collapseStateEvents = true)
      (block : first :: second :: more ∈ blocks items) : Made config pair items (Runs.idFor first)

/-- The identifiers that rendering may give to an entry, whatever it renders. -/
def EntryId.Reserved (id : EntryId) : Prop :=
  id = startIndicator.uniqueId ∨ id = finishIndicator.uniqueId ∨
    ∃ text, id.text = "collapsed-" ++ text

/-- An identifier that rendering may give to an entry starts with one of two letters. -/
theorem EntryId.Reserved.head? {id : EntryId} (reserved : id.Reserved) :
    id.text.toList.head? = some 'p' ∨ id.text.toList.head? = some 'c' := by
  rcases reserved with rfl | rfl | ⟨text, same⟩
  · exact Or.inl rfl
  · exact Or.inl rfl
  · rw [same, String.toList_append]
    exact Or.inr rfl

/-- An identifier that rendering gives to an entry is one that it may give, whatever it renders. -/
theorem Made.reserved {config : Config} {pair : PaginationPair} {items : List Envelope}
    {id : EntryId} (made : Made config pair items id) : id.Reserved := by
  cases made with
  | start => exact Or.inl rfl
  | finish => exact Or.inr (Or.inl rfl)
  | run => exact Or.inr (Or.inr ⟨_, rfl⟩)

/-- The entry of a run never has the identifier of an indicator. -/
theorem Runs.idFor_ne_indicator (first : Envelope) :
    Runs.idFor first ≠ startIndicator.uniqueId ∧ Runs.idFor first ≠ finishIndicator.uniqueId := by
  have letter : (Runs.idFor first).text.toList.head? = some 'c' := by
    simp [Runs.idFor, String.toList_append]
  constructor
  · intro same
    rw [same] at letter
    cases letter
  · intro same
    rw [same] at letter
    cases letter

/-! ## Identifiers in what is shown -/

/-- An entry that is no read marker is not left out with a trailing read marker. -/
theorem mem_trimmed (config : Config) {entry : Envelope} {body : List Envelope}
    (plain : entry.isReadMarker = false) (member : entry ∈ body) : entry ∈ trimmed config body := by
  obtain ⟨front, back, rfl⟩ := List.append_of_mem member
  have stays : config.hideTrailingReadMarker = true → entry.isReadMarker = true → back ≠ [] := by
    intro _ marker
    rw [plain] at marker
    cases marker
  obtain ⟨rest, left⟩ := trimmed_split config front stays
  rw [left]
  exact List.mem_append_right _ List.mem_cons_self

/-- An indicator that is arranged is shown, and its direction is being loaded. -/
theorem of_mem_indicator {config : Config} {status : PaginationStatus} {entry other : Envelope}
    (member : other ∈ indicator config status entry) :
    other = entry ∧ config.showPaginationIndicators = true ∧ status = .paginating := by
  unfold indicator at member
  split at member
  · rename_i loading
    exact ⟨List.mem_singleton.mp member, loading.1, loading.2⟩
  · cases member

namespace Depiction

variable {config : Config} {serial : Nat} {items shown : List Envelope} {runs : Runs}

/-- All that is shown is in the collection or has an identifier that rendering gives. -/
theorem mem_or_made (depiction : Depiction config serial items runs shown) (pair : PaginationPair)
    {entry : Envelope} (member : entry ∈ arrange config pair shown) :
    entry ∈ items ∨ Made config pair items entry.uniqueId := by
  rw [arrange_eq] at member
  rcases List.mem_append.mp member with front | atEnd
  · rcases List.mem_append.mp front with atStart | inBody
    · obtain ⟨rfl, visible, loading⟩ := of_mem_indicator atStart
      exact Or.inr (.start visible loading)
    · have inShown : entry ∈ shown := by
        rw [trimmed_eq] at inBody
        split at inBody
        · exact (List.dropLast_sublist shown).subset inBody
        · exact inBody
      have depicts := depiction.depicts
      unfold Depicts at depicts
      split at depicts
      · rename_i folds
        rcases depicts.mem_or_mem_runs entry inShown with inItems | inRuns
        · rw [flatten_blocks] at inItems
          exact Or.inl inItems
        · obtain ⟨first, second, more, formed, block⟩ := depicts.exists_block entry inRuns
          rw [formed]
          exact Or.inr (.run folds block)
      · rw [depicts.1] at inShown
        exact Or.inl inShown
  · obtain ⟨rfl, visible, loading⟩ := of_mem_indicator atEnd
    exact Or.inr (.finish visible loading)

/-- Each identifier that rendering gives is that of an entry that is shown and not in the
collection. -/
theorem exists_of_made (depiction : Depiction config serial items runs shown)
    {pair : PaginationPair} {id : EntryId} (made : Made config pair items id) :
    ∃ entry ∈ arrange config pair shown, entry ∉ items ∧ entry.uniqueId = id := by
  have late : ∀ entry ∈ items, firstSerial ≤ entry.serial :=
    fun entry member => depiction.late entry (List.mem_append_left _ member)
  rw [arrange_eq]
  cases made with
  | start visible loading =>
    refine ⟨startIndicator, ?_, fun inside => absurd (late _ inside) (by decide), rfl⟩
    simp [indicator, visible, loading]
  | finish visible loading =>
    refine ⟨finishIndicator, ?_, fun inside => absurd (late _ inside) (by decide), rfl⟩
    simp [indicator, visible, loading]
  | @run first second more folds block =>
    have depicts := depiction.depicts
    simp only [Depicts, folds, if_true] at depicts
    obtain ⟨number, inShown, inRuns⟩ := depicts.shown_of_block block
    refine ⟨_, List.mem_append_left _ (List.mem_append_right _
      (mem_trimmed config (isReadMarker_runEntry _ _ _) inShown)), ?_, rfl⟩
    intro inItems
    exact depiction.serial_ne _ inItems _ inRuns rfl

/-- The two indicators and the collapsed entries in use all have different identifiers. -/
theorem own_ids (depiction : Depiction config serial items runs shown) :
    ((startIndicator :: finishIndicator :: runs).map Envelope.uniqueId).Nodup := by
  have depicts := depiction.depicts
  unfold Depicts at depicts
  split at depicts
  · have apart : ∀ id ∈ runs.map Envelope.uniqueId,
        id ≠ startIndicator.uniqueId ∧ id ≠ finishIndicator.uniqueId := by
      intro id inside
      obtain ⟨run, member, rfl⟩ := List.mem_map.mp inside
      obtain ⟨first, second, more, formed, -⟩ := depicts.exists_block run member
      rw [formed]
      exact Runs.idFor_ne_indicator first
    have distinct := depicts.runs_ids (by rw [flatten_blocks]; exact depiction.ids)
    refine List.nodup_cons.mpr ⟨?_, List.nodup_cons.mpr ⟨?_, distinct⟩⟩
    · intro inside
      rcases List.mem_cons.mp inside with same | behind
      · exact absurd same (by decide)
      · exact (apart _ behind).1 rfl
    · exact fun behind => (apart _ behind).2 rfl
  · rw [depicts.2]
    decide

/-- No entry is shown twice. -/
theorem arranged_nodup (depiction : Depiction config serial items runs shown)
    (pair : PaginationPair) : (arrange config pair shown).Nodup := by
  have known : ∀ run ∈ runs, run.serial ∈ runs.map Envelope.serial :=
    fun run member => List.mem_map_of_mem member
  have absent : ∀ entry ∈ items, entry.serial ∉ runs.map Envelope.serial := by
    intro entry member inside
    obtain ⟨run, runMember, same⟩ := List.mem_map.mp inside
    exact depiction.serial_ne entry member run runMember same.symm
  have ascending := depiction.arranged_leaders known absent .never pair
  have places := depiction.places_nodup.sublist ascending
  have grouping := grouped_envelopes .never (arrange config pair shown)
  rw [← grouping]
  refine List.Nodup.of_map (leader (runs.map Envelope.serial)) ?_
  rw [List.map_map]
  exact places

/-- Identifiers repeat in what is shown just if an entry of the collection that is shown has an
identifier that rendering gives. -/
theorem ids_nodup_iff (depiction : Depiction config serial items runs shown)
    (pair : PaginationPair) :
    ((arrange config pair shown).map Envelope.uniqueId).Nodup ↔
      ∀ entry ∈ arrange config pair shown, entry ∈ items →
        ¬ Made config pair items entry.uniqueId := by
  constructor
  · intro distinct entry member inItems made
    obtain ⟨other, otherMember, absent, same⟩ := depiction.exists_of_made made
    have equal := List.inj_on_of_nodup_map distinct otherMember member same
    exact absent (equal ▸ inItems)
  · intro clear
    refine (List.nodup_map_iff_inj_on (depiction.arranged_nodup pair)).mpr ?_
    have own : ∀ entry ∈ arrange config pair shown, entry ∉ items →
        entry ∈ startIndicator :: finishIndicator :: runs := by
      intro entry member absent
      simpa [absent] using depiction.arranged_subset pair member
    have mixed : ∀ entry ∈ arrange config pair shown, ∀ other ∈ arrange config pair shown,
        entry ∈ items → other ∉ items → entry.uniqueId ≠ other.uniqueId := by
      intro entry member other otherMember inItems absent same
      have made := (depiction.mem_or_made pair otherMember).resolve_left absent
      exact clear entry member inItems (same ▸ made)
    intro entry member other otherMember same
    by_cases inItems : entry ∈ items
    · by_cases otherInItems : other ∈ items
      · exact List.inj_on_of_nodup_map depiction.ids inItems otherInItems same
      · exact absurd same (mixed entry member other otherMember inItems otherInItems)
    · by_cases otherInItems : other ∈ items
      · exact absurd same.symm (mixed other otherMember entry member otherInItems inItems)
      · exact List.inj_on_of_nodup_map depiction.own_ids (own entry member inItems)
          (own other otherMember otherInItems) same

end Depiction

/-- Identifiers are distinct just if each entry is found at its own place. -/
theorem Snapshot.ids_nodup_iff_position? (snapshot : Snapshot) :
    snapshot.ids.Nodup ↔ ∀ place entry, snapshot.entries[place]? = some entry →
      snapshot.position? entry.uniqueId = some place := by
  constructor
  · intro distinct place entry found
    obtain ⟨inside, rfl⟩ := List.getElem?_eq_some_iff.mp found
    refine List.findIdx?_eq_some_iff_getElem.mpr ⟨inside, by simp, ?_⟩
    intro earlier before same
    have inRange : place < snapshot.ids.length := by simpa [ids] using inside
    have inRangeToo : earlier < snapshot.ids.length := Nat.lt_trans before inRange
    have sameId : snapshot.ids[earlier] = snapshot.ids[place] := by
      simpa [ids] using same
    have equal := distinct.getElem_inj_iff.mp sameId
    omega
  · intro finds
    refine List.nodup_iff_getElem?_ne_getElem?.mpr ?_
    intro earlier later before inside same
    have laterInside : later < snapshot.entries.length := by simpa [ids] using inside
    have earlierInside := before.trans laterInside
    have earlierFound := finds earlier _ (List.getElem?_eq_getElem earlierInside)
    have laterFound := finds later _ (List.getElem?_eq_getElem laterInside)
    have sameId : snapshot.entries[earlier].uniqueId = snapshot.entries[later].uniqueId := by
      simpa [ids, earlierInside, laterInside] using same
    rw [sameId, laterFound] at earlierFound
    exact absurd (Option.some.inj earlierFound) (Nat.ne_of_gt before)

/-! ## Identifiers that the source gives -/

/-- The identifiers that a batch brings. -/
def Batch.ids (batch : Batch) : List EntryId :=
  batch.flatMap fun operation => operation.raws.map RawItem.uniqueId

/-- A fresh envelope has the identifier of one of the raw items. -/
theorem uniqueId_mem_of_fresh {serial : Nat} {raws : List RawItem} {entry : Envelope}
    (member : entry ∈ fresh serial raws) : entry.uniqueId ∈ raws.map RawItem.uniqueId := by
  obtain ⟨index, raw, there, made⟩ := mem_fresh_iff.mp member
  rw [Envelope.uniqueId_ofRaw made]
  exact List.mem_map_of_mem (List.mem_of_getElem? there)

/-- What a batch leaves was there before or has an identifier that the batch brings. -/
theorem replay_ids {batch : Batch} {serial : Nat} {items final : List Envelope}
    (replayed : replay serial items batch = .ok final) :
    ∀ entry ∈ final, entry ∈ items ∨ entry.uniqueId ∈ batch.ids := by
  intro entry member
  have brought : batch.ids = batch.raws.map RawItem.uniqueId := List.map_flatMap.symm
  rw [brought]
  exact (mem_replay replayed member).imp_right uniqueId_mem_of_fresh

/-- What batches build up has identifiers that they bring. -/
theorem collection_ids (batches : List Batch) :
    ∀ entry ∈ collection batches, ∃ batch ∈ batches, entry.uniqueId ∈ batch.ids := by
  induction batches using List.reverseRecOn with
  | nil => exact fun entry member => absurd member List.not_mem_nil
  | append_singleton before batch inductionHypothesis =>
    have kept : ∀ entry ∈ collection before,
        ∃ other ∈ before ++ [batch], entry.uniqueId ∈ other.ids := by
      intro entry member
      obtain ⟨other, inside, brought⟩ := inductionHypothesis entry member
      exact ⟨other, List.mem_append_left _ inside, brought⟩
    intro entry member
    unfold collection at member kept
    rw [List.foldl_append, List.foldl_cons, List.foldl_nil] at member
    unfold afterBatch at member
    split at member
    · rename_i outcome taken
      rcases replay_ids (applyBatch_ok taken).1 entry member with old | new
      · exact kept entry old
      · exact ⟨batch, List.mem_append_right _ (List.mem_singleton_self _), new⟩
    · exact kept entry member

end RoomTimeline
