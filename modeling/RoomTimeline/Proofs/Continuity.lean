import RoomTimeline.Proofs.Depiction
import RoomTimeline.Proofs.Updates

/-!
# From one rendering to the next

What is shown of a timeline goes on from what was shown before: what both renderings show they show
in one order, and an entry under the number of an earlier one is that entry
(`Depiction.continues`). So the updates from one snapshot to the next say everything, although they
never look at the order of entries.

The order is that of numbers in the collection, whose old entries stay in their old order. A
collapsed entry moves with the first of its members, so every entry shown has a place in the
sequence of numbers, its `leader`, and these places ascend along with what is shown.
-/

namespace RoomTimeline

/-! ## Places -/

/-- The number by which an entry has its place in a collection: that of the first member for a
collapsed entry under one of some numbers, and its own otherwise. -/
def leader (folded : List Nat) : Envelope → Nat
  | .virtual header (.collapsed (first :: _)) =>
    if header.serial ∈ folded then first.serial else header.serial
  | entry => entry.serial

/-- An entry that is not among the collapsed ones has its own place. -/
theorem leader_of_not_mem {folded : List Nat} {entry : Envelope} (absent : entry.serial ∉ folded) :
    leader folded entry = entry.serial := by
  unfold leader
  split
  · exact if_neg absent
  · rfl

/-- A collapsed entry has the place of its first member. -/
theorem leader_runEntry {folded : List Nat} {serial : Nat} (first : Envelope)
    (rest : List Envelope) (member : serial ∈ folded) :
    leader folded (runEntry serial first (first :: rest)) = first.serial :=
  if_pos member

/-- The places of what is shown ascend along the blocks. -/
theorem Shows.leaders {blocks : List (List Envelope)} {shown : List Envelope} {runs : Runs}
    {folded : List Nat} (shows : Shows blocks shown runs)
    (known : ∀ run ∈ runs, run.serial ∈ folded)
    (absent : ∀ entry ∈ blocks.flatten, entry.serial ∉ folded) :
    (shown.map (leader folded)).Sublist (blocks.flatten.map Envelope.serial) := by
  induction shows with
  | nil => exact List.Sublist.slnil
  | single entry others inductionHypothesis =>
    have rest := inductionHypothesis known fun other member =>
      absent other (List.mem_cons_of_mem _ member)
    rw [List.map_cons, leader_of_not_mem (absent entry List.mem_cons_self)]
    exact rest.cons_cons entry.serial
  | run serial first second more others inductionHypothesis =>
    have rest := inductionHypothesis (fun run member => known run (List.mem_cons_of_mem _ member))
      fun other member => absent other (List.mem_append_right _ member)
    have inFolded : serial ∈ folded := known _ List.mem_cons_self
    rw [List.map_cons, leader_runEntry first _ inFolded, List.flatten_cons, List.map_append]
    exact (rest.trans
      (List.sublist_append_right ((second :: more).map Envelope.serial) _)).cons_cons first.serial

/-- The places of what a depiction shows ascend along the collection. -/
theorem Depiction.leaders {config : Config} {serial : Nat} {items shown : List Envelope}
    {runs : Runs} {folded : List Nat} (depiction : Depiction config serial items runs shown)
    (known : ∀ run ∈ runs, run.serial ∈ folded) (absent : ∀ entry ∈ items, entry.serial ∉ folded) :
    (shown.map (leader folded)).Sublist (items.map Envelope.serial) := by
  have depicts := depiction.depicts
  unfold Depicts at depicts
  split at depicts
  · have places := depicts.leaders known (by rwa [flatten_blocks])
    rwa [flatten_blocks] at places
  · rw [depicts.1, List.map_congr_left fun entry member => leader_of_not_mem (absent entry member)]

/-- What is shown all told is a part of the body between the two indicators. -/
theorem arrange_sublist (config : Config) (pair : PaginationPair) (body : List Envelope) :
    (arrange config pair body).Sublist (startIndicator :: body ++ [finishIndicator]) := by
  have start : (indicator config pair.backward startIndicator).Sublist [startIndicator] := by
    unfold indicator
    split
    · exact List.Sublist.refl _
    · exact List.nil_sublist _
  have finish : (indicator config pair.forward finishIndicator).Sublist [finishIndicator] := by
    unfold indicator
    split
    · exact List.Sublist.refl _
    · exact List.nil_sublist _
  have fewer : ∀ entries, (dropTrailingReadMarker entries).Sublist entries := by
    intro entries
    unfold dropTrailingReadMarker
    split
    · split
      · exact List.dropLast_sublist _
      · exact List.Sublist.refl _
    · exact List.Sublist.refl _
  have opened := start.append_right body
  unfold arrange
  dsimp only
  refine List.Sublist.append ?_ finish
  split
  · exact (fewer _).trans opened
  · exact opened

/-- Grouping adds positions and leaves the entries as they are. -/
theorem grouped_envelopes (policy : GroupingPolicy) (entries : List Envelope) :
    (grouped policy entries).map Entry.envelope = entries := by
  have positions : entries.length ≤ (classifyAll policy entries).length :=
    Nat.le_of_eq (length_classifyAll policy entries).symm
  unfold grouped
  rw [List.map_zipWith]
  exact (List.map_zip_eq_zipWith (f := Prod.fst)).symm.trans (List.map_fst_zip positions)

/-! ## Continuity -/

namespace Depiction

variable {config : Config} {serial nextSerial : Nat} {items next shown others : List Envelope}
variable {runs nextRuns : Runs}

/-- The indicators, the collection and its collapsed entries are numbered together. -/
theorem allNumbered (depiction : Depiction config serial items runs shown) :
    Numbered serial (startIndicator :: finishIndicator :: (items ++ runs)) := by
  have begun := depiction.begun
  have indicators : Numbered serial [startIndicator, finishIndicator] := by
    refine ⟨by decide, ?_⟩
    intro entry member
    have first : entry.serial = 0 ∨ entry.serial = 1 := by
      rcases List.mem_cons.mp member with rfl | member
      · exact Or.inl rfl
      · rw [List.mem_singleton.mp member]
        exact Or.inr rfl
    unfold firstSerial at begun
    omega
  refine indicators.append depiction.numbered ?_
  intro entry member other otherMember same
  have late := depiction.late other otherMember
  unfold firstSerial at late
  rcases List.mem_cons.mp member with rfl | member
  · have zero : startIndicator.serial = 0 := rfl
    omega
  · rw [List.mem_singleton.mp member] at same
    have one : finishIndicator.serial = 1 := rfl
    omega

/-- All that is shown is an indicator, in the collection, or a collapsed entry. -/
theorem arranged_subset (depiction : Depiction config serial items runs shown)
    (pair : PaginationPair) :
    arrange config pair shown ⊆ startIndicator :: finishIndicator :: (items ++ runs) := by
  intro entry member
  have inside := (arrange_sublist config pair shown).subset member
  rcases List.mem_append.mp inside with inside | last
  · rcases List.mem_cons.mp inside with rfl | inBody
    · exact List.mem_cons_self
    · exact List.mem_cons_of_mem _ (List.mem_cons_of_mem _ (depiction.mem_or_mem_runs inBody))
  · rw [List.mem_singleton.mp last]
    exact List.mem_cons_of_mem _ List.mem_cons_self

/-- The places of a collection, between those of the indicators. -/
def places (items : List Envelope) : List Nat :=
  startIndicator.serial :: items.map Envelope.serial ++ [finishIndicator.serial]

/-- The places of all that is shown ascend along those of the collection and of the indicators. -/
theorem arranged_leaders {folded : List Nat} (depiction : Depiction config serial items runs shown)
    (known : ∀ run ∈ runs, run.serial ∈ folded) (absent : ∀ entry ∈ items, entry.serial ∉ folded)
    (policy : GroupingPolicy) (pair : PaginationPair) :
    ((grouped policy (arrange config pair shown)).map fun entry =>
      leader folded entry.envelope).Sublist (places items) := by
  have body := depiction.leaders known absent
  have all := (arrange_sublist config pair shown).map (leader folded)
  have envelopes : (grouped policy (arrange config pair shown)).map (fun entry =>
      leader folded entry.envelope) = (arrange config pair shown).map (leader folded) := by
    rw [← congrArg (List.map (leader folded)) (grouped_envelopes policy _), List.map_map]
    rfl
  rw [envelopes]
  refine all.trans ?_
  rw [List.map_append, List.map_cons]
  exact (body.cons_cons _).append_right _

/-- No two entries of a collection and of the indicators have the same place. -/
theorem places_nodup (depiction : Depiction config serial items runs shown) :
    (places items).Nodup := by
  have all : Numbered serial (startIndicator :: finishIndicator :: items) :=
    depiction.allNumbered.sublist
      (((List.sublist_append_left items runs).cons_cons _).cons_cons _)
  have moved : (startIndicator :: finishIndicator :: items).Perm
      (startIndicator :: items ++ [finishIndicator]) := by
    rw [List.cons_append]
    exact (List.perm_append_singleton finishIndicator items).symm.cons startIndicator
  have distinct := (all.perm moved).distinct
  rw [List.map_append] at distinct
  exact distinct

/-- Two collections share their places in order if they share their numbers so: the indicators
stand at the ends of both. -/
theorem places_sharedInOrder
    (shared : SharedInOrder (items.map Envelope.serial) (next.map Envelope.serial)) :
    SharedInOrder (places items) (places next) := by
  obtain ⟨numbers, inItems, inNext, complete⟩ := shared
  refine ⟨startIndicator.serial :: numbers ++ [finishIndicator.serial],
    (inItems.cons_cons _).append_right _, (inNext.cons_cons _).append_right _, ?_⟩
  intro number first second
  simp only [places, List.cons_append, List.mem_cons, List.mem_append, List.not_mem_nil,
    or_false] at first second ⊢
  rcases first with start | inFirst | finish
  · exact Or.inl start
  · rcases second with start | inSecond | finish
    · exact Or.inl start
    · exact Or.inr (Or.inl (complete number inFirst inSecond))
    · exact Or.inr (Or.inr finish)
  · exact Or.inr (Or.inr finish)

/-- Of the indicators, the collection and its collapsed entries, whatever has a number from before
the collection has grown was there before. -/
theorem mem_of_old (grows : Grows serial items nextSerial next)
    (source : ∀ run ∈ nextRuns, run ∈ runs ∨ serial ≤ run.serial) {entry : Envelope}
    (member : entry ∈ startIndicator :: finishIndicator :: (next ++ nextRuns))
    (old : entry.serial < serial) :
    entry ∈ startIndicator :: finishIndicator :: (items ++ runs) := by
  simp only [List.mem_cons, List.mem_append] at member ⊢
  rcases member with start | finish | inItems | inRuns
  · exact Or.inl start
  · exact Or.inr (Or.inl finish)
  · exact Or.inr (Or.inr (Or.inl (grows.mem_of_old inItems old)))
  · rcases source entry inRuns with reused | made
    · exact Or.inr (Or.inr (Or.inr reused))
    · omega

/-- No entry of the collection has the number of a collapsed entry, be it of this depiction or of
the next. -/
theorem not_mem_runs (depiction : Depiction config serial items runs shown)
    (source : ∀ run ∈ nextRuns, run ∈ runs ∨ serial ≤ run.serial) :
    ∀ entry ∈ items, entry.serial ∉ (runs ++ nextRuns).map Envelope.serial := by
  intro entry member inside
  obtain ⟨run, inRuns, same⟩ := List.mem_map.mp inside
  have below := depiction.itemsNumbered.below entry member
  rcases List.mem_append.mp inRuns with old | new
  · exact depiction.serial_ne entry member run old same.symm
  · rcases source run new with reused | made
    · exact depiction.serial_ne entry member run reused same.symm
    · omega

/-- No entry that a collection has grown to has the number of a collapsed entry, be it of this
depiction or of the next. -/
theorem grown_not_mem_runs {free : Nat} (depiction : Depiction config serial items runs shown)
    (grows : Grows serial items nextSerial next)
    (nextDepiction : Depiction config free next nextRuns others) :
    ∀ entry ∈ next, entry.serial ∉ (runs ++ nextRuns).map Envelope.serial := by
  intro entry member inside
  obtain ⟨run, inRuns, same⟩ := List.mem_map.mp inside
  rcases List.mem_append.mp inRuns with old | new
  · have below := depiction.numbered.below run (List.mem_append_right _ old)
    exact depiction.serial_ne entry (grows.mem_of_old member (same ▸ below)) run old same.symm
  · exact nextDepiction.serial_ne entry member run new same.symm

/-- What is shown next continues what was shown before, whatever pagination status each is shown
with: what both show they show in one order, and an entry of the next one that has the number of an
earlier one is that entry. -/
theorem continues (policy : GroupingPolicy) (pair nextPair : PaginationPair)
    (depiction : Depiction config serial items runs shown)
    (grows : Grows serial items nextSerial next) :
    Continues (grouped policy (arrange config pair shown))
      (grouped policy (arrange config nextPair (bodyOf config runs nextSerial next).shown)) := by
  obtain ⟨nextDepiction, source⟩ := depiction.bodyOf_of_grows grows
  constructor
  · intro old member new newMember unchanged
    have sameSerial : old.envelope.serial = new.envelope.serial := by
      simpa using ((Bool.and_eq_true _ _).mp unchanged).1
    have sameGroup : old.group = new.group := by
      simpa using ((Bool.and_eq_true _ _).mp unchanged).2
    have inOld := depiction.arranged_subset pair (grouped_envelopes policy
      (arrange config pair shown) ▸ List.mem_map_of_mem member)
    have inNew := nextDepiction.arranged_subset nextPair (grouped_envelopes policy
      (arrange config nextPair _) ▸ List.mem_map_of_mem newMember)
    have oldNumber := depiction.allNumbered.below _ inOld
    rw [sameSerial] at oldNumber
    have known := mem_of_old grows source inNew oldNumber
    have sameEnvelope := depiction.allNumbered.eq_of_serial inOld known sameSerial
    cases old
    cases new
    exact congr (congrArg Entry.mk sameEnvelope) sameGroup
  · have shared := places_sharedInOrder (grows.sharedInOrder depiction.itemsNumbered.below)
    refine SharedInOrder.of_places
      (fun entry => leader ((runs ++ (bodyOf config runs nextSerial next).runs).map Envelope.serial)
        entry.envelope) shared depiction.places_nodup nextDepiction.places_nodup ?_ ?_
    · exact depiction.arranged_leaders (fun run member =>
        List.mem_map_of_mem (List.mem_append_left _ member)) (depiction.not_mem_runs source)
        policy pair
    · refine nextDepiction.arranged_leaders (fun run member =>
        List.mem_map_of_mem (List.mem_append_right _ member)) ?_ policy nextPair
      exact depiction.grown_not_mem_runs grows nextDepiction

end Depiction

end RoomTimeline
