import RoomTimeline.Proofs.Folding
import RoomTimeline.Render

/-!
# Depictions of a collection

A collection is depicted by what is shown of it, as it is or folded, together with the collapsed
entries in use. From one rendering to the next the collection grows by a batch or stays the same
(`Grows`), and showing what it has grown to gives a depiction again (`Depiction.bodyOf_of_grows`).

What makes this go on for good is the numbering. Over the collection and the collapsed entries
together no number repeats, so a number from before the growth can only be that of something old.
This is also what lets a folding pass rely on the numbers that its collapsed entries remember.
-/

namespace RoomTimeline

/-- What is shown of a collection before rendering adds to it, and the collapsed entries in use. -/
def Depicts (config : Config) (items : List Envelope) (runs : Runs) (shown : List Envelope) :
    Prop :=
  if config.collapseStateEvents then Shows (blocks items) shown runs else shown = items ∧ runs = []

/-- Folding a collection without anything to take over depicts it, from whatever number on. -/
theorem depicts_anew (config : Config) (serial : Nat) {items : List Envelope}
    (ids : (items.map Envelope.uniqueId).Nodup) :
    Depicts config items (bodyOf config [] serial items).runs
      (bodyOf config [] serial items).shown := by
  have nothing : Numbered serial [] := ⟨List.nodup_nil, by simp⟩
  unfold Depicts bodyOf
  split
  · exact (collapse_shows ids ⟨by simp⟩ nothing).1
  · exact ⟨rfl, rfl⟩

/-- A depiction of the empty collection shows nothing. -/
theorem Depicts.eq_nil {config : Config} {runs : Runs} {shown : List Envelope}
    (depicts : Depicts config [] runs shown) : shown = [] := by
  unfold Depicts at depicts
  split at depicts
  · cases depicts
    rfl
  · exact depicts.1

/-- A collection in which no identifier repeats, as it is shown. All numbers, those of the
collapsed entries too, differ and lie between the first free one and the next. -/
structure Depiction (config : Config) (serial : Nat) (items : List Envelope) (runs : Runs)
    (shown : List Envelope) : Prop where
  depicts : Depicts config items runs shown
  begun : firstSerial ≤ serial
  numbered : Numbered serial (items ++ runs)
  late : ∀ entry ∈ items ++ runs, firstSerial ≤ entry.serial
  ids : (items.map Envelope.uniqueId).Nodup

/-- A collection has grown out of one that was numbered below `serial`: what has a lower number
stood there, in the same order. -/
structure Grows (serial : Nat) (items : List Envelope) (nextSerial : Nat)
    (next : List Envelope) : Prop where
  later : serial ≤ nextSerial
  numbered : Numbered nextSerial next
  survivors : (next.filter fun entry => entry.serial < serial).Sublist items
  ids : (next.map Envelope.uniqueId).Nodup

namespace Grows

variable {serial nextSerial : Nat} {items next : List Envelope}

/-- A collection grows by a batch that is taken. -/
theorem of_applyBatch (numbered : Numbered serial items) {batch : Batch} {outcome : Outcome}
    (taken : applyBatch serial items batch = .ok outcome) :
    Grows serial items outcome.serial outcome.items := by
  obtain ⟨replayed, ids, counted, -, -⟩ := applyBatch_ok taken
  refine ⟨?_, ?_, ?_, ids⟩
  · rw [counted]
    exact Nat.le_add_right _ _
  · rw [counted]
    exact numbered_replay numbered replayed
  · exact (survivors_replay (Nat.le_refl serial) replayed).trans List.filter_sublist

/-- An entry of the grown collection with a number from before it has grown was in the collection
before. -/
theorem mem_of_old (grows : Grows serial items nextSerial next) {entry : Envelope}
    (member : entry ∈ next) (old : entry.serial < serial) : entry ∈ items :=
  grows.survivors.subset (List.mem_filter.mpr ⟨member, by simpa using old⟩)

/-- The numbers that both collections hold stand in one order. -/
theorem sharedInOrder (grows : Grows serial items nextSerial next)
    (below : ∀ entry ∈ items, entry.serial < serial) :
    SharedInOrder (items.map Envelope.serial) (next.map Envelope.serial) := by
  refine ⟨(next.filter fun entry => entry.serial < serial).map Envelope.serial,
    grows.survivors.map _, List.filter_sublist.map _, ?_⟩
  intro number inItems inNext
  obtain ⟨entry, member, rfl⟩ := List.mem_map.mp inItems
  obtain ⟨other, otherMember, same⟩ := List.mem_map.mp inNext
  have old : other.serial < serial := same ▸ below entry member
  exact same ▸ List.mem_map_of_mem (List.mem_filter.mpr ⟨otherMember, by simpa using old⟩)

end Grows

namespace Depiction

variable {config : Config} {serial : Nat} {items shown : List Envelope} {runs : Runs}

/-- The empty collection is depicted by showing nothing, with no collapsed entry in use. -/
theorem empty (config : Config) : Depiction config firstSerial [] [] [] := by
  refine ⟨?_, Nat.le_refl _, ⟨List.nodup_nil, by simp⟩, by simp, List.nodup_nil⟩
  unfold Depicts
  split
  · exact Shows.nil
  · exact ⟨rfl, rfl⟩

/-- The entries of a depicted collection are numbered below the next free number. -/
theorem itemsNumbered (depiction : Depiction config serial items runs shown) :
    Numbered serial items :=
  depiction.numbered.sublist (List.sublist_append_left items runs)

/-- A collection that stays the same has grown to itself. -/
theorem grows_refl (depiction : Depiction config serial items runs shown) :
    Grows serial items serial items :=
  ⟨Nat.le_refl _, depiction.itemsNumbered, List.filter_sublist, depiction.ids⟩

/-- No collapsed entry of a depiction has the number of an entry of the collection. -/
theorem serial_ne (depiction : Depiction config serial items runs shown) :
    ∀ entry ∈ items, ∀ run ∈ runs, entry.serial ≠ run.serial := by
  intro entry member run runMember same
  have distinct := depiction.numbered.distinct
  rw [List.map_append] at distinct
  exact List.disjoint_of_nodup_append distinct (List.mem_map_of_mem member)
    (same ▸ List.mem_map_of_mem runMember)

/-- What is shown is in the collection or a collapsed entry. -/
theorem mem_or_mem_runs (depiction : Depiction config serial items runs shown) :
    shown ⊆ items ++ runs := by
  intro entry member
  have depicts := depiction.depicts
  unfold Depicts at depicts
  split at depicts
  · have source := depicts.mem_or_mem_runs entry member
    rw [flatten_blocks] at source
    exact List.mem_append.mpr source
  · rw [depicts.1] at member
    exact List.mem_append_left _ member

/-- A collapsed entry in use is the entry of a run of the collection. -/
theorem exists_runEntry (depiction : Depiction config serial items runs shown) :
    ∀ run ∈ runs, ∃ first second more,
      run = runEntry run.serial first (first :: second :: more) ∧
        first :: second :: more ⊆ items := by
  have depicts := depiction.depicts
  unfold Depicts at depicts
  split at depicts
  · have formed := depicts.exists_runEntry
    rwa [flatten_blocks] at formed
  · rw [depicts.2]
    exact fun run member => absurd member List.not_mem_nil

/-- The collapsed entries in use know the entries that the collection has grown to: a member that is
still there is there under its old number. -/
theorem recalls {nextSerial : Nat} {next : List Envelope}
    (depiction : Depiction config serial items runs shown)
    (grows : Grows serial items nextSerial next) : Recalls runs next := by
  constructor
  intro run member
  obtain ⟨first, second, more, formed, inside⟩ := depiction.exists_runEntry run member
  refine ⟨first, second, more, formed, ?_⟩
  intro held inRun entry inNext same
  have old : entry.serial < serial := same ▸ depiction.itemsNumbered.below held (inside inRun)
  exact depiction.itemsNumbered.eq_of_serial (inside inRun) (grows.mem_of_old inNext old) same

/-- Showing what a depicted collection has grown to is a depiction again. The collapsed entries in
use are those of before, or numbered since. -/
theorem bodyOf_of_grows {nextSerial : Nat} {next : List Envelope}
    (depiction : Depiction config serial items runs shown)
    (grows : Grows serial items nextSerial next) :
    Depiction config (bodyOf config runs nextSerial next).serial next
        (bodyOf config runs nextSerial next).runs (bodyOf config runs nextSerial next).shown ∧
      ∀ run ∈ (bodyOf config runs nextSerial next).runs, run ∈ runs ∨ serial ≤ run.serial := by
  have begun := Nat.le_trans depiction.begun grows.later
  have itemsLate : ∀ entry ∈ next, firstSerial ≤ entry.serial := by
    intro entry member
    by_cases old : entry.serial < serial
    · exact depiction.late entry (List.mem_append_left _ (grows.mem_of_old member old))
    · exact Nat.le_trans depiction.begun (Nat.le_of_not_lt old)
  by_cases folds : config.collapseStateEvents = true
  · have folded : bodyOf config runs nextSerial next = collapse runs nextSerial next := by
      simp [bodyOf, folds]
    have runsNumbered : Numbered nextSerial runs :=
      (depiction.numbered.sublist (List.sublist_append_right items runs)).mono grows.later
    obtain ⟨shows, later, numbered, source⟩ :=
      collapse_shows grows.ids (depiction.recalls grows) runsNumbered
    rw [folded]
    refine ⟨⟨?_, Nat.le_trans begun later, ?_, ?_, grows.ids⟩, ?_⟩
    · simpa [Depicts, folds] using shows
    · refine (grows.numbered.mono later).append numbered ?_
      intro entry member run runMember same
      rcases source run runMember with old | new
      · have oldNumber : entry.serial < serial := by
          rw [same]
          exact depiction.numbered.below run (List.mem_append_right _ old)
        exact depiction.serial_ne entry (grows.mem_of_old member oldNumber) run old same
      · have below := grows.numbered.below entry member
        omega
    · intro entry member
      rcases List.mem_append.mp member with member | member
      · exact itemsLate entry member
      · rcases source entry member with old | new
        · exact depiction.late entry (List.mem_append_right _ old)
        · exact Nat.le_trans begun new
    · intro run member
      exact (source run member).imp id (Nat.le_trans grows.later)
  · have plain : bodyOf config runs nextSerial next = ⟨next, runs, nextSerial⟩ := by
      simp [bodyOf, folds]
    have noRuns : runs = [] := by
      have depicts := depiction.depicts
      simp only [Depicts, folds] at depicts
      exact depicts.2
    rw [plain, noRuns]
    refine ⟨⟨by simp [Depicts, folds], begun, by simpa using grows.numbered,
      by simpa using itemsLate, grows.ids⟩, by simp⟩

end Depiction

end RoomTimeline
