import RoomTimeline.Proofs.Keeping
import RoomTimeline.Proofs.Rendering

/-!
# When a collapsed entry is used again

Lists are folded one after another, and each pass remembers the collapsed entries of the one before.
`Refolding` says what such passes can come to, whatever the lists have in common and whatever
envelopes are made in between. A pass shows a run by an entry of the pass before just if that pass
has shown the very same run, and makes a new entry otherwise (`Refolding.reuses_unchanged_runs`).

The memory is taken apart while a pass goes on: an entry is looked up under the identifier of the
first member, and erased under it whether its members fit or not. No other run of the list begins
with that member, so what is erased at one run is not missed at another
(`CollapsePass.taken_over`). Members are compared by number, and numbers tell apart all that has
been made (`ToldApart`).
-/

namespace RoomTimeline

/-- What is shown for blocks of two members or more, each entry with its block. -/
def foldedRuns (shown : List Envelope) (blocks : List (List Envelope)) :
    List (Envelope × List Envelope) :=
  (shown.zip blocks).filter fun place => 2 ≤ place.2.length

/-- What a pass goes over next: a list in which no identifier repeats, of anything that there has
been before or that has been made since, under numbers from the first free one on. -/
structure Upcoming (known : List Envelope) (free : Nat) (made : List Envelope) (serial : Nat)
    (next : List Envelope) : Prop where
  later : free ≤ serial
  numbered : Numbered serial made
  new : ∀ entry ∈ made, free ≤ entry.serial
  inside : next ⊆ known ++ made
  ids : (next.map Envelope.uniqueId).Nodup

/-- Passes of one collapser, one after another. Given are all envelopes and entries there have been
so far, the list of the last pass and what this pass has come to. -/
inductive Refolding : List Envelope → List Envelope → Collapsed → Prop
  | nothing (serial : Nat) : Refolding [] [] ⟨[], [], serial⟩
  | pass {known items made next : List Envelope} {last : Collapsed} {serial : Nat}
      (before : Refolding known items last)
      (upcoming : Upcoming known last.serial made serial next) :
      Refolding (known ++ made ++ (collapse last.runs serial next).shown) next
        (collapse last.runs serial next)

/-- Numbers tell apart what has been made, and the next one is free. What has been made may be
listed more than once. -/
structure ToldApart (known : List Envelope) (serial : Nat) : Prop where
  apart : ∀ entry ∈ known, ∀ other ∈ known, entry.serial = other.serial → entry = other
  below : ∀ entry ∈ known, entry.serial < serial

/-- What is told apart by numbers still is when more has been made under new numbers. -/
theorem ToldApart.append {known made : List Envelope} {serial next : Nat}
    (told : ToldApart known serial) (later : serial ≤ next) (numbered : Numbered next made)
    (new : ∀ entry ∈ made, serial ≤ entry.serial) : ToldApart (known ++ made) next := by
  constructor
  · intro entry member other otherMember same
    rcases List.mem_append.mp member with old | fresh <;>
      rcases List.mem_append.mp otherMember with otherOld | otherFresh
    · exact told.apart entry old other otherOld same
    · have less := told.below entry old
      have more := new other otherFresh
      omega
    · have less := told.below other otherOld
      have more := new entry fresh
      omega
    · exact numbered.eq_of_serial fresh otherFresh same
  · intro entry member
    rcases List.mem_append.mp member with old | fresh
    · exact Nat.lt_of_lt_of_le (told.below entry old) later
    · exact numbered.below entry fresh

/-- Of what is told apart by numbers any part is. -/
theorem ToldApart.mono {known others : List Envelope} {serial : Nat}
    (told : ToldApart known serial) (among : others ⊆ known) : ToldApart others serial :=
  ⟨fun entry member other otherMember =>
      told.apart entry (among member) other (among otherMember),
    fun entry member => told.below entry (among member)⟩

/-! ## What a pass shows for its runs -/

namespace Shows

variable {blocks : List (List Envelope)} {shown : List Envelope} {runs : Runs}

/-- A pass shows one entry for each block. -/
theorem length_eq (shows : Shows blocks shown runs) : shown.length = blocks.length := by
  induction shows with
  | nil => rfl
  | single entry others inductionHypothesis => exact congrArg Nat.succ inductionHypothesis
  | run serial first second more others inductionHypothesis =>
    exact congrArg Nat.succ inductionHypothesis

/-- The collapsed entries in use are those shown for blocks of two members or more. -/
theorem map_foldedRuns (shows : Shows blocks shown runs) :
    (foldedRuns shown blocks).map Prod.fst = runs := by
  unfold foldedRuns
  induction shows with
  | nil => rfl
  | single entry others inductionHypothesis => simpa using inductionHypothesis
  | run serial first second more others inductionHypothesis => simpa using inductionHypothesis

/-- What is shown for a block of two members or more is the collapsed entry of this block. -/
theorem runEntry_of_mem (shows : Shows blocks shown runs) {entry : Envelope}
    {run : List Envelope} (member : (entry, run) ∈ foldedRuns shown blocks) :
    ∃ first second more, run = first :: second :: more ∧
      entry = runEntry entry.serial first run ∧ run ∈ blocks := by
  unfold foldedRuns at member
  induction shows with
  | nil => cases member
  | single single others inductionHypothesis =>
    have behind := inductionHypothesis (by simpa using member)
    obtain ⟨first, second, more, found, formed, inside⟩ := behind
    exact ⟨first, second, more, found, formed, List.mem_cons_of_mem _ inside⟩
  | run serial head next tail others inductionHypothesis =>
    rw [List.zip_cons_cons, List.filter_cons_of_pos (by simp)] at member
    rcases List.mem_cons.mp member with same | behind
    · cases same
      exact ⟨head, next, tail, rfl, rfl, List.mem_cons_self⟩
    · obtain ⟨first, second, more, found, formed, inside⟩ := inductionHypothesis behind
      exact ⟨first, second, more, found, formed, List.mem_cons_of_mem _ inside⟩

/-- What is shown for a block of two members or more is one of the collapsed entries in use. -/
theorem mem_of_foldedRuns (shows : Shows blocks shown runs) {entry : Envelope}
    {run : List Envelope} (member : (entry, run) ∈ foldedRuns shown blocks) : entry ∈ runs := by
  rw [← shows.map_foldedRuns]
  exact List.mem_map_of_mem member

/-- Each collapsed entry in use is among what is shown. -/
theorem runs_subset (shows : Shows blocks shown runs) : runs ⊆ shown := by
  rw [← shows.map_foldedRuns]
  intro run member
  obtain ⟨place, found, rfl⟩ := List.mem_map.mp member
  exact (List.of_mem_zip (List.mem_filter.mp found).1).1

end Shows

/-! ## Taking over -/

namespace CollapsePass

/-- Behind a run whose entry it has taken over, a pass is ready for the rest. -/
theorem Ready.keeping {pass : CollapsePass} {first : Envelope} {members : List Envelope}
    {rest : List (List Envelope)} (ready : pass.Ready (members :: rest)) (serial : Nat)
    (starts : members.head? = some first) :
    (pass.keeping [runEntry serial first members]).Ready rest := by
  have same : pass.keeping [runEntry serial first members] =
      pass.behind serial pass.serial first members := by
    simp [CollapsePass.keeping, behind, Runs.erase]
  exact same ▸ ready.run starts serial (Nat.le_refl pass.serial)

/-- A pass shows a run by the entry of the pass before, if that pass has had one for this very run.
The entry is still there when the run is met: only runs that begin with other members have been
met, and their entries have other identifiers. -/
theorem taken_over {pass : CollapsePass} {blocks : List (List Envelope)}
    (ready : pass.Ready blocks) (distinct : (pass.previous.map Envelope.uniqueId).Nodup)
    {serial : Nat} {first second : Envelope} {more : List Envelope}
    (block : first :: second :: more ∈ blocks)
    (known : runEntry serial first (first :: second :: more) ∈ pass.previous) :
    runEntry serial first (first :: second :: more) ∈ (pass.blocks blocks).2.runs := by
  induction blocks generalizing pass with
  | nil => cases block
  | cons head rest inductionHypothesis =>
    match head, block, ready with
    | [], _, ready => exact absurd rfl (ready.full [] List.mem_cons_self)
    | [entry], block, ready =>
      have behind : first :: second :: more ∈ rest := by simpa using block
      exact inductionHypothesis ready.single distinct behind known
    | start :: next :: others, block, ready =>
      have inside : start :: next :: others ⊆ ((start :: next :: others) :: rest).flatten :=
        List.subset_append_left _ _
      have unseen : ∀ run ∈ pass.runs, run.uniqueId ≠ Runs.idFor start := fun run member =>
        ready.unseen run member start (inside List.mem_cons_self)
      rcases List.mem_cons.mp block with same | behind
      · cases same
        have keeps : pass.Keeps [runEntry serial first (first :: second :: more)] :=
          ⟨by simpa using known, distinct, by simp, fun run member entered before => by
            rw [List.mem_singleton.mp member]
            exact unseen entered before⟩
        obtain ⟨further, passed⟩ := blocks_passed (ready.keeping serial rfl)
        simp only [CollapsePass.blocks, CollapsePass.block, entryFor_kept keeps]
        rw [passed.entered]
        exact List.mem_append_left _ (List.mem_append_right _ List.mem_cons_self)
      · obtain ⟨number, free, found, above, -, -⟩ :=
          pass.entryFor_eq (ready.recalls.mono (List.Subset.refl _) inside) rfl ready.numbered.below
        have entered : pass.runs.insert (runEntry number start (start :: next :: others)) =
            pass.runs ++ [runEntry number start (start :: next :: others)] :=
          Runs.insert_of_new unseen
        rw [entered] at found
        have apart : Runs.idFor first ≠ Runs.idFor start := by
          intro same
          have ids := ready.ids
          rw [List.flatten_cons, List.map_append] at ids
          have firstInside : first ∈ rest.flatten :=
            (List.sublist_flatten_of_mem behind).subset List.mem_cons_self
          exact List.disjoint_of_nodup_append ids (List.mem_map_of_mem List.mem_cons_self)
            (Runs.idFor_injective same ▸ List.mem_map_of_mem firstInside)
        have stays : runEntry serial first (first :: second :: more) ∈
            pass.previous.erase (Runs.idFor start) :=
          List.mem_filter.mpr ⟨known, decide_eq_true apart⟩
        have further := inductionHypothesis (ready.run rfl number above)
          (distinct.sublist ((erase_sublist _ _).map _)) behind stays
        simp only [CollapsePass.blocks, CollapsePass.block, found]
        exact further

end CollapsePass

/-! ## One pass after another -/

namespace Refolding

variable {known items made next : List Envelope} {last : Collapsed} {serial : Nat}

/-- What passes leave for the next one: all there is can be told apart, and what the last pass has
gone over and shown is part of it. -/
structure Consistent (known items : List Envelope) (last : Collapsed) : Prop where
  told : ToldApart known last.serial
  shows : Shows (blocks items) last.shown last.runs
  ids : (items.map Envelope.uniqueId).Nodup
  numbered : Numbered last.serial last.runs
  inside : items ⊆ known
  shown : last.shown ⊆ known

namespace Consistent

/-- All that there has been and all that has been made since can be told apart by numbers. -/
theorem toldApart_append_made (consistent : Consistent known items last)
    (upcoming : Upcoming known last.serial made serial next) :
    ToldApart (known ++ made) serial :=
  consistent.told.append upcoming.later upcoming.numbered upcoming.new

/-- The collapsed entries that a pass has left know the members of the next list by their numbers.
-/
theorem recalls (consistent : Consistent known items last)
    (upcoming : Upcoming known last.serial made serial next) : Recalls last.runs next := by
  constructor
  intro run member
  obtain ⟨first, second, more, formed, part⟩ := consistent.shows.exists_runEntry run member
  rw [flatten_blocks] at part
  exact ⟨first, second, more, formed, fun held inRun entry inNext same =>
    (consistent.toldApart_append_made upcoming).apart held
      (List.mem_append_left _ (consistent.inside (part inRun))) entry (upcoming.inside inNext) same⟩

/-- The next pass shows its blocks, by entries that are in use or new. -/
theorem shows_next (consistent : Consistent known items last)
    (upcoming : Upcoming known last.serial made serial next) :
    Shows (blocks next) (collapse last.runs serial next).shown
        (collapse last.runs serial next).runs ∧
      serial ≤ (collapse last.runs serial next).serial ∧
      Numbered (collapse last.runs serial next).serial (collapse last.runs serial next).runs ∧
      ∀ run ∈ (collapse last.runs serial next).runs, run ∈ last.runs ∨ serial ≤ run.serial :=
  collapse_shows upcoming.ids (consistent.recalls upcoming)
    (consistent.numbered.mono upcoming.later)

/-- The next pass leaves for the one behind it what it has been left itself. -/
theorem after_pass (consistent : Consistent known items last)
    (upcoming : Upcoming known last.serial made serial next) :
    Consistent (known ++ made ++ (collapse last.runs serial next).shown) next
      (collapse last.runs serial next) := by
  have told := consistent.toldApart_append_made upcoming
  obtain ⟨shows, later, numbered, source⟩ := consistent.shows_next upcoming
  have newNumbered := numbered.sublist (List.filter_sublist (p := fun run => serial ≤ run.serial))
  -- What is shown has been there before or is a new entry.
  have among : known ++ made ++ (collapse last.runs serial next).shown ⊆ known ++ made ++
      (collapse last.runs serial next).runs.filter fun run => serial ≤ run.serial := by
    intro entry member
    rcases List.mem_append.mp member with old | inShown
    · exact List.mem_append_left _ old
    · rcases shows.mem_or_mem_runs entry inShown with inItems | inRuns
      · rw [flatten_blocks] at inItems
        exact List.mem_append_left _ (upcoming.inside inItems)
      · rcases source entry inRuns with taken | fresh
        · exact List.mem_append_left _
            (List.mem_append_left _ (consistent.shown (consistent.shows.runs_subset taken)))
        · exact List.mem_append_right _
            (List.mem_filter.mpr ⟨inRuns, decide_eq_true fresh⟩)
  refine ⟨(told.append later newNumbered ?_).mono among, shows, upcoming.ids, numbered,
    List.Subset.trans upcoming.inside (List.subset_append_left _ _), List.subset_append_right _ _⟩
  intro entry member
  exact of_decide_eq_true (List.mem_filter.mp member).2

/-- A run of the last list and a run of the next one that hold the same numbers are the same run,
and the next pass shows it by the entry of the last. -/
theorem entry_eq (consistent : Consistent known items last)
    (upcoming : Upcoming known last.serial made serial next) {entry old : Envelope}
    {run held : List Envelope}
    (shown : (entry, run) ∈ foldedRuns (collapse last.runs serial next).shown (blocks next))
    (before : (old, held) ∈ foldedRuns last.shown (blocks items))
    (same : held.map Envelope.serial = run.map Envelope.serial) : entry = old := by
  have told := consistent.toldApart_append_made upcoming
  obtain ⟨shows, -, -, -⟩ := consistent.shows_next upcoming
  obtain ⟨first, second, more, rfl, formed, inBlocks⟩ := shows.runEntry_of_mem shown
  obtain ⟨head, _, _, isHeld, oldFormed, heldBlock⟩ := consistent.shows.runEntry_of_mem before
  have heldInside : held ⊆ items := by
    have part := (List.sublist_flatten_of_mem heldBlock).subset
    rwa [flatten_blocks] at part
  have runInside : first :: second :: more ⊆ next := by
    have part := (List.sublist_flatten_of_mem inBlocks).subset
    rwa [flatten_blocks] at part
  have sameRun : held = first :: second :: more := by
    refine eq_of_map_eq same ?_
    intro member inHeld other inRun equal
    exact told.apart member (List.mem_append_left _ (consistent.inside (heldInside inHeld))) other
      (upcoming.inside (runInside inRun)) equal
  have sameFirst : head = first := List.head_eq_of_cons_eq (isHeld.symm.trans sameRun)
  have inUse := consistent.shows.mem_of_foldedRuns before
  rw [sameFirst, sameRun] at oldFormed
  rw [oldFormed] at inUse
  have ready : CollapsePass.Ready ⟨last.runs, [], serial⟩ (blocks next) :=
    ⟨ne_nil_of_mem_blocks next, by rw [flatten_blocks]; exact upcoming.ids,
      by rw [flatten_blocks]; exact consistent.recalls upcoming,
      consistent.numbered.mono upcoming.later, by simp⟩
  have distinct : (last.runs.map Envelope.uniqueId).Nodup :=
    consistent.shows.runs_ids (by rw [flatten_blocks]; exact consistent.ids)
  have taken : old ∈ (collapse last.runs serial next).runs := by
    rw [collapse_eq, oldFormed]
    exact CollapsePass.taken_over ready distinct inBlocks inUse
  -- No two collapsed entries of a pass have one identifier.
  have nextDistinct : ((collapse last.runs serial next).runs.map Envelope.uniqueId).Nodup :=
    shows.runs_ids (by rw [flatten_blocks]; exact upcoming.ids)
  refine List.inj_on_of_nodup_map nextDistinct (shows.mem_of_foldedRuns shown) taken ?_
  rw [formed, oldFormed, uniqueId_runEntry, uniqueId_runEntry]

end Consistent

/-- After any number of passes all there is can be told apart, and what the last pass has gone over
and shown is part of it. -/
theorem consistent (refolding : Refolding known items last) : Consistent known items last := by
  induction refolding with
  | nothing serial =>
    exact ⟨⟨by simp, by simp⟩, Shows.nil, List.nodup_nil, ⟨List.nodup_nil, by simp⟩,
      List.Subset.refl _, List.Subset.refl _⟩
  | pass before upcoming inductionHypothesis => exact inductionHypothesis.after_pass upcoming

/-- After any number of passes over lists in which no identifier repeats, the next pass uses a
collapsed entry again just if its run has not changed.
- It shows one entry for each block, and the entry for a run of two members or more holds this run.
- The entry is one that the last pass has shown just if that pass has shown an entry for a run of
  the same members, number by number, and it is then this very entry.
- Otherwise it is new: its number is none that there has been before, in any of the passes.
- Remembered are the entries that a pass has shown for its runs and no others. -/
theorem reuses_unchanged_runs (refolding : Refolding known items last)
    (upcoming : Upcoming known last.serial made serial next) :
    (collapse last.runs serial next).shown.length = (blocks next).length ∧
    last.runs = (foldedRuns last.shown (blocks items)).map Prod.fst ∧
    (collapse last.runs serial next).runs =
      (foldedRuns (collapse last.runs serial next).shown (blocks next)).map Prod.fst ∧
    ∀ entry run,
      (entry, run) ∈ foldedRuns (collapse last.runs serial next).shown (blocks next) →
      entry.virtual? = some (.collapsed run) ∧
      ((∃ old ∈ last.shown, old.serial = entry.serial) ↔
        ∃ old held, (old, held) ∈ foldedRuns last.shown (blocks items) ∧
          held.map Envelope.serial = run.map Envelope.serial) ∧
      (∀ old held, (old, held) ∈ foldedRuns last.shown (blocks items) →
        held.map Envelope.serial = run.map Envelope.serial → entry = old) ∧
      ((¬ ∃ old held, (old, held) ∈ foldedRuns last.shown (blocks items) ∧
          held.map Envelope.serial = run.map Envelope.serial) →
        serial ≤ entry.serial ∧ entry.serial < (collapse last.runs serial next).serial ∧
          ∀ other ∈ known ++ made, other.serial ≠ entry.serial) := by
  have consistent := refolding.consistent
  have told := consistent.toldApart_append_made upcoming
  obtain ⟨shows, -, numbered, source⟩ := consistent.shows_next upcoming
  refine ⟨shows.length_eq, consistent.shows.map_foldedRuns.symm, shows.map_foldedRuns.symm, ?_⟩
  intro entry run shown
  obtain ⟨first, second, more, -, formed, -⟩ := shows.runEntry_of_mem shown
  have inRuns := shows.mem_of_foldedRuns shown
  have holds : entry.virtual? = some (.collapsed run) := by
    rw [formed]
    rfl
  -- An entry in use that the pass takes over has been shown for the same run.
  have unchanged : entry ∈ last.runs → ∃ old held,
      (old, held) ∈ foldedRuns last.shown (blocks items) ∧
        held.map Envelope.serial = run.map Envelope.serial := by
    intro inUse
    rw [← consistent.shows.map_foldedRuns] at inUse
    obtain ⟨⟨old, held⟩, before, rfl⟩ := List.mem_map.mp inUse
    obtain ⟨head, _, _, -, oldFormed, -⟩ := consistent.shows.runEntry_of_mem before
    have oldHolds : (old, held).1.virtual? = some (.collapsed held) := by
      dsimp only
      rw [oldFormed]
      rfl
    rw [holds] at oldHolds
    cases oldHolds
    exact ⟨old, run, before, rfl⟩
  refine ⟨holds, ⟨?_, ?_⟩, ?_, ?_⟩
  · rintro ⟨old, inShown, same⟩
    refine unchanged ((source entry inRuns).resolve_right ?_)
    intro new
    have less := told.below old (List.mem_append_left _ (consistent.shown inShown))
    omega
  · rintro ⟨old, held, before, same⟩
    have equal := consistent.entry_eq upcoming shown before same
    exact ⟨old, consistent.shows.runs_subset (consistent.shows.mem_of_foldedRuns before),
      by rw [equal]⟩
  · intro old held before same
    exact consistent.entry_eq upcoming shown before same
  · intro changed
    have new := (source entry inRuns).resolve_left fun inUse => changed (unchanged inUse)
    refine ⟨new, numbered.below entry inRuns, ?_⟩
    intro other member same
    have less := told.below other member
    omega

/-- Two pairs of people have joined, before a read marker and behind it. In the next list someone
new stands in the place of the last one: the first pair is shown by the entry it has had, and the
second by a new one. -/
theorem reuses_unchanged_runs_of_changed_pair :
    ∃ known items last made serial next,
      Refolding known items last ∧ Upcoming known last.serial made serial next ∧
      last.shown.map Envelope.serial = [7, 4, 8] ∧
      (collapse last.runs serial next).shown.map Envelope.serial = [7, 4, 10] ∧
      (∃ entry, (entry, [newcomer 2 "a", newcomer 3 "b"]) ∈
          foldedRuns (collapse last.runs serial next).shown (blocks next) ∧
        ∃ old ∈ last.shown, old.serial = entry.serial) ∧
      ∃ entry, (entry, [newcomer 5 "c", newcomer 9 "e"]) ∈
          foldedRuns (collapse last.runs serial next).shown (blocks next) ∧
        ∀ other ∈ known ++ made, other.serial ≠ entry.serial := by
  let marker : Envelope := .synthesized 4 ⟨"read"⟩ .readMarker
  let first := [newcomer 2 "a", newcomer 3 "b", marker, newcomer 5 "c", newcomer 6 "d"]
  let second := [newcomer 2 "a", newcomer 3 "b", marker, newcomer 5 "c", newcomer 9 "e"]
  let last := collapse [] 7 first
  have begun : Upcoming [] 2 first 7 first :=
    ⟨by decide, ⟨by decide, by decide⟩, by decide, List.Subset.refl first, by decide⟩
  have refolding : Refolding ([] ++ first ++ last.shown) first last :=
    (Refolding.nothing 2).pass begun
  have inside : second ⊆ [] ++ first ++ last.shown ++ [newcomer 9 "e"] := by
    simp [first, second]
  have upcoming : Upcoming ([] ++ first ++ last.shown) last.serial [newcomer 9 "e"] 10 second :=
    ⟨by decide, ⟨by decide, by decide⟩, by decide, inside, by decide⟩
  have shown : foldedRuns (collapse last.runs 10 second).shown (blocks second) =
      [(runEntry 7 (newcomer 2 "a") [newcomer 2 "a", newcomer 3 "b"],
        [newcomer 2 "a", newcomer 3 "b"]),
      (runEntry 10 (newcomer 5 "c") [newcomer 5 "c", newcomer 9 "e"],
        [newcomer 5 "c", newcomer 9 "e"])] := rfl
  have before : foldedRuns last.shown (blocks first) =
      [(runEntry 7 (newcomer 2 "a") [newcomer 2 "a", newcomer 3 "b"],
        [newcomer 2 "a", newcomer 3 "b"]),
      (runEntry 8 (newcomer 5 "c") [newcomer 5 "c", newcomer 6 "d"],
        [newcomer 5 "c", newcomer 6 "d"])] := rfl
  obtain ⟨-, -, -, entries⟩ := reuses_unchanged_runs refolding upcoming
  obtain ⟨-, reused, -, -⟩ := entries _ _ (shown ▸ List.mem_cons_self)
  obtain ⟨-, -, -, new⟩ := entries _ _ (shown ▸ List.mem_cons_of_mem _ List.mem_cons_self)
  have changed : ¬ ∃ old held, (old, held) ∈ foldedRuns last.shown (blocks first) ∧
      held.map Envelope.serial = [newcomer 5 "c", newcomer 9 "e"].map Envelope.serial := by
    rw [before]
    rintro ⟨old, held, member, same⟩
    rcases List.mem_cons.mp member with found | behind
    · cases found
      exact absurd same (by decide)
    · cases List.mem_singleton.mp behind
      exact absurd same (by decide)
  exact ⟨_, first, last, [newcomer 9 "e"], 10, second, refolding, upcoming, by decide, by decide,
    ⟨_, shown ▸ List.mem_cons_self, reused.mpr ⟨_, _, before ▸ List.mem_cons_self, rfl⟩⟩,
    _, shown ▸ List.mem_cons_of_mem _ List.mem_cons_self, (new changed).2.2⟩

end Refolding

end RoomTimeline
