import RoomTimeline.Proofs.Batch.Survivors
import RoomTimeline.Proofs.Blocks
import RoomTimeline.Proofs.CommonOrder

/-!
# What a folding pass shows

A pass goes over the blocks of a collection and shows each as one entry. `Shows` says what that
may look like: a single entry is shown as it is and a run as a collapsed entry that holds it, under
some number. Which numbers these are is up to the passes before. A collapsed entry is taken over
from the pass before if it holds the same makings, and made anew otherwise
(`CollapsePass.blocks_shows`).

A pass looks up collapsed entries by an identifier made from that of the first member, and compares
members by number. That the entry found is the right one rests on two things: identifiers do not
repeat in the collection, and an entry of the pass before which holds a number that is still in the
collection holds the very entry with that number (`Recalls`).
-/

namespace RoomTimeline

/-- The collapsed entry for a run, under some number. -/
def runEntry (serial : Nat) (first : Envelope) (members : List Envelope) : Envelope :=
  .synthesized serial (Runs.idFor first) (.collapsed members)

/-- The entries shown for blocks, and the collapsed ones among them. -/
inductive Shows : List (List Envelope) → List Envelope → Runs → Prop
  | nil : Shows [] [] []
  | single {rest : List (List Envelope)} {shown : List Envelope} {runs : Runs} (entry : Envelope)
      (others : Shows rest shown runs) : Shows ([entry] :: rest) (entry :: shown) runs
  | run {rest : List (List Envelope)} {shown : List Envelope} {runs : Runs} (serial : Nat)
      (first second : Envelope) (more : List Envelope) (others : Shows rest shown runs) :
      Shows ((first :: second :: more) :: rest)
        (runEntry serial first (first :: second :: more) :: shown)
        (runEntry serial first (first :: second :: more) :: runs)

/-- The entries of a pass before know the entries of a list by their numbers: each of them is the
entry of a run, and a member with the number of an entry is that entry. -/
structure Recalls (previous : Runs) (entries : List Envelope) : Prop where
  formed : ∀ run ∈ previous, ∃ first second more,
    run = runEntry run.serial first (first :: second :: more) ∧
      ∀ member ∈ first :: second :: more, ∀ entry ∈ entries,
        member.serial = entry.serial → member = entry

namespace Recalls

variable {previous : Runs} {entries : List Envelope}

/-- If the entries of the pass before know the entries of a list, part of the former know part of
the latter. -/
theorem mono {fewer : Runs} {part : List Envelope} (recalls : Recalls previous entries)
    (fewerSubset : fewer ⊆ previous) (partSubset : part ⊆ entries) : Recalls fewer part := by
  constructor
  intro run member
  obtain ⟨first, second, more, formed, agree⟩ := recalls.formed run (fewerSubset member)
  exact ⟨first, second, more, formed, fun held inside entry inPart =>
    agree held inside entry (partSubset inPart)⟩

/-- An entry of the pass before that holds the makings of some members is the entry for just these
members. -/
theorem eq_runEntry (recalls : Recalls previous entries) {run first : Envelope}
    {members : List Envelope} (member : run ∈ previous) (inside : members ⊆ entries)
    (starts : members.head? = some first) (holds : run.holds members = true) :
    run = runEntry run.serial first members := by
  obtain ⟨head, second, more, formed, agree⟩ := recalls.formed run member
  rw [formed] at holds
  have sameNumbers :
      (head :: second :: more).map Envelope.serial = members.map Envelope.serial := by
    simpa only [runEntry, Envelope.synthesized, Envelope.holds, beq_iff_eq] using holds
  have same : head :: second :: more = members := by
    refine eq_of_map_eq sameNumbers ?_
    intro held inRun entry inMembers equal
    exact agree held inRun entry (inside inMembers) equal
  have sameFirst : head = first := by
    rw [← same] at starts
    simpa using starts
  rw [same, sameFirst] at formed
  exact formed

end Recalls

/-- Identifiers of collapsed entries differ as those of the first members do. -/
theorem Runs.idFor_injective {first second : Envelope}
    (same : Runs.idFor first = Runs.idFor second) : first.uniqueId = second.uniqueId := by
  have texts : "collapsed-" ++ first.uniqueId.text = "collapsed-" ++ second.uniqueId.text :=
    congrArg EntryId.text same
  have sameText : first.uniqueId.text = second.uniqueId.text := (String.append_right_inj _).mp texts
  cases id : first.uniqueId
  cases otherId : second.uniqueId
  rw [id, otherId] at sameText
  exact congrArg EntryId.mk sameText

/-- Entering an entry under a new identifier puts it behind the others. -/
theorem Runs.insert_of_new {runs : Runs} {entry : Envelope}
    (new : ∀ run ∈ runs, run.uniqueId ≠ entry.uniqueId) : runs.insert entry = runs ++ [entry] := by
  have kept : runs.erase entry.uniqueId = runs :=
    List.filter_eq_self.mpr fun run member => by simpa using new run member
  rw [Runs.insert, kept]

namespace CollapsePass

/-- The entry for a run is one of the pass before, or a new one under the next free number. Either
way it is the entry for just this run. -/
theorem entryFor_eq (pass : CollapsePass) {first : Envelope} {members : List Envelope}
    (recalls : Recalls pass.previous members) (starts : members.head? = some first)
    (below : ∀ run ∈ pass.previous, run.serial < pass.serial) :
    ∃ serial next, pass.entryFor first members = (runEntry serial first members, {
        previous := pass.previous.erase (Runs.idFor first)
        runs := pass.runs.insert (runEntry serial first members)
        serial := next }) ∧
      pass.serial ≤ next ∧ serial < next ∧
      (runEntry serial first members ∈ pass.previous ∨ serial = pass.serial) := by
  unfold entryFor
  dsimp only
  split
  · rename_i run found
    obtain ⟨known, holds⟩ := Option.filter_eq_some_iff.mp found
    have member : run ∈ pass.previous := List.mem_of_find?_eq_some known
    have formed := recalls.eq_runEntry member (List.Subset.refl members) starts holds
    refine ⟨run.serial, pass.serial, ?_, Nat.le_refl _, below run member, Or.inl (formed ▸ member)⟩
    rw [← formed]
  · exact ⟨pass.serial, pass.serial + 1, rfl, Nat.le_succ _, Nat.lt_succ_self _, Or.inr rfl⟩

/-- The pass behind a run that it has entered. -/
def behind (pass : CollapsePass) (serial next : Nat) (first : Envelope)
    (members : List Envelope) : CollapsePass where
  previous := pass.previous.erase (Runs.idFor first)
  runs := pass.runs ++ [runEntry serial first members]
  serial := next

/-- Erasing what is under an identifier leaves the other runs in their order. -/
theorem erase_sublist (runs : Runs) (id : EntryId) : (runs.erase id).Sublist runs :=
  List.filter_sublist

/-- What a pass may rely on: it knows the entries it comes to, no identifier repeats among these
and none of their runs has been entered yet, and the runs of the pass before are numbered below the
next free number. -/
structure Ready (pass : CollapsePass) (blocks : List (List Envelope)) : Prop where
  full : ∀ block ∈ blocks, block ≠ []
  ids : (blocks.flatten.map Envelope.uniqueId).Nodup
  recalls : Recalls pass.previous blocks.flatten
  numbered : Numbered pass.serial pass.previous
  unseen : ∀ run ∈ pass.runs, ∀ entry ∈ blocks.flatten, run.uniqueId ≠ Runs.idFor entry

/-- What a pass comes to: it shows the blocks and enters the new runs behind its own. Each of these
is one of the pass before or has a new number, and no number repeats among them. -/
structure Passed (pass : CollapsePass) (blocks : List (List Envelope)) (runs : Runs) : Prop where
  shows : Shows blocks (pass.blocks blocks).1 runs
  entered : (pass.blocks blocks).2.runs = pass.runs ++ runs
  later : pass.serial ≤ (pass.blocks blocks).2.serial
  numbered : Numbered (pass.blocks blocks).2.serial runs
  source : ∀ run ∈ runs, run ∈ pass.previous ∨ pass.serial ≤ run.serial

/-- A pass that is ready for some blocks, of which the first is a single entry, is ready for the
others behind it. -/
theorem Ready.single {pass : CollapsePass} {entry : Envelope} {rest : List (List Envelope)}
    (ready : pass.Ready ([entry] :: rest)) : pass.Ready rest := by
  have part : rest.flatten ⊆ ([entry] :: rest).flatten := by simp
  refine ⟨fun block member => ready.full block (List.mem_cons_of_mem _ member), ?_,
    ready.recalls.mono (List.Subset.refl _) part, ready.numbered,
    fun run member other inside => ready.unseen run member other (part inside)⟩
  exact ready.ids.sublist ((List.sublist_append_right [entry] rest.flatten).map _)

/-- A pass that is ready for some blocks is ready for the others when it has entered the first of
them as a run: no other run starts with the first member of this one, so it is not met again. -/
theorem Ready.run {pass : CollapsePass} {first : Envelope} {members : List Envelope}
    {rest : List (List Envelope)} (ready : pass.Ready (members :: rest))
    (starts : members.head? = some first) (serial : Nat) {next : Nat} (above : pass.serial ≤ next) :
    (pass.behind serial next first members).Ready rest := by
  have part : rest.flatten ⊆ (members :: rest).flatten := by simp
  have firstMember : first ∈ members := List.mem_of_head? starts
  have fewer := erase_sublist pass.previous (Runs.idFor first)
  refine ⟨fun block member => ready.full block (List.mem_cons_of_mem _ member), ?_,
    ready.recalls.mono fewer.subset part, (ready.numbered.sublist fewer).mono above, ?_⟩
  · exact ready.ids.sublist ((List.sublist_append_right members rest.flatten).map _)
  · intro run member other inside
    rcases List.mem_append.mp member with old | new
    · exact ready.unseen run old other (part inside)
    · rw [List.mem_singleton.mp new]
      intro same
      have sameId : first.uniqueId = other.uniqueId := Runs.idFor_injective same
      have ids := ready.ids
      rw [List.flatten_cons, List.map_append] at ids
      exact List.disjoint_of_nodup_append ids (List.mem_map_of_mem firstMember)
        (sameId ▸ List.mem_map_of_mem inside)

/-- The runs behind a run differ from it in number: one that is taken over is not met again, and a
new one uses up its number. -/
theorem Passed.apart {pass : CollapsePass} {serial next : Nat} {first : Envelope}
    {members : List Envelope} {rest : List (List Envelope)} {runs : Runs}
    (numbered : Numbered pass.serial pass.previous) (used : serial < next)
    (source : runEntry serial first members ∈ pass.previous ∨ serial = pass.serial)
    (passed : (pass.behind serial next first members).Passed rest runs) :
    ∀ run ∈ runs, run.serial ≠ serial := by
  intro run member same
  rcases passed.source run member with old | new
  · obtain ⟨known, other⟩ := List.mem_filter.mp old
    rcases source with taken | made
    · have one : run = runEntry serial first members := numbered.eq_of_serial known taken same
      rw [one] at other
      simp [runEntry, Envelope.synthesized, Envelope.uniqueId, Envelope.header] at other
    · have below := numbered.below run known
      omega
  · change next ≤ run.serial at new
    omega

/-- What a pass comes to behind a run, with the entry of the run put in front, is what it comes to
from that run on. -/
theorem Passed.run {pass : CollapsePass} {serial next : Nat} {first second : Envelope}
    {more : List Envelope} {rest : List (List Envelope)} {runs : Runs}
    (found : pass.entryFor first (first :: second :: more) =
      (runEntry serial first (first :: second :: more),
        pass.behind serial next first (first :: second :: more)))
    (numbered : Numbered pass.serial pass.previous) (above : pass.serial ≤ next)
    (used : serial < next)
    (source : runEntry serial first (first :: second :: more) ∈ pass.previous ∨
      serial = pass.serial)
    (passed : (pass.behind serial next first (first :: second :: more)).Passed rest runs) :
    pass.Passed ((first :: second :: more) :: rest)
      (runEntry serial first (first :: second :: more) :: runs) := by
  have stepped : pass.blocks ((first :: second :: more) :: rest) =
      (runEntry serial first (first :: second :: more) ::
        ((pass.behind serial next first (first :: second :: more)).blocks rest).1,
      ((pass.behind serial next first (first :: second :: more)).blocks rest).2) := by
    simp [CollapsePass.blocks, CollapsePass.block, found]
  have apart := passed.apart numbered used source
  refine ⟨?_, ?_, ?_, ?_, ?_⟩
  · rw [stepped]
    exact passed.shows.run serial first second more
  · rw [stepped, passed.entered]
    exact List.append_assoc _ _ _
  · rw [stepped]
    exact Nat.le_trans above passed.later
  · rw [stepped]
    refine ⟨?_, ?_⟩
    · rw [List.map_cons, List.nodup_cons]
      refine ⟨?_, passed.numbered.distinct⟩
      intro inside
      obtain ⟨run, member, same⟩ := List.mem_map.mp inside
      exact apart run member same
    · intro run member
      rcases List.mem_cons.mp member with rfl | member
      · exact Nat.lt_of_lt_of_le used passed.later
      · exact passed.numbered.below run member
  · intro run member
    rcases List.mem_cons.mp member with rfl | member
    · rcases source with taken | made
      · exact Or.inl taken
      · exact Or.inr (Nat.le_of_eq made.symm)
    · rcases passed.source run member with old | new
      · exact Or.inl ((erase_sublist _ _).subset old)
      · exact Or.inr (Nat.le_trans above new)

/-- A pass that is ready shows its blocks, one after another. -/
theorem blocks_passed {pass : CollapsePass} {blocks : List (List Envelope)}
    (ready : pass.Ready blocks) : ∃ runs, pass.Passed blocks runs := by
  induction blocks generalizing pass with
  | nil =>
    exact ⟨[], Shows.nil, (List.append_nil _).symm, Nat.le_refl _, ⟨List.nodup_nil, by simp⟩,
      by simp⟩
  | cons block rest inductionHypothesis =>
    match block, ready with
    | [], ready => exact absurd rfl (ready.full [] List.mem_cons_self)
    | [entry], ready =>
      obtain ⟨runs, passed⟩ := inductionHypothesis ready.single
      exact ⟨runs, passed.shows.single entry, passed.entered, passed.later, passed.numbered,
        passed.source⟩
    | first :: second :: more, ready =>
      have inside : first :: second :: more ⊆ ((first :: second :: more) :: rest).flatten :=
        List.subset_append_left _ _
      have recalls := ready.recalls.mono (List.Subset.refl _) inside
      obtain ⟨serial, next, found, above, used, source⟩ :=
        pass.entryFor_eq recalls rfl ready.numbered.below
      have new : pass.runs.insert (runEntry serial first (first :: second :: more)) =
          pass.runs ++ [runEntry serial first (first :: second :: more)] :=
        Runs.insert_of_new fun run member =>
          ready.unseen run member first (inside List.mem_cons_self)
      rw [new] at found
      obtain ⟨runs, passed⟩ := inductionHypothesis (ready.run rfl serial above)
      exact ⟨_, passed.run found ready.numbered above used source⟩

end CollapsePass

/-! ## What is shown of a collection -/

/-- No block is empty. -/
theorem ne_nil_of_mem_blocks (items : List Envelope) : ∀ block ∈ blocks items, block ≠ [] := by
  induction items with
  | nil => simp [blocks]
  | cons item rest inductionHypothesis =>
    unfold blocks
    split
    · rename_i next more others found
      rw [found] at inductionHypothesis
      split <;> simp_all
    · simp_all

/-- Folding a collection in which no identifier repeats shows its blocks. The collapsed entries in
use from then on are those shown, each of them an entry of the pass before or numbered anew. -/
theorem collapse_shows {previous : Runs} {serial : Nat} {items : List Envelope}
    (ids : (items.map Envelope.uniqueId).Nodup) (recalls : Recalls previous items)
    (numbered : Numbered serial previous) :
    Shows (blocks items) (collapse previous serial items).shown
        (collapse previous serial items).runs ∧
      serial ≤ (collapse previous serial items).serial ∧
      Numbered (collapse previous serial items).serial (collapse previous serial items).runs ∧
      ∀ run ∈ (collapse previous serial items).runs, run ∈ previous ∨ serial ≤ run.serial := by
  have ready : CollapsePass.Ready ⟨previous, [], serial⟩ (blocks items) :=
    ⟨ne_nil_of_mem_blocks items, by rwa [flatten_blocks], by rwa [flatten_blocks], numbered,
      by simp⟩
  obtain ⟨runs, passed⟩ := CollapsePass.blocks_passed ready
  have entered : (collapse previous serial items).runs = runs := by
    rw [collapse_eq]
    exact passed.entered.trans (List.nil_append runs)
  rw [entered, collapse_eq]
  exact ⟨passed.shows, passed.later, passed.numbered, passed.source⟩

namespace Shows

variable {blocks : List (List Envelope)} {shown : List Envelope} {runs : Runs}

/-- Each collapsed entry shown for some blocks is the entry of one of them. -/
theorem exists_block (shows : Shows blocks shown runs) : ∀ run ∈ runs, ∃ first second more,
    run = runEntry run.serial first (first :: second :: more) ∧
      first :: second :: more ∈ blocks := by
  induction shows with
  | nil => simp
  | single entry others inductionHypothesis =>
    intro run member
    obtain ⟨first, second, more, same, inside⟩ := inductionHypothesis run member
    exact ⟨first, second, more, same, List.mem_cons_of_mem _ inside⟩
  | run serial first second more others inductionHypothesis =>
    intro run member
    rcases List.mem_cons.mp member with rfl | member
    · exact ⟨first, second, more, rfl, List.mem_cons_self⟩
    · obtain ⟨head, next, rest, same, inside⟩ := inductionHypothesis run member
      exact ⟨head, next, rest, same, List.mem_cons_of_mem _ inside⟩

/-- Each collapsed entry shown for some blocks is the entry of a run of what the blocks hold. -/
theorem exists_runEntry (shows : Shows blocks shown runs) : ∀ run ∈ runs, ∃ first second more,
    run = runEntry run.serial first (first :: second :: more) ∧
      first :: second :: more ⊆ blocks.flatten := by
  intro run member
  obtain ⟨first, second, more, same, inside⟩ := shows.exists_block run member
  exact ⟨first, second, more, same, (List.sublist_flatten_of_mem inside).subset⟩

/-- Each block of two or more entries is shown as its collapsed entry. -/
theorem shown_of_block (shows : Shows blocks shown runs) {first second : Envelope}
    {more : List Envelope} (block : first :: second :: more ∈ blocks) :
    ∃ serial, runEntry serial first (first :: second :: more) ∈ shown ∧
      runEntry serial first (first :: second :: more) ∈ runs := by
  induction shows with
  | nil => cases block
  | single entry others inductionHypothesis =>
    rcases List.mem_cons.mp block with same | behind
    · cases same
    · obtain ⟨serial, inShown, inRuns⟩ := inductionHypothesis behind
      exact ⟨serial, List.mem_cons_of_mem _ inShown, inRuns⟩
  | run serial head next rest others inductionHypothesis =>
    rcases List.mem_cons.mp block with same | behind
    · cases same
      exact ⟨serial, List.mem_cons_self, List.mem_cons_self⟩
    · obtain ⟨number, inShown, inRuns⟩ := inductionHypothesis behind
      exact ⟨number, List.mem_cons_of_mem _ inShown, List.mem_cons_of_mem _ inRuns⟩

/-- Where no identifier repeats in the blocks, none repeats among their collapsed entries. -/
theorem runs_ids (shows : Shows blocks shown runs)
    (ids : (blocks.flatten.map Envelope.uniqueId).Nodup) :
    (runs.map Envelope.uniqueId).Nodup := by
  induction shows with
  | nil => exact List.nodup_nil
  | single entry others inductionHypothesis =>
    exact inductionHypothesis (ids.sublist ((List.sublist_append_right [entry] _).map _))
  | run serial first second more others inductionHypothesis =>
    rw [List.flatten_cons, List.map_append] at ids
    refine List.nodup_cons.mpr ⟨?_, inductionHypothesis ids.of_append_right⟩
    intro inside
    obtain ⟨run, member, same⟩ := List.mem_map.mp inside
    obtain ⟨head, next, rest, formed, part⟩ := others.exists_runEntry run member
    rw [formed] at same
    have sameId : head.uniqueId = first.uniqueId := Runs.idFor_injective same
    exact List.disjoint_of_nodup_append ids (List.mem_map_of_mem List.mem_cons_self)
      (sameId ▸ List.mem_map_of_mem (part List.mem_cons_self))

/-- What is shown is an entry of the blocks or a collapsed entry. -/
theorem mem_or_mem_runs (shows : Shows blocks shown runs) :
    ∀ entry ∈ shown, entry ∈ blocks.flatten ∨ entry ∈ runs := by
  induction shows with
  | nil => simp
  | single entry others inductionHypothesis =>
    intro other member
    rcases List.mem_cons.mp member with rfl | member
    · exact Or.inl List.mem_cons_self
    · exact (inductionHypothesis other member).imp (List.mem_append_right _) id
  | run serial first second more others inductionHypothesis =>
    intro other member
    rcases List.mem_cons.mp member with rfl | member
    · exact Or.inr List.mem_cons_self
    · exact (inductionHypothesis other member).imp (List.mem_append_right _)
        (List.mem_cons_of_mem _)

end Shows

end RoomTimeline
