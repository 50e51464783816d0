import RoomTimeline.Proofs.Depiction

/-!
# What a folding pass keeps

A pass that comes to a run which the pass before has shown takes over its collapsed entry. So blocks
that have not changed are shown by the very entries that have shown them before
(`CollapsePass.blocks_kept`), wherever in the pass they stand, and a collection that has not changed
looks as before (`Depiction.bodyOf_kept`).

A pass looks up entries of the pass before by identifier and forgets each that it has come across.
No two collapsed entries have one identifier, so what it forgets with one run it does not miss at
another.
-/

namespace RoomTimeline

/-- The entry of a run has the identifier made from that of the first member. -/
@[simp] theorem uniqueId_runEntry (serial : Nat) (first : Envelope) (members : List Envelope) :
    (runEntry serial first members).uniqueId = Runs.idFor first := rfl

namespace CollapsePass

/-- The pass behind runs whose entries it has taken over. -/
def keeping (pass : CollapsePass) (runs : Runs) : CollapsePass :=
  { pass with
    previous := pass.previous.filter fun entry => entry.uniqueId ∉ runs.map Envelope.uniqueId
    runs := pass.runs ++ runs }

/-- A pass can take over some entries: they are among those of the pass before, and no identifier
repeats there, among them, or in what the pass has entered. -/
structure Keeps (pass : CollapsePass) (runs : Runs) : Prop where
  known : runs ⊆ pass.previous
  distinct : (pass.previous.map Envelope.uniqueId).Nodup
  ids : (runs.map Envelope.uniqueId).Nodup
  unseen : ∀ run ∈ runs, ∀ entered ∈ pass.runs, entered.uniqueId ≠ run.uniqueId

/-- A pass that has taken over no entry is where it was. -/
theorem keeping_nil (pass : CollapsePass) : pass.keeping [] = pass := by
  simp [keeping]

/-- Taking over an entry and then some others is taking over all of them. -/
theorem keeping_cons (pass : CollapsePass) (run : Envelope) (runs : Runs) :
    (pass.keeping [run]).keeping runs = pass.keeping (run :: runs) := by
  simp [keeping, List.filter_filter, Bool.and_comm]

/-- A pass that can take over some entries can, behind the first of them, take over the others. -/
theorem Keeps.tail {pass : CollapsePass} {run : Envelope} {runs : Runs}
    (keeps : pass.Keeps (run :: runs)) : (pass.keeping [run]).Keeps runs := by
  obtain ⟨other, ids⟩ := List.nodup_cons.mp keeps.ids
  refine ⟨?_, keeps.distinct.sublist (List.filter_sublist.map _), ids, ?_⟩
  · intro further member
    have differs : further.uniqueId ≠ run.uniqueId := fun same =>
      other (same ▸ List.mem_map_of_mem member)
    exact List.mem_filter.mpr ⟨keeps.known (List.mem_cons_of_mem _ member), by simpa using differs⟩
  · intro further member entered before
    rcases List.mem_append.mp before with old | new
    · exact keeps.unseen further (List.mem_cons_of_mem _ member) entered old
    · rw [List.mem_singleton.mp new]
      exact fun same => other (same ▸ List.mem_map_of_mem member)

/-- A pass that can take over some entries can, behind some of the first, take over the others. -/
theorem Keeps.drop {pass : CollapsePass} {front back : Runs} (keeps : pass.Keeps (front ++ back)) :
    (pass.keeping front).Keeps back := by
  induction front generalizing pass with
  | nil => rwa [keeping_nil]
  | cons run rest inductionHypothesis =>
    have further := inductionHypothesis keeps.tail
    rwa [keeping_cons] at further

/-- A pass that can take over some entries can take over any part of them. -/
theorem Keeps.sublist {pass : CollapsePass} {part runs : Runs} (keeps : pass.Keeps runs)
    (fewer : part.Sublist runs) : pass.Keeps part :=
  ⟨List.Subset.trans fewer.subset keeps.known, keeps.distinct, keeps.ids.sublist (fewer.map _),
    fun run member => keeps.unseen run (fewer.subset member)⟩

/-- Which entries a pass can take over depends on the identifiers of what it has entered, and on
nothing else of it. -/
theorem Keeps.of_ids {pass other : CollapsePass} {runs : Runs} (keeps : pass.Keeps runs)
    (previous : other.previous = pass.previous)
    (entered : other.runs.map Envelope.uniqueId = pass.runs.map Envelope.uniqueId) :
    other.Keeps runs := by
  refine ⟨previous ▸ keeps.known, previous ▸ keeps.distinct, keeps.ids, ?_⟩
  intro run member another before
  have id : another.uniqueId ∈ pass.runs.map Envelope.uniqueId :=
    entered ▸ List.mem_map_of_mem before
  obtain ⟨same, known, equal⟩ := List.mem_map.mp id
  exact equal ▸ keeps.unseen run member same known

/-- The entry for a run is taken over if the pass before has shown this very run. -/
theorem entryFor_kept {pass : CollapsePass} {serial : Nat} {first : Envelope}
    {members : List Envelope} {runs : Runs}
    (keeps : pass.Keeps (runEntry serial first members :: runs)) :
    pass.entryFor first members =
      (runEntry serial first members, pass.keeping [runEntry serial first members]) := by
  have known : runEntry serial first members ∈ pass.previous := keeps.known List.mem_cons_self
  have found : pass.previous.find? (Runs.idFor first) = some (runEntry serial first members) := by
    cases looked : pass.previous.find? (Runs.idFor first) with
    | none =>
      have absent := List.find?_eq_none.mp looked _ known
      exact absurd (decide_eq_true rfl) absent
    | some other =>
      have same : other.uniqueId = Runs.idFor first := by
        simpa using (List.find?_eq_some_iff_append.mp looked).1
      rw [List.inj_on_of_nodup_map keeps.distinct (List.mem_of_find?_eq_some looked) known same]
  have holds : (runEntry serial first members).holds members = true := by
    simp [runEntry, Envelope.synthesized, Envelope.holds]
  have new : pass.runs.insert (runEntry serial first members) =
      pass.runs ++ [runEntry serial first members] :=
    Runs.insert_of_new (keeps.unseen _ List.mem_cons_self)
  have erased : pass.previous.erase (Runs.idFor first) =
      (pass.keeping [runEntry serial first members]).previous := by
    simp [keeping, Runs.erase]
  unfold entryFor
  simp only [found, Option.filter, holds, if_true, new, erased]
  rfl

/-- Blocks that the pass before has shown are shown by the same entries. -/
theorem blocks_kept {blocks : List (List Envelope)} {shown : List Envelope} {runs : Runs}
    (shows : Shows blocks shown runs) {pass : CollapsePass} (keeps : pass.Keeps runs) :
    pass.blocks blocks = (shown, pass.keeping runs) := by
  induction shows generalizing pass with
  | nil => exact congrArg (Prod.mk []) pass.keeping_nil.symm
  | single entry others inductionHypothesis =>
    have further := inductionHypothesis keeps
    simp [CollapsePass.blocks, block, further]
  | run serial first second more others inductionHypothesis =>
    have further := inductionHypothesis keeps.tail
    rw [keeping_cons] at further
    simp [CollapsePass.blocks, block, entryFor_kept keeps, further]

end CollapsePass

/-- The pass over a collection begins ready to take over all entries in use, if no identifier
repeats in what they have been made of. -/
theorem Shows.keeps {items shown : List Envelope} {runs : Runs}
    (shows : Shows (blocks items) shown runs) (ids : (items.map Envelope.uniqueId).Nodup)
    (serial : Nat) : CollapsePass.Keeps ⟨runs, [], serial⟩ runs := by
  have distinct := shows.runs_ids (by rwa [flatten_blocks])
  exact ⟨List.Subset.refl runs, distinct, distinct, by simp⟩

/-- A collection that has not changed is shown by the same entries, and no number is used. -/
theorem Depiction.bodyOf_kept {config : Config} {serial : Nat} {items shown : List Envelope}
    {runs : Runs} (depiction : Depiction config serial items runs shown) :
    bodyOf config runs serial items = ⟨shown, runs, serial⟩ := by
  have depicts := depiction.depicts
  unfold Depicts at depicts
  unfold bodyOf
  split at depicts
  case isTrue folds =>
    have kept := CollapsePass.blocks_kept depicts (depicts.keeps depiction.ids serial)
    rw [if_pos folds, collapse_eq, kept]
    simp [CollapsePass.keeping]
  case isFalse plain => rw [if_neg plain, depicts.1]

end RoomTimeline
