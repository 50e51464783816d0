import RoomTimeline.Proofs.Controller.Coherence
import RoomTimeline.Proofs.Identifiers

/-!
# When published identifiers are distinct

The collection of a worker never holds an identifier twice. What is published of it may: an entry of
the source can have the identifier of an indicator, or that of the collapsed entry of a run which it
does not belong to. `published_ids_distinct_iff` says when this happens, and that it cannot where
the source leaves alone the identifiers that rendering gives.
-/

namespace RoomTimeline.Controller

namespace Run

variable {setup : Setup} {source : Source} {actions : List Action} {effects : List Effect}
variable {state : State}

/-- In every reachable state the snapshot is arranged out of a depiction of the worker's collection.
-/
theorem arranged (run : Run setup (State.initial setup source) actions effects state) :
    ∃ shown, Depiction setup.config state.worker.serial state.worker.items state.worker.runs shown ∧
      state.snapshot.entries.map Entry.envelope =
        arrange setup.config state.snapshot.pagination shown := by
  obtain ⟨shown, depiction, entries⟩ := run.coherent.shows
  exact ⟨shown, depiction, (congrArg (List.map Entry.envelope) entries).trans
    (grouped_envelopes setup.policy _)⟩

/-- Every entry of the collection has an identifier that some batch has brought. -/
theorem exists_brought (run : Run setup (State.initial setup source) actions effects state) :
    ∀ entry ∈ state.worker.items,
      ∃ batch ∈ source.batches.queue ++ arrivals actions, entry.uniqueId ∈ batch.ids := by
  obtain ⟨processed, waiting, built⟩ := run.exists_processed
  intro entry member
  have inside : entry.uniqueId ∈ (collection processed).map Envelope.uniqueId :=
    built.ids_eq ▸ List.mem_map_of_mem member
  obtain ⟨other, known, same⟩ := List.mem_map.mp inside
  obtain ⟨batch, isProcessed, brought⟩ := collection_ids processed other known
  rw [waiting, ← same]
  exact ⟨batch, List.mem_append_left _ isProcessed, brought⟩

end Run

/-- In every reachable state the identifiers of the last snapshot are distinct just if none of the
collection's entries that it shows has an identifier that rendering has given to an entry of its
own: to an indicator of a direction that is being loaded, or to the collapsed entry of a run. They
are distinct just if each entry is found by its identifier at its own place. And they are so in any
case if no batch of the source has brought an identifier that is reserved for rendering. -/
theorem published_ids_distinct_iff {setup : Setup} {source : Source} {actions : List Action}
    {effects : List Effect} {state : State}
    (run : Run setup (State.initial setup source) actions effects state) :
    (state.snapshot.ids.Nodup ↔
      ∀ entry ∈ state.snapshot.entries, entry.envelope ∈ state.worker.items →
        ¬ Made setup.config state.snapshot.pagination state.worker.items entry.uniqueId) ∧
    (state.snapshot.ids.Nodup ↔
      ∀ place entry, state.snapshot.entries[place]? = some entry →
        state.snapshot.position? entry.uniqueId = some place) ∧
    ((∀ batch ∈ source.batches.queue ++ arrivals actions, ∀ id ∈ batch.ids, ¬ id.Reserved) →
      state.snapshot.ids.Nodup) := by
  obtain ⟨shown, depiction, arranged⟩ := run.arranged
  have ids : state.snapshot.ids =
      (arrange setup.config state.snapshot.pagination shown).map Envelope.uniqueId := by
    rw [← arranged, List.map_map]
    rfl
  have distinctIff : state.snapshot.ids.Nodup ↔
      ∀ entry ∈ state.snapshot.entries, entry.envelope ∈ state.worker.items →
        ¬ Made setup.config state.snapshot.pagination state.worker.items entry.uniqueId := by
    rw [ids, depiction.ids_nodup_iff, ← arranged]
    exact List.forall_mem_map
  refine ⟨distinctIff, state.snapshot.ids_nodup_iff_position?, ?_⟩
  intro clear
  refine distinctIff.mpr ?_
  intro entry _ inItems made
  obtain ⟨batch, arrived, brought⟩ := run.exists_brought entry.envelope inItems
  exact clear batch arrived _ brought made.reserved

/-- While older entries are being loaded two people join: an indicator and a collapsed entry are
shown, and the collapsed entry is found behind the indicator. -/
theorem published_ids_distinct_while_paginating :
    ∃ actions effects state,
      Run Setup.ordinary (State.initial Setup.ordinary {}) actions effects state ∧
      state.snapshot.ids = [⟨"pagination-indicator-start"⟩, ⟨"collapsed-a"⟩] ∧
      state.snapshot.ids.Nodup ∧ state.snapshot.position? ⟨"collapsed-a"⟩ = some 1 := by
  let actions := opening ++ [.start (.paginate .backwards 20),
    .sendBatch [.append [joining "a", joining "b"]], .takeBatch]
  let reached := (State.initial Setup.ordinary {}).steps Setup.ordinary actions
  have run : Run Setup.ordinary (State.initial Setup.ordinary {}) actions reached.1.2 reached.1.1 :=
    Run.of_steps (by cbv)
  have shown : reached.1.1.snapshot.ids = [⟨"pagination-indicator-start"⟩, ⟨"collapsed-a"⟩] := by
    cbv
  obtain ⟨-, findsIff, unreserved⟩ := published_ids_distinct_iff run
  have arrived : arrivals actions = [[.append [joining "a", joining "b"]]] := rfl
  have distinct : reached.1.1.snapshot.ids.Nodup := by
    refine unreserved ?_
    intro batch member id brought
    rw [arrived] at member
    rw [List.mem_singleton.mp member] at brought
    have oneOf : id = ⟨"a"⟩ ∨ id = ⟨"b"⟩ := by
      simpa [Batch.ids, Operation.raws, joining] using brought
    rcases oneOf with rfl | rfl
    · exact fun reserved => absurd reserved.head? (by decide)
    · exact fun reserved => absurd reserved.head? (by decide)
  have second : (reached.1.1.snapshot.entries.map Entry.uniqueId)[1]? = some ⟨"collapsed-a"⟩ := by
    change reached.1.1.snapshot.ids[1]? = _
    rw [shown]
    rfl
  rw [List.getElem?_map] at second
  obtain ⟨entry, found, id⟩ := Option.map_eq_some_iff.mp second
  have place := findsIff.mp distinct 1 entry found
  rw [id] at place
  exact ⟨actions, reached.1.2, reached.1.1, run, shown, distinct, place⟩

/-- Behind two people who have joined the source sends a message whose identifier is that of their
collapsed entry. The collection takes it, since there it is the only one, and what is published
shows the identifier twice. The message is not found by it. -/
theorem published_ids_repeat :
    ∃ actions effects state,
      Run Setup.ordinary (State.initial Setup.ordinary {}) actions effects state ∧
      state.worker.items.map Envelope.uniqueId = [⟨"a"⟩, ⟨"b"⟩, ⟨"collapsed-a"⟩] ∧
      state.snapshot.ids = [⟨"collapsed-a"⟩, ⟨"collapsed-a"⟩] ∧ ¬ state.snapshot.ids.Nodup ∧
      state.snapshot.position? ⟨"collapsed-a"⟩ = some 0 := by
  let actions := opening ++
    [.sendBatch [.append [joining "a", joining "b", saying "collapsed-a"]], .takeBatch]
  let reached := (State.initial Setup.ordinary {}).steps Setup.ordinary actions
  have run : Run Setup.ordinary (State.initial Setup.ordinary {}) actions reached.1.2 reached.1.1 :=
    Run.of_steps (by cbv)
  have shown : reached.1.1.snapshot.ids = [⟨"collapsed-a"⟩, ⟨"collapsed-a"⟩] := by cbv
  refine ⟨actions, reached.1.2, reached.1.1, run, by cbv, shown, ?_, by cbv⟩
  rw [shown]
  decide

end RoomTimeline.Controller
