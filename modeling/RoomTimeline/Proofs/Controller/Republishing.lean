import RoomTimeline.Proofs.Controller.Coherence
import RoomTimeline.Proofs.Framing
import RoomTimeline.Proofs.Keeping

/-!
# Publishing without a batch

When the worker follows a wish to publish again, or a pushed status, the collection is the one that
has been published already. It is rendered anew all the same. What comes out has the very same
entries in the same positions, and just the indicators follow the pagination status
(`republishing_turns_indicators`).

This rests on what publishing leaves behind for the next time: collapsed entries in use that are
those shown, so that folding takes over each of them (`Depiction.bodyOf_kept`).
-/

namespace RoomTimeline.Controller

/-- Publishing a coherent board again, whatever has become of the pagination status, puts the same
body between the indicators. -/
theorem Board.Coherent.framed {setup : Setup} {board : Board} (coherent : board.Coherent setup)
    (machine : Machine) (republish : Nat) :
    ∃ body, board.snapshot.entries = framed setup.config board.snapshot.pagination body ∧
      (publish setup { board with machine, republish }).snapshot.entries =
        framed setup.config machine.pair body := by
  obtain ⟨shown, depiction, entries⟩ := coherent.shows
  refine ⟨grouped setup.policy (trimmed setup.config shown), ?_, ?_⟩
  · rw [entries, grouped_arrange]
  · have kept : Board.body setup { board with machine, republish } =
        ⟨shown, board.runs, board.serial⟩ := depiction.bodyOf_kept
    unfold publish
    rw [kept, grouped_arrange]

/-- What is published for a wish or a pushed status is the board under the status of the moment. -/
theorem republished {setup : Setup} {state next : State} {action : Action} {more : List Effect}
    (taken : step setup state action = some (next, more))
    (cause : action = .takeRepublish ∨ action = .takeStatus) (publishes : published more ≠ []) :
    ∃ machine republish,
      next.board = Board.publish setup { state.board with machine, republish } ∧
      published more = [next.snapshot] ∧
      sent more =
        if state.receiver = .connected then state.snapshot.updates next.snapshot else [] := by
  rcases cause with rfl | rfl
  · cases step_deeds taken with
    | republishes running wished =>
      obtain ⟨once, told⟩ := State.observed_publish setup
        { state with republish := state.republish - 1 }
      exact ⟨state.machine, state.republish - 1, rfl, once, told⟩
  · cases step_deeds taken with
    | @follows live rest running reads queue changed =>
      obtain ⟨once, told⟩ := State.observed_publish setup
        { state with source.statuses.queue := rest, machine := (state.machine.push live).2 }
      exact ⟨(state.machine.push live).2, state.republish, rfl, once, told⟩
    | ignores running reads queue unchanged => exact absurd rfl publishes

/-- A publication that no batch has caused touches nothing but the indicators. Let a step publish
for a wish to publish again or for a pushed status, where no identifier repeats before and after it.
- It publishes one snapshot, which shows the same entries as before, the same makings in the same
  order and positions, between the indicators that belong to its own pagination status.
- The updates name just the indicators that are shown in one of the two snapshots: one that is shown
  no more is removed, and one that is new is inserted, at the front or as the last entry. Nothing is
  said to have changed.
- Behind them there is a note on the length, if an indicator was named, and one on the pagination
  status, if it differs.
- Where the status is the one published before, nothing is sent, and the snapshot is the same.

Whoever holds the update receiver is sent these updates. -/
theorem republishing_turns_indicators {setup : Setup} {source : Source} {actions : List Action}
    {effects more : List Effect} {state next : State} {action : Action}
    (run : Run setup (State.initial setup source) actions effects state)
    (taken : step setup state action = some (next, more))
    (cause : action = .takeRepublish ∨ action = .takeStatus) (publishes : published more ≠ [])
    (distinct : state.snapshot.ids.Nodup) (nextDistinct : next.snapshot.ids.Nodup) :
    published more = [next.snapshot] ∧
      (∃ body, state.snapshot.entries = framed setup.config state.snapshot.pagination body ∧
        next.snapshot.entries = framed setup.config next.snapshot.pagination body) ∧
      ∃ named updates,
        sent more = (if state.receiver = .connected then updates else []) ∧
        updates = named ++
          (if named = [] then [] else [.entries next.snapshot.entries.length]) ++
          (if state.snapshot.pagination = next.snapshot.pagination then [] else
            [.pagination next.snapshot.pagination]) ∧
        named =
          turning setup.config state.snapshot.pagination.backward next.snapshot.pagination.backward
              (.removed startIndicator.uniqueId) ++
            turning setup.config state.snapshot.pagination.forward
              next.snapshot.pagination.forward (.removed finishIndicator.uniqueId) ++
            (turning setup.config next.snapshot.pagination.backward
              state.snapshot.pagination.backward (.inserted 0 startIndicator.uniqueId) ++
            turning setup.config next.snapshot.pagination.forward
              state.snapshot.pagination.forward
              (.inserted (next.snapshot.entries.length - 1) finishIndicator.uniqueId)) ∧
        (∀ index id, .changed index id ∉ updates) ∧
        (state.snapshot.pagination = next.snapshot.pagination →
          updates = [] ∧ next.snapshot = state.snapshot) := by
  obtain ⟨machine, republish, after, once, told⟩ := republished taken cause publishes
  obtain ⟨body, before, now⟩ := run.coherent.framed machine republish
  have status : next.snapshot.pagination = machine.pair :=
    congrArg (fun board => board.snapshot.pagination) after
  rw [← after, ← status] at now
  change state.snapshot.entries = framed setup.config state.snapshot.pagination body at before
  change next.snapshot.entries = framed setup.config next.snapshot.pagination body at now
  have firstDistinct : ((framed setup.config state.snapshot.pagination body).map
      Entry.uniqueId).Nodup := before ▸ distinct
  have secondDistinct : ((framed setup.config next.snapshot.pagination body).map
      Entry.uniqueId).Nodup := now ▸ nextDistinct
  have named := updatesBetween_framed firstDistinct secondDistinct
  rw [← before, ← now] at named
  refine ⟨once, ⟨body, before, now⟩, _, _, told, rfl, named, ?_, ?_⟩
  · intro index id member
    rw [updates_eq, named] at member
    simp only [List.mem_append] at member
    rcases member with ((gone | gone) | new | new) | note
    · cases eq_of_mem_turning gone
    · cases eq_of_mem_turning gone
    · cases eq_of_mem_turning new
    · cases eq_of_mem_turning new
    · cases (notes_silent _ _ _ note).1
  · intro same
    have entries : next.snapshot.entries = state.snapshot.entries := by rw [before, now, same]
    have snapshot : next.snapshot = state.snapshot := congrArg₂ Snapshot.mk entries same.symm
    simp only [same, turning_self, List.append_nil] at named
    refine ⟨?_, snapshot⟩
    unfold Snapshot.updates
    simp [named, same]

/-- Two people have joined and are shown as one entry, and then older entries are requested. When
the worker follows the wish to publish again, an indicator is put in front of that entry, which
stays the same. -/
theorem republishing_turns_indicators_while_paginating :
    ∃ actions effects state next more,
      Run Setup.ordinary (State.initial Setup.ordinary {}) actions effects state ∧
      step Setup.ordinary state .takeRepublish = some (next, more) ∧
      state.snapshot.ids = [⟨"collapsed-a"⟩] ∧
      next.snapshot.entries = ⟨startIndicator, .single⟩ :: state.snapshot.entries ∧
      sent more = [.inserted 0 ⟨"pagination-indicator-start"⟩, .entries 2,
        .pagination ⟨.paginating, .endReached⟩] := by
  let actions := opening ++ [.sendBatch [.append [joining "a", joining "b"]], .takeBatch,
    .start (.paginate .backwards 20)]
  let reached := (State.initial Setup.ordinary {}).steps Setup.ordinary actions
  have run : Run Setup.ordinary (State.initial Setup.ordinary {}) actions reached.1.2 reached.1.1 :=
    Run.of_steps (by cbv)
  let wishing : State := { reached.1.1 with republish := reached.1.1.republish - 1 }
  have shownBefore : reached.1.1.snapshot.ids = [⟨"collapsed-a"⟩] := by cbv
  have statusBefore : reached.1.1.snapshot.pagination = ⟨.idle, .endReached⟩ := by cbv
  have shownNow : (wishing.shown Setup.ordinary).snapshot.ids =
      [⟨"pagination-indicator-start"⟩, ⟨"collapsed-a"⟩] := by cbv
  have statusNow : (wishing.shown Setup.ordinary).snapshot.pagination =
      ⟨.paginating, .endReached⟩ := by cbv
  have calls : reached.1.1.calls.map RunningCall.number = [0, 1] := by cbv
  have fetches : reached.1.1.fetches.map Fetch.number = [0] := by cbv
  have running : reached.1.1.worker.phase = .running := by cbv
  have wished : 0 < reached.1.1.republish := by cbv
  have taken : step Setup.ordinary reached.1.1 .takeRepublish =
      some (wishing.shown Setup.ordinary, (wishing.publish Setup.ordinary).2) :=
    (Deed.republishes running wished).taken (fun _ => by cbv) (by rw [calls]; decide)
      (by rw [fetches]; decide)
  have publishes : published (wishing.publish Setup.ordinary).2 ≠ [] := by
    rw [(State.observed_publish _ _).1]
    exact List.cons_ne_nil _ _
  have distinct : reached.1.1.snapshot.ids.Nodup := by
    rw [shownBefore]
    decide
  have nextDistinct : (wishing.shown Setup.ordinary).snapshot.ids.Nodup := by
    rw [shownNow]
    decide
  obtain ⟨-, ⟨body, before, now⟩, named, updates, told, all, turned, -⟩ :=
    republishing_turns_indicators run taken (Or.inl rfl) publishes distinct nextDistinct
  have connected : reached.1.1.receiver = .connected := by cbv
  have length : (wishing.shown Setup.ordinary).snapshot.entries.length = 2 := by
    simpa [Snapshot.ids] using congrArg List.length shownNow
  rw [statusBefore, statusNow, length] at turned
  have one : named = [.inserted 0 ⟨"pagination-indicator-start"⟩] := turned
  rw [statusBefore, statusNow, length, one] at all
  rw [if_pos connected, all] at told
  rw [statusBefore] at before
  rw [statusNow] at now
  refine ⟨actions, reached.1.2, reached.1.1, wishing.shown Setup.ordinary,
    (wishing.publish Setup.ordinary).2, run, taken, shownBefore, ?_, told⟩
  rw [now, before]
  simp [framed, edge, Config.Indicates, Setup.ordinary, Config.ofKind]

end RoomTimeline.Controller
