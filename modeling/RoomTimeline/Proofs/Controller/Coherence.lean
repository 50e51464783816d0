import RoomTimeline.Proofs.Batch.Unnumbered
import RoomTimeline.Proofs.Controller.Board
import RoomTimeline.Proofs.Depiction
import RoomTimeline.Proofs.Faces
import RoomTimeline.Proofs.Remembering

/-!
# Published snapshots are coherent

Whatever the order in which batches, statuses, requests and fetches get through, the last snapshot
shows the collection that the worker holds, under the pagination status that the snapshot names; and
if the status has moved since, a wish to publish again is waiting (`published_coherent`).

Two invariants carry this. A board is coherent if its snapshot is the depiction of its collection
(`Board.Coherent`); each of the things that a step can do to a board keeps it so. And the collection
is what the batches processed so far have built up, which are those that have arrived less those
that still wait (`Run.exists_processed`).
-/

namespace RoomTimeline.Controller

namespace Board

/-- The snapshot shows the collection under the snapshot's own pagination status, and a status that
has moved since will be published. -/
structure Coherent (setup : Setup) (board : Board) : Prop where
  shows : ∃ shown, Depiction setup.config board.serial board.items board.runs shown ∧
    board.snapshot.entries =
      grouped setup.policy (arrange setup.config board.snapshot.pagination shown)
  current : board.snapshot.pagination ≠ board.machine.pair → 0 < board.republish

variable {setup : Setup} {board prepared after : Board} {processed : List Batch}
variable {snapshots : List Snapshot}

/-- A prepared board still has the snapshot and the collapsed entries of before, and its collection
has grown by the batch, or is the same. -/
theorem Prepared.grows {shown : List Envelope} (preparation : board.Prepared processed prepared)
    (depiction : Depiction setup.config board.serial board.items board.runs shown) :
    prepared.runs = board.runs ∧ prepared.snapshot = board.snapshot ∧
      Grows board.serial board.items prepared.serial prepared.items := by
  cases preparation with
  | same machine republish => exact ⟨rfl, rfl, depiction.grows_refl⟩
  | grown machine taken => exact ⟨rfl, rfl, Grows.of_applyBatch depiction.itemsNumbered taken⟩

/-- Publishing a prepared board makes it coherent. -/
theorem Prepared.coherent (preparation : board.Prepared processed prepared)
    (coherent : board.Coherent setup) : (prepared.publish setup).Coherent setup := by
  obtain ⟨shown, depiction, -⟩ := coherent.shows
  obtain ⟨runs, -, grows⟩ := preparation.grows depiction
  have next := (depiction.bodyOf_of_grows grows).1
  rw [← runs] at next
  exact ⟨⟨(prepared.body setup).shown, next, rfl⟩, fun moved => absurd rfl moved⟩

/-- A step keeps a coherent board coherent. -/
theorem Shift.coherent (shift : board.Shift setup processed after snapshots)
    (coherent : board.Coherent setup) : after.Coherent setup := by
  cases shift with
  | still => exact coherent
  | wished machine => exact ⟨coherent.shows, fun _ => Nat.succ_pos _⟩
  | refused refused => exact coherent
  | published preparation => exact preparation.coherent coherent

/-- The collapsed entries of a board are what renderings of known envelopes have left behind, and
the collection is among these envelopes. -/
def Remembers (board : Board) : Prop :=
  ∃ known, Remembered known board.runs board.serial ∧ board.items ⊆ known

/-- After a step the collapsed entries of a board are still what renderings of known envelopes have
left behind, and the collection is among these. -/
theorem Shift.remembers (shift : board.Shift setup processed after snapshots)
    (coherent : board.Coherent setup) (remembers : board.Remembers) : after.Remembers := by
  cases shift with
  | still => exact remembers
  | wished machine => exact remembers
  | refused refused => exact remembers
  | @published _ prepared preparation =>
    obtain ⟨known, remembered, inside⟩ := remembers
    obtain ⟨shown, depiction, -⟩ := coherent.shows
    obtain ⟨sameRuns, -, grows⟩ := preparation.grows depiction
    obtain ⟨further, grown, kept⟩ := remembered.grown inside grows
    rw [← sameRuns] at grown
    exact ⟨further,
      grown.collectionRendered setup.config setup.policy prepared.machine.pair kept, kept⟩

/-- The collection that the batches of before have built up is, after a step, the one that these and
the batches which the step has processed build up. -/
theorem Shift.collection_append_processed (shift : board.Shift setup processed after snapshots)
    {batches : List Batch} (built : SameButNumbers board.items (collection batches)) :
    SameButNumbers after.items (collection (batches ++ processed)) := by
  cases shift with
  | still => simpa using built
  | wished machine => simpa using built
  | @refused batch fault refused =>
    have further := collection_concat batches batch built board.serial
    simpa [afterBatch, refused] using further
  | published preparation =>
    cases preparation with
    | same machine republish =>
      rw [List.append_nil]
      exact built
    | @grown batch outcome machine taken =>
      have further := collection_concat batches batch built board.serial
      rw [afterBatch, taken] at further
      exact further

/-- After a step the snapshot is the last one that the step has published, or that of before if it
has published none. -/
theorem Shift.snapshot_eq (shift : board.Shift setup processed after snapshots) :
    after.snapshot = snapshots.getLast?.getD board.snapshot := by
  cases shift <;> rfl

end Board

/-! ## Runs -/

/-- A controller that nobody has used yet shows nothing, which is all there is. -/
theorem State.coherent_initial (setup : Setup) (source : Source) :
    (State.initial setup source).board.Coherent setup := by
  refine ⟨⟨[], Depiction.empty setup.config, ?_⟩, fun moved => absurd rfl moved⟩
  have backward := DirectionState.initial_ne_paginating
    (Machine.backwardMode setup.config.kind.capabilities)
  have forward := DirectionState.initial_ne_paginating
    (Machine.forwardMode setup.config.kind.capabilities)
  simp [State.board, State.initial, arrange, indicator, Machine.pair, Machine.ofKind, Sides.map,
    backward, forward, dropTrailingReadMarker, grouped]

namespace Run

variable {setup : Setup} {source : Source} {state : State}
variable {actions : List Action} {effects : List Effect}

/-- Every state that a controller can reach is coherent. -/
theorem coherent (run : Run setup (State.initial setup source) actions effects state) :
    state.board.Coherent setup := by
  refine run.invariant (fun reached => reached.board.Coherent setup)
    (State.coherent_initial setup source) ?_
  intro before action after more coherent taken
  obtain ⟨processed, shift, -, -⟩ := step_shifts taken
  exact shift.coherent coherent

/-- In every reachable state the collapsed entries in use are what renderings of known envelopes
have left behind, and the collection is among these. -/
theorem remembers (run : Run setup (State.initial setup source) actions effects state) :
    state.board.Remembers := by
  induction run with
  | nothing => exact ⟨[], .nothing, List.Subset.refl _⟩
  | further before taken inductionHypothesis =>
    obtain ⟨processed, shift, -, -⟩ := step_shifts taken
    exact shift.remembers before.coherent inductionHypothesis

/-- The batches that have arrived are those processed, which have built up the collection, and
behind them those that wait. -/
theorem exists_processed (run : Run setup (State.initial setup source) actions effects state) :
    ∃ processed,
      source.batches.queue ++ arrivals actions = processed ++ state.source.batches.queue ∧
        SameButNumbers state.worker.items (collection processed) := by
  induction run with
  | nothing => exact ⟨[], List.append_nil _, rfl⟩
  | further before taken inductionHypothesis =>
    obtain ⟨processed, waiting, built⟩ := inductionHypothesis
    obtain ⟨more, shift, queue, -⟩ := step_shifts taken
    refine ⟨processed ++ more, ?_, shift.collection_append_processed built⟩
    rw [arrivals_append, ← List.append_assoc, waiting, List.append_assoc, queue,
      List.append_assoc]

/-- The snapshot of a state is the last one published, or the empty one of the start. -/
theorem snapshot_eq (run : Run setup (State.initial setup source) actions effects state) :
    state.snapshot =
      (published effects).getLast?.getD ⟨[], (Machine.ofKind setup.config.kind).pair⟩ := by
  induction run with
  | nothing => rfl
  | further before taken inductionHypothesis =>
    obtain ⟨processed, shift, -, -⟩ := step_shifts taken
    refine shift.snapshot_eq.trans ?_
    rw [published_append, List.getLast?_append]
    cases (published _).getLast? with
    | none => exact inductionHypothesis
    | some last => rfl

end Run

/-- In every reachable state the last snapshot published shows what the worker's collection renders
to, under the pagination status that the snapshot names and up to the makings of collapsed entries.
The collection is what the batches processed so far have built up, in the order of their arrival
and without those that could not be applied. Where the snapshot names another status than the
present one, a wish to publish again is waiting. So once nothing waits, readers see what all batches
have built up, under the present status.

The collection is built up by the batches whatever numbers its entries were given in between, and
what is rendered has the same faces whatever was folded before. -/
theorem published_coherent {setup : Setup} {source : Source} {state : State}
    {actions : List Action} {effects : List Effect}
    (run : Run setup (State.initial setup source) actions effects state) :
    state.snapshot =
        (published effects).getLast?.getD ⟨[], (Machine.ofKind setup.config.kind).pair⟩ ∧
      (∀ serial, state.snapshot.entries.map Entry.face =
        (render setup.config setup.policy state.snapshot.pagination [] serial
          state.worker.items).entries.map Entry.face) ∧
      (∃ processed,
        source.batches.queue ++ arrivals actions = processed ++ state.source.batches.queue ∧
          SameButNumbers state.worker.items (collection processed)) ∧
      (state.snapshot.pagination ≠ state.machine.pair → 0 < state.republish) ∧
      (state.source.batches.queue = [] → state.republish = 0 →
        state.snapshot.pagination = state.machine.pair ∧
          SameButNumbers state.worker.items
            (collection (source.batches.queue ++ arrivals actions))) := by
  obtain ⟨⟨shown, depiction, entries⟩, current⟩ := run.coherent
  obtain ⟨processed, waiting, built⟩ := run.exists_processed
  refine ⟨run.snapshot_eq, ?_, ⟨processed, waiting, built⟩, current, ?_⟩
  · intro serial
    have anew := depicts_anew setup.config serial depiction.ids
    have faces := depiction.depicts.map_face anew
    calc state.snapshot.entries.map Entry.face
        = (grouped setup.policy (arrange setup.config state.snapshot.pagination shown)).map
            Entry.face := congrArg (List.map Entry.face) entries
      _ = _ := grouped_arrange_face setup.config setup.policy state.snapshot.pagination faces
  · intro drained followed
    rw [drained, List.append_nil] at waiting
    constructor
    · by_contra moved
      have waits := current moved
      change 0 < state.republish at waits
      omega
    · rw [waiting]
      exact built

/-- A batch has been shown, the next one has been refused, and then older entries are requested:
what is shown still names the status of before, the collection is that of the first batch, and a
wish to publish again is waiting. -/
theorem published_coherent_while_paginating :
    ∃ actions effects state,
      Run Setup.ordinary (State.initial Setup.ordinary {}) actions effects state ∧
      state.snapshot.pagination = ⟨.idle, .endReached⟩ ∧
      state.machine.pair = ⟨.paginating, .endReached⟩ ∧ 0 < state.republish ∧
      SameButNumbers state.worker.items
        (collection [[.append [joining "a", joining "b"]], [.remove 2]]) := by
  let actions := opening ++ [.sendBatch [.append [joining "a", joining "b"]],
    .sendBatch [.remove 2], .takeBatch, .takeBatch, .start (.paginate .backwards 20)]
  let reached := (State.initial Setup.ordinary {}).steps Setup.ordinary actions
  have run : Run Setup.ordinary (State.initial Setup.ordinary {}) actions reached.1.2 reached.1.1 :=
    Run.of_steps (by cbv)
  have shown : reached.1.1.snapshot.pagination = ⟨.idle, .endReached⟩ := by cbv
  have moved : reached.1.1.machine.pair = ⟨.paginating, .endReached⟩ := by cbv
  have drained : reached.1.1.source.batches.queue.length = 0 := by cbv
  obtain ⟨-, -, ⟨processed, waiting, built⟩, stale, -⟩ := published_coherent run
  rw [List.length_eq_zero_iff.mp drained, List.append_nil] at waiting
  refine ⟨actions, reached.1.2, reached.1.1, run, shown, moved, stale ?_, ?_⟩
  · rw [shown, moved]
    decide
  · rw [← waiting] at built
    exact built

end RoomTimeline.Controller
