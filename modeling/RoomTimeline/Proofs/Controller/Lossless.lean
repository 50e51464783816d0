import RoomTimeline.Proofs.Continuity
import RoomTimeline.Proofs.Controller.Coherence

/-!
# The updates of a publication are enough

Whoever has taken the update receiver before a snapshot is published is sent all that changed since
the snapshot before: no entry is named twice, following the updates gives the identifiers of the new
snapshot in its order, and what is not named is the very same entry (`updates_lossless`).

Updates match entries by identifier and making and never look at order. That they are enough anyway
is a property of the whole timeline: a step publishes a collection that has grown from the one last
published by at most a batch, what is left of a collection keeps its order, and a collapsed entry
stays one entry only as long as it holds the same makings (`Depiction.continues`).
-/

namespace RoomTimeline.Controller

/-- Whatever a step publishes is the snapshot of a board that has been prepared, and nothing else is
published by it. -/
theorem Board.Shift.of_published {setup : Setup} {board after : Board} {processed : List Batch}
    {snapshots : List Snapshot} {shown : Snapshot}
    (shift : board.Shift setup processed after snapshots) (now : shown ∈ snapshots) :
    snapshots = [shown] ∧ shown = after.snapshot ∧
      ∃ prepared, board.Prepared processed prepared ∧ after = prepared.publish setup := by
  cases shift with
  | still => cases now
  | wished machine => cases now
  | refused refused => cases now
  | published preparation =>
    have same := List.mem_singleton.mp now
    exact ⟨congrArg (fun snapshot => [snapshot]) same.symm, same, _, preparation, rfl⟩

/-- A board that is published after a coherent one goes on from what that has shown. -/
theorem Board.Prepared.continues {setup : Setup} {board prepared : Board} {processed : List Batch}
    (preparation : board.Prepared processed prepared) (coherent : board.Coherent setup) :
    Continues board.snapshot.entries (prepared.publish setup).snapshot.entries := by
  obtain ⟨shown, depiction, entries⟩ := coherent.shows
  obtain ⟨runs, -, grows⟩ := preparation.grows depiction
  have further := depiction.continues setup.policy board.snapshot.pagination prepared.machine.pair
    grows
  rw [← entries, ← runs] at further
  exact further

/-- The updates that a controller sends are lossless. Let a snapshot be published after another one,
both without repeated identifiers, while someone holds the update receiver. Then nothing else is
published by that step, and of the updates sent with it
- none names an entry that another one names,
- those about entries lead from the identifiers of the old snapshot to those of the new one, in
  order,
- an entry of the new snapshot that none of them names is an entry of the old one, the same making
  in the same position of a block, and
- behind those about entries there is a note on the length just if there are any, and one on the
  pagination status just if it differs. -/
theorem updates_lossless {setup : Setup} {source : Source} {actions : List Action}
    {effects more : List Effect} {state next : State} {action : Action}
    {earlier : List Snapshot} {previous shown : Snapshot}
    (run : Run setup (State.initial setup source) actions effects state)
    (taken : step setup state action = some (next, more))
    (before : published effects = earlier ++ [previous]) (now : shown ∈ published more)
    (connected : state.receiver = .connected) (distinct : previous.ids.Nodup)
    (shownDistinct : shown.ids.Nodup) :
    published more = [shown] ∧
      ((sent more).filterMap Update.named?).Nodup ∧
      mirrored previous.ids (sent more) = shown.ids ∧
      (∀ entry ∈ shown.entries, entry.uniqueId ∉ (sent more).filterMap Update.named? →
        entry ∈ previous.entries) ∧
      sent more = aboutEntries (sent more) ++
        (if aboutEntries (sent more) = [] then [] else [.entries shown.entries.length]) ++
        (if previous.pagination = shown.pagination then [] else
          [.pagination shown.pagination]) := by
  have last : state.snapshot = previous := by
    rw [run.snapshot_eq, before, List.getLast?_concat]
    rfl
  obtain ⟨processed, shift, -, told⟩ := step_shifts taken
  have toldNow := told (List.ne_nil_of_mem now)
  obtain ⟨once, same, prepared, preparation, after⟩ := shift.of_published now
  have snapshots : next.snapshot = shown := same.symm
  have continues : Continues previous.entries shown.entries := by
    have further := preparation.continues run.coherent
    rw [← after, ← same] at further
    exact last ▸ further
  rw [if_pos connected, last, snapshots] at toldNow
  refine ⟨once, ?_, ?_, ?_, ?_⟩
  · rw [toldNow, named?_updates]
    exact nodup_named?_updatesBetween distinct shownDistinct
  · rw [toldNow, mirrored_updates]
    exact mirrored_updatesBetween continues distinct shownDistinct
  · intro entry member unnamed
    rw [toldNow, named?_updates] at unnamed
    exact mem_of_unnamed continues distinct member unnamed
  · rw [toldNow, aboutEntries_updates]
    rfl

/-- Behind two people who have joined, which are shown as one entry, someone speaks. The message is
taken out and put in front of them. The updates name the message alone; the entry of the two stays,
and moves to where it belongs without being named. -/
theorem updates_lossless_of_moved_entry :
    ∃ actions effects state next more previous shown,
      Run Setup.ordinary (State.initial Setup.ordinary {}) actions effects state ∧
      step Setup.ordinary state .takeBatch = some (next, more) ∧
      published effects = [previous] ∧ published more = [shown] ∧
      previous.ids = [⟨"collapsed-a"⟩, ⟨"hello"⟩] ∧ shown.ids = [⟨"hello"⟩, ⟨"collapsed-a"⟩] ∧
      mirrored previous.ids (sent more) = shown.ids ∧
      (sent more).filterMap Update.named? = [⟨"hello"⟩] := by
  let actions := opening ++ [.sendBatch [.append [joining "a", joining "b", saying "hello"]],
    .takeBatch, .sendBatch [.remove 2, .pushFront (saying "hello")]]
  let reached := (State.initial Setup.ordinary {}).steps Setup.ordinary actions
  have run : Run Setup.ordinary (State.initial Setup.ordinary {}) actions reached.1.2 reached.1.1 :=
    Run.of_steps (by cbv)
  have connected : reached.1.1.receiver = .connected := by cbv
  have shownBefore : (published reached.1.2).map Snapshot.ids =
      [[⟨"collapsed-a"⟩, ⟨"hello"⟩]] := by cbv
  have shownNow : (step Setup.ordinary reached.1.1 .takeBatch).map (fun moved =>
      ((published moved.2).map Snapshot.ids, (sent moved.2).filterMap Update.named?)) =
      some ([[⟨"hello"⟩, ⟨"collapsed-a"⟩]], [⟨"hello"⟩]) := by cbv
  obtain ⟨previous, before, previousIds⟩ := List.map_eq_singleton_iff.mp shownBefore
  obtain ⟨⟨next, more⟩, taken, observed⟩ := Option.map_eq_some_iff.mp shownNow
  obtain ⟨ids, named⟩ := Prod.mk.inj observed
  obtain ⟨shown, now, shownIds⟩ := List.map_eq_singleton_iff.mp ids
  have distinct : previous.ids.Nodup := by
    rw [previousIds]
    decide
  have shownDistinct : shown.ids.Nodup := by
    rw [shownIds]
    decide
  have first : published reached.1.2 = [] ++ [previous] := before
  have lossless := updates_lossless run taken first (by simp [now]) connected distinct shownDistinct
  exact ⟨actions, reached.1.2, reached.1.1, next, more, previous, shown, run, taken, before, now,
    previousIds, shownIds, lossless.2.2.1, named⟩

end RoomTimeline.Controller
