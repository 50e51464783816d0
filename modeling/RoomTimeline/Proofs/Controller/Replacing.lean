import RoomTimeline.Proofs.Controller.Coherence
import RoomTimeline.Proofs.Replacing

/-!
# An item replaced in its place

The source sets an item under the identifier that it has had. To the worker this is a batch like any
other: the item gets a new number, the runs are folded again, the indicators put around them and the
positions found anew. The main statement, `replacing_changes_one_entry`, says that all a receiver is
told of it is a change of the entry which shows the item, and perhaps of its neighbours, whose
positions depend on it; nothing is removed and nothing inserted.

`Board.Coherent.replaced` is about the entries. What is said of them follows in
`updatesBetween_replaced`, which knows nothing about the worker.
-/

namespace RoomTimeline.Controller

namespace Board

variable {setup : Setup} {board : Board}

/-- A coherent board that publishes another item in the place of one, under the status that it has
published last, shows one other entry, the one that shows the item. -/
theorem Coherent.replaced (coherent : board.Coherent setup) (machine : Machine)
    {before after : List Envelope} {old item : Envelope} {serial : Nat}
    (items : board.items = before ++ old :: after) (same : item.uniqueId = old.uniqueId)
    (collapsible : item.isCollapsible = old.isCollapsible)
    (wasEvent : old.event?.isSome = true) (isEvent : item.event?.isSome = true)
    (new : board.serial ≤ item.serial) (above : board.serial ≤ serial)
    (unmoved : machine.pair = board.snapshot.pagination) :
    ∃ front entry changed back, InPlace old item entry changed ∧
      board.snapshot.entries = grouped setup.policy (front ++ entry :: back) ∧
      (publish setup
        { board with items := before ++ item :: after, serial, machine }).snapshot.entries =
        grouped setup.policy (front ++ changed :: back) := by
  obtain ⟨shown, depiction, entries⟩ := coherent.shows
  rw [items] at depiction
  obtain ⟨left, entry, changed, right, rfl, now, inPlace⟩ :=
    depiction.replaced same collapsible new above
  obtain ⟨front, back, arranged⟩ :=
    arrange_around setup.config board.snapshot.pagination left right
  obtain ⟨wasPlain, isPlain⟩ := inPlace.isReadMarker wasEvent isEvent
  refine ⟨front, entry, changed, back, inPlace, ?_, ?_⟩
  · rw [entries, arranged entry wasPlain]
  · rw [← arranged changed isPlain, ← unmoved]
    unfold publish body
    rw [now]

end Board

/-- A batch that can be applied is published once it is taken. -/
theorem publishes_of_applied {setup : Setup} {state next : State} {more : List Effect}
    {batch : Batch} {rest : List Batch} {outcome : Outcome}
    (taken : step setup state .takeBatch = some (next, more))
    (queue : state.source.batches.queue = batch :: rest)
    (applied : applyBatch state.worker.serial state.worker.items batch = .ok outcome) :
    ∃ machine, (outcome.didReset = false → machine = state.machine) ∧
      next.board = Board.publish setup
        { state.board with items := outcome.items, serial := outcome.serial, machine } ∧
      published more = [next.snapshot] ∧
      sent more =
        if state.receiver = .connected then state.snapshot.updates next.snapshot else [] := by
  obtain ⟨processed, -, -, told⟩ := step_shifts taken
  cases step_deeds taken with
  | @refuses first others fault running waiting refused =>
    cases queue.symm.trans waiting
    rw [applied] at refused
    cases refused
  | @commits first others result running waiting found =>
    cases queue.symm.trans waiting
    cases Except.ok.inj (applied.symm.trans found)
    let ready := State.grown { state with source.batches.queue := rest } outcome
    obtain ⟨once, -⟩ := ready.observed_publish setup
    have shown : published (State.received setup batch ++ ((ready.publish setup).2 ++
          (outcome.memberships.map TimelineEvent.membershipChanged).map .emitted) ++
          State.firstOpening state.gateOpen) = [(ready.board.publish setup).snapshot] := by
      rw [← once]
      exact State.unseen_committed setup batch _ _ _ (fun _ => rfl) (fun _ => rfl) rfl
    have publishes : published _ ≠ [] := fun none =>
      List.cons_ne_nil _ _ (shown.symm.trans none)
    exact ⟨ready.machine, fun kept => if_neg (by simp [kept]), rfl, shown, told publishes⟩

/-- An item that is replaced in its place is one change. Let the worker take a batch that sets one
item, whose identifiers are those of an item in the collection, both events and the new one as
collapsible as the old one. Where no identifier repeats in what is published and the pagination
status is still the published one,
- the batch is applied and published, and every entry that is shown keeps its identifier and its
  place,
- one of them shows the item where it has shown the old one: by itself, or as a member of a
  collapsed entry in the same place among the others,
- the updates are that this entry has changed, at most that its neighbours have, and behind these a
  note on the length, which is the same as before,
- no entry is named twice, and if the item is a member of a collapsed entry, then this entry is the
  only one that is named.

Whoever holds the update receiver is sent these updates. -/
theorem replacing_changes_one_entry {setup : Setup} {source : Source} {actions : List Action}
    {effects more : List Effect} {state next : State} {index : Nat} {raw : RawItem}
    {rest : List Batch} {old item : Envelope}
    (run : Run setup (State.initial setup source) actions effects state)
    (taken : step setup state .takeBatch = some (next, more))
    (queue : state.source.batches.queue = [.set index raw] :: rest)
    (there : state.worker.items[index]? = some old)
    (made : Envelope.ofRaw state.worker.serial raw = .ok item)
    (same : item.uniqueId = old.uniqueId) (wasEvent : old.event?.isSome = true)
    (isEvent : item.event?.isSome = true) (collapsible : item.isCollapsible = old.isCollapsible)
    (unmoved : state.snapshot.pagination = state.machine.pair)
    (distinct : state.snapshot.ids.Nodup) :
    published more = [next.snapshot] ∧
      next.worker.items = state.worker.items.set index item ∧
      next.snapshot.ids = state.snapshot.ids ∧
      ∃ named place holder changed,
        sent more = (if state.receiver = .connected then
          named ++ [.entries state.snapshot.entries.length] else []) ∧
        state.snapshot.entries[place]? = some holder ∧
        next.snapshot.entries[place]? = some changed ∧
        ((holder.envelope = old ∧ changed.envelope = item) ∨
          (∃ left right, holder.envelope.virtual? = some (.collapsed (left ++ old :: right)) ∧
            changed.envelope.virtual? = some (.collapsed (left ++ item :: right))) ∧
          named = [.changed place changed.uniqueId]) ∧
        .changed place changed.uniqueId ∈ named ∧ (named.filterMap Update.named?).Nodup ∧
        ∀ update ∈ named, ∃ other id, update = .changed other id ∧
          next.snapshot.ids[other]? = some id ∧
          (other = place ∨ other + 1 = place ∨ other = place + 1) := by
  obtain ⟨shown, depiction, -⟩ := run.coherent.shows
  obtain ⟨outcome, applied, items, serial, kept⟩ := applyBatch_set there made same depiction.ids
  obtain ⟨machine, still, board, shownOnce, told⟩ := publishes_of_applied taken queue applied
  obtain ⟨inside, -⟩ := List.getElem?_eq_some_iff.mp there
  have split := (take_append_cons_drop there).symm
  have set : state.worker.items.set index item =
      state.worker.items.take index ++ item :: state.worker.items.drop (index + 1) := by
    rw [List.set_eq_take_append_cons_drop, if_pos inside]
  rw [items, serial, set] at board
  have number : item.serial = state.worker.serial := Envelope.serial_ofRaw made
  obtain ⟨front, entry, changed, back, inPlace, entries, now⟩ := run.coherent.replaced machine split
    same collapsible wasEvent isEvent (Nat.le_of_eq number.symm) (Nat.le_succ _)
    ((congrArg Machine.pair (still kept)).trans unmoved.symm)
  have nextEntries : next.snapshot.entries = grouped setup.policy (front ++ changed :: back) :=
    (congrArg (fun board => board.snapshot.entries) board).trans now
  have status : next.snapshot.pagination = state.snapshot.pagination :=
    (congrArg (fun board => board.snapshot.pagination) board).trans
      ((congrArg Machine.pair (still kept)).trans unmoved.symm)
  have previousEntries : state.snapshot.entries = grouped setup.policy (front ++ entry :: back) :=
    entries
  have older : entry.serial < changed.serial := inPlace.serial_lt <| by
    rw [number]
    exact depiction.itemsNumbered.below old (List.mem_of_getElem? there)
  obtain ⟨sameIds, once, said, all, alone⟩ := updatesBetween_replaced previousEntries nextEntries
    distinct (inPlace.uniqueId same) older
  obtain ⟨group, wasThere⟩ := @exists_getElem?_grouped setup.policy (front ++ entry :: back)
    front.length entry (by simp)
  obtain ⟨newGroup, isThere⟩ := @exists_getElem?_grouped setup.policy (front ++ changed :: back)
    front.length changed (by simp)
  rw [← previousEntries] at wasThere
  rw [← nextEntries] at isThere
  have length : next.snapshot.entries.length = state.snapshot.entries.length := by
    simpa using congrArg List.length sameIds
  have updates : state.snapshot.updates next.snapshot =
      updatesBetween state.snapshot.entries next.snapshot.entries ++
        [.entries state.snapshot.entries.length] := by
    rw [updates_eq]
    simp [notes, status, length, List.ne_nil_of_mem said]
  rw [updates] at told
  refine ⟨shownOnce, (congrArg Board.items board).trans set.symm, sameIds, _, front.length, _, _,
    told, wasThere, isThere, ?_, said, once, all⟩
  exact inPlace.shows.imp id fun ⟨members, wasVirtual, isVirtual⟩ =>
    ⟨members, alone wasVirtual isVirtual⟩

/-- Two people have joined and are shown as one entry. The source replaces the second change of
membership by one of the same kind that tells a display name: their entry has changed, and that is
all. -/
theorem replacing_changes_one_entry_of_run :
    ∃ actions effects state next more,
      Run Setup.ordinary (State.initial Setup.ordinary {}) actions effects state ∧
      step Setup.ordinary state .takeBatch = some (next, more) ∧
      state.snapshot.ids = [⟨"collapsed-a"⟩] ∧ next.snapshot.ids = [⟨"collapsed-a"⟩] ∧
      sent more = [.changed 0 ⟨"collapsed-a"⟩, .entries 1] := by
  let renamed : RawItem := { joining "b" with
    kind := .event 0 ⟨"b", some "B", false, none⟩ (.membershipChange "b" .joined) }
  let actions := opening ++ [.sendBatch [.append [joining "a", joining "b"]], .takeBatch,
    .sendBatch [.set 1 renamed]]
  let reached := (State.initial Setup.ordinary {}).steps Setup.ordinary actions
  have run : Run Setup.ordinary (State.initial Setup.ordinary {}) actions reached.1.2 reached.1.1 :=
    Run.of_steps (by cbv)
  have shown : reached.1.1.snapshot.ids = [⟨"collapsed-a"⟩] := by cbv
  have queue : reached.1.1.source.batches.queue = [[.set 1 renamed]] := by cbv
  have connected : reached.1.1.receiver = .connected := by cbv
  have unmoved : reached.1.1.snapshot.pagination = reached.1.1.machine.pair := by cbv
  have distinct : reached.1.1.snapshot.ids.Nodup := by
    rw [shown]
    decide
  obtain ⟨old, there, oldId, wasEvent, folds⟩ : ∃ old, reached.1.1.worker.items[1]? = some old ∧
      old.uniqueId = ⟨"b"⟩ ∧ old.event?.isSome = true ∧ old.isCollapsible = true :=
    ⟨_, by cbv, by cbv⟩
  obtain ⟨⟨next, more⟩, taken⟩ : ∃ moved, step Setup.ordinary reached.1.1 .takeBatch = some moved :=
    ⟨_, by cbv⟩
  obtain ⟨item, made, itemId, isEvent, foldsToo⟩ : ∃ item,
      Envelope.ofRaw reached.1.1.worker.serial renamed = .ok item ∧ item.uniqueId = ⟨"b"⟩ ∧
        item.event?.isSome = true ∧ item.isCollapsible = true := ⟨_, rfl, rfl, rfl, rfl⟩
  obtain ⟨-, -, ids, named, place, holder, changed, told, wasThere, isThere, shows, -⟩ :=
    replacing_changes_one_entry run taken queue there made (itemId.trans oldId.symm) wasEvent
      isEvent (foldsToo.trans folds.symm) unmoved distinct
  have only : reached.1.1.snapshot.ids[place]? = some holder.uniqueId :=
    getElem?_map_uniqueId wasThere
  have still : next.snapshot.ids[place]? = some changed.uniqueId := getElem?_map_uniqueId isThere
  rw [shown] at only
  rw [ids, shown] at still
  obtain ⟨inside, -⟩ := List.getElem?_eq_some_iff.mp only
  obtain rfl : place = 0 := Nat.lt_one_iff.mp inside
  have isHolder : ⟨"collapsed-a"⟩ = holder.uniqueId := Option.some.inj only
  have isChanged : ⟨"collapsed-a"⟩ = changed.uniqueId := Option.some.inj still
  have length : reached.1.1.snapshot.entries.length = 1 := by
    have one := congrArg List.length shown
    rwa [Snapshot.ids, List.length_map] at one
  -- the one entry that is shown is not the item itself
  have folded : ¬ (holder.envelope = old ∧ changed.envelope = item) := by
    rintro ⟨itself, -⟩
    rw [Entry.uniqueId, itself, oldId] at isHolder
    revert isHolder
    decide
  obtain ⟨-, alone⟩ := shows.resolve_left folded
  rw [if_pos connected, alone, length, ← isChanged] at told
  exact ⟨actions, reached.1.2, reached.1.1, next, more, run, taken, shown, ids.trans shown, told⟩

end RoomTimeline.Controller
