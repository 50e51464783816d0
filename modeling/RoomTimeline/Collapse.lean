import RoomTimeline.Envelope

/-!
# Folding state changes

A run of two or more neighbouring membership or state changes is shown as one entry that holds
the run. The entry is kept from one pass to the next as long as its run stays the same, so that
nothing seems to have changed where nothing did; an entry that a pass does not show is forgotten
by the next.
-/

namespace RoomTimeline

/-- The collapsed entries in use, each under its own identifier. -/
abbrev Runs := List Envelope

namespace Runs

/-- The identifier of the entry for a run that starts with a given entry. -/
def idFor (first : Envelope) : EntryId := ⟨"collapsed-" ++ first.uniqueId.text⟩

/-- The entry under an identifier. -/
def find? (runs : Runs) (id : EntryId) : Option Envelope :=
  List.find? (fun entry => entry.uniqueId = id) runs

/-- The runs without the entry under an identifier. -/
def erase (runs : Runs) (id : EntryId) : Runs := runs.filter fun entry => entry.uniqueId ≠ id

/-- Enter an entry, in place of the one under its identifier. -/
def insert (runs : Runs) (entry : Envelope) : Runs := runs.erase entry.uniqueId ++ [entry]

end Runs

/-- Whether an entry holds exactly the given members, made by the same making. -/
def Envelope.holds (members : List Envelope) : Envelope → Bool
  | .virtual _ (.collapsed held) => held.map Envelope.serial == members.map Envelope.serial
  | _ => false

/-- How far a pass has got: the runs of the pass before that it has not come across, its own
    runs, and the serial that the next new entry will be made with. -/
structure CollapsePass where
  previous : Runs
  runs : Runs
  serial : Nat

namespace CollapsePass

/-- The entry for a run: the one of the pass before if it holds the same members, or else a new
    one. -/
def entryFor (pass : CollapsePass) (first : Envelope) (members : List Envelope) :
    Envelope × CollapsePass :=
  let id := Runs.idFor first
  match (pass.previous.find? id).filter fun entry => entry.holds members with
  | some entry =>
    (entry, { pass with previous := pass.previous.erase id, runs := pass.runs.insert entry })
  | none =>
    let entry := Envelope.synthesized pass.serial id (.collapsed members)
    (entry, {
      previous := pass.previous.erase id
      runs := pass.runs.insert entry
      serial := pass.serial + 1 })

/-- Show one block: a run as its entry, a single entry as it is. -/
def block (pass : CollapsePass) : List Envelope → List Envelope × CollapsePass
  | first :: second :: rest =>
    let found := pass.entryFor first (first :: second :: rest)
    ([found.1], found.2)
  | single => (single, pass)

end CollapsePass

/-- A pass on its way: what it knows of the runs, the run that it has not come to the end of, and
    what it shows so far. -/
structure Collapsing where
  pass : CollapsePass
  run : List Envelope
  shown : List Envelope

namespace Collapsing

/-- Come to the end of the run. It is shown as a block, or not at all if nothing is in it. -/
def flush (state : Collapsing) : Collapsing :=
  let found := state.pass.block state.run
  ⟨found.2, [], state.shown ++ found.1⟩

/-- Take the next entry: into the run if it may be folded, and else it ends the run and is shown
    behind it. -/
def take (state : Collapsing) (item : Envelope) : Collapsing :=
  if item.isCollapsible then { state with run := state.run ++ [item] }
  else
    let ended := state.flush
    { ended with shown := ended.shown ++ [item] }

end Collapsing

/-- What a pass comes to: what to show, the collapsed entries in use from now on, and the serial
    that the next new entry will be made with. -/
structure Collapsed where
  shown : List Envelope
  runs : Runs
  serial : Nat

/-- Fold the runs of a sequence. -/
def collapse (previous : Runs) (serial : Nat) (items : List Envelope) : Collapsed :=
  let done := (items.foldl Collapsing.take ⟨⟨previous, [], serial⟩, [], []⟩).flush
  ⟨done.shown, done.pass.runs, done.pass.serial⟩

end RoomTimeline
