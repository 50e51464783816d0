import RoomTimeline.Batch.Operation
import RoomTimeline.Batch.Fault

/-!
# Edit scripts

An operation becomes a script of removals and insertions. The offset of a removal counts in the
list before the script and that of an insertion in the list after it, so a script says what it
does whatever the order of its changes. `apply` takes the removals from the highest offset down
and then the insertions from the lowest up; under this order neither kind moves an offset that
is still to come.
-/

namespace RoomTimeline

/-- One change of a script. -/
inductive Change where
  /-- Take out the entry at an offset of the list before the script. -/
  | remove (offset : Nat)
  /-- Put an entry to an offset of the list after the script. -/
  | insert (offset : Nat) (element : Envelope)

namespace Change

/-- The offset of a removal. -/
def removal? : Change → Option Nat
  | .remove offset => some offset
  | .insert _ _ => none

/-- The offset and the entry of an insertion. -/
def insertion? : Change → Option (Nat × Envelope)
  | .remove _ => none
  | .insert offset element => some (offset, element)

/-- The removals of the first entries of a list. -/
def removals (count : Nat) : List Change := (List.range count).map .remove

/-- The insertions of entries side by side. -/
def insertions : Nat → List Envelope → List Change
  | _, [] => []
  | offset, element :: rest => .insert offset element :: insertions (offset + 1) rest

end Change

/-- What one operation does to the list, and the membership changes that it announces. -/
structure EditScript where
  changes : List Change
  memberships : List EntryId

namespace EditScript

/-- Whether the script changes nothing. -/
def isEmpty (script : EditScript) : Bool := script.changes.isEmpty

/-- The identifiers of the membership changes among some entries, in order. -/
def announced (entries : List Envelope) : List EntryId :=
  (entries.filter Envelope.isMembershipChange).map Envelope.uniqueId

/-- The offsets of the removals, ascending. -/
def removals (script : EditScript) : List Nat :=
  (script.changes.filterMap Change.removal?).mergeSort fun first second => first ≤ second

/-- The insertions by ascending offset. -/
def insertions (script : EditScript) : List (Nat × Envelope) :=
  (script.changes.filterMap Change.insertion?).mergeSort fun first second => first.1 ≤ second.1

/-- Take out the entry at an offset. -/
def removeAt (items : List Envelope) (offset : Nat) : Except BatchFault (List Envelope) :=
  if offset < items.length then .ok (items.eraseIdx offset)
  else .error (.diverged (.removal offset items.length))

/-- Put an entry to an offset. -/
def insertAt (items : List Envelope) (change : Nat × Envelope) :
    Except BatchFault (List Envelope) :=
  if change.1 ≤ items.length then .ok (items.insertIdx change.1 change.2)
  else .error (.diverged (.insertion change.1 items.length))

/-- Apply the script to a list, which need not be the list that it was built for. A script that
    names an offset twice, or one that the list does not have, diverges. -/
def apply (script : EditScript) (items : List Envelope) : Except BatchFault (List Envelope) := do
  if ¬ script.removals.Nodup then throw (.diverged .removedTwice)
  if ¬ (script.insertions.map Prod.fst).Nodup then throw (.diverged .insertedTwice)
  let kept ← script.removals.reverse.foldlM removeAt items
  script.insertions.foldlM insertAt kept

end EditScript

/-- Make the envelope of a raw item that a batch brings. -/
def wrap (serial : Nat) (raw : RawItem) : Except BatchFault Envelope :=
  (Envelope.ofRaw serial raw).mapError .invalidItem

/-- Make the envelopes of raw items, numbered in order. The first fault ends it. -/
def wrapAll : Nat → List RawItem → Except BatchFault (List Envelope)
  | _, [] => .ok []
  | serial, raw :: rest => do
    let first ← wrap serial raw
    let others ← wrapAll (serial + 1) rest
    .ok (first :: others)

/-- The script of an operation against a list, its envelopes numbered from `serial` on. An index
    is looked at before the item that goes there, and entries put in front or by a reset announce
    nothing: they are history rather than news. A truncation is the source's own housekeeping and
    changes nothing here. -/
def Operation.script (serial : Nat) (items : List Envelope) :
    Operation → Except BatchFault EditScript
  | .append raws => do
    let entries ← wrapAll serial raws
    .ok ⟨Change.insertions items.length entries, EditScript.announced entries⟩
  | .clear => .ok ⟨Change.removals items.length, []⟩
  | .pushFront raw => do
    let entry ← wrap serial raw
    .ok ⟨[.insert 0 entry], []⟩
  | .pushBack raw => do
    let entry ← wrap serial raw
    .ok ⟨[.insert items.length entry], EditScript.announced [entry]⟩
  | .popFront =>
    if items.length = 0 then .error (.emptyTimeline .popFront) else .ok ⟨[.remove 0], []⟩
  | .popBack =>
    if items.length = 0 then .error (.emptyTimeline .popBack)
    else .ok ⟨[.remove (items.length - 1)], []⟩
  | .insert index raw =>
    if items.length < index then .error (.indexOutOfBounds .insert index items.length)
    else do
      let entry ← wrap serial raw
      .ok ⟨[.insert index entry], EditScript.announced [entry]⟩
  | .set index raw =>
    if items.length ≤ index then .error (.indexOutOfBounds .set index items.length)
    else do
      let entry ← wrap serial raw
      .ok ⟨[.remove index, .insert index entry], EditScript.announced [entry]⟩
  | .remove index =>
    if items.length ≤ index then .error (.indexOutOfBounds .remove index items.length)
    else .ok ⟨[.remove index], []⟩
  | .truncate _ => .ok ⟨[], []⟩
  | .reset raws => do
    let entries ← wrapAll serial raws
    .ok ⟨Change.removals items.length ++ Change.insertions 0 entries, []⟩

end RoomTimeline
