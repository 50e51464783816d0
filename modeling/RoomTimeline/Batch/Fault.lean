import RoomTimeline.Envelope

/-!
# Why a batch is rejected

A batch is rejected for its first invalid operation, or, when all operations are valid, for an
identifier that its result would hold twice.
-/

namespace RoomTimeline

/-- Operations that name an index. -/
inductive IndexedOperation where
  | insert
  | set
  | remove
  deriving DecidableEq

/-- The name of an operation in messages. -/
def IndexedOperation.name : IndexedOperation → String
  | .insert => "Insert"
  | .set => "Set"
  | .remove => "Remove"

/-- Operations that need an entry at one end. -/
inductive PopOperation where
  | popFront
  | popBack
  deriving DecidableEq

/-- The name of an operation in messages. -/
def PopOperation.name : PopOperation → String
  | .popFront => "PopFront"
  | .popBack => "PopBack"

/-- How an edit script can fail to fit the list that it is applied to. -/
inductive Divergence where
  | removedTwice
  | insertedTwice
  | removal (offset length : Nat)
  | insertion (offset length : Nat)
  /-- A divergence that someone else found and put into words. -/
  | stated (reason : String)
  deriving DecidableEq

/-- The wording of a divergence. -/
def Divergence.message : Divergence → String
  | .removedTwice => "the same offset is removed twice"
  | .insertedTwice => "the same offset is inserted twice"
  | .removal offset length => s!"removal at {offset} in a timeline of {length} items"
  | .insertion offset length => s!"insertion at {offset} in a timeline of {length} items"
  | .stated reason => reason

/-- Why a batch, or a part of it, cannot be applied. -/
inductive BatchFault where
  /-- An index beyond the list, and the length that the list had at that moment. -/
  | indexOutOfBounds (operation : IndexedOperation) (index length : Nat)
  /-- An entry was to be taken from an empty list. -/
  | emptyTimeline (operation : PopOperation)
  /-- An edit script met a list that it was not built for. -/
  | diverged (divergence : Divergence)
  /-- The result would hold an identifier twice. -/
  | duplicateId (uniqueId : EntryId)
  /-- A raw item makes no envelope. -/
  | invalidItem (fault : EnvelopeFault)
  deriving DecidableEq

/-- The wording of a batch fault. -/
def BatchFault.message : BatchFault → String
  | .indexOutOfBounds operation index length =>
    s!"{operation.name} index {index} is out of bounds for a timeline of {length} items"
  | .emptyTimeline operation => s!"{operation.name} on an empty timeline"
  | .diverged divergence => s!"edit script diverged from the timeline: {divergence.message}"
  | .duplicateId uniqueId => s!"unique ID {uniqueId.text} appears twice in the timeline"
  | .invalidItem fault => fault.message

end RoomTimeline
