import RoomTimeline.Envelope.Printer
import RoomTimeline.Grouping
import RoomTimeline.Pagination.Machine

/-!
# Snapshots and updates

A snapshot is what readers get: the entries shown, each with its position in its block, and the
pagination status at the same moment. `updatesBetween` says how one sequence of entries differs
from the one before it, entry by entry, where entries are matched by identifier.
-/

namespace RoomTimeline

/-- An entry as it is shown. -/
structure Entry where
  envelope : Envelope
  group : GroupPosition

namespace Entry

/-- The identifier of the entry. -/
def uniqueId (entry : Entry) : EntryId := entry.envelope.uniqueId

/-- Whether two entries are the same making in the same position of a block. -/
def unchanged (first second : Entry) : Bool :=
  first.envelope.serial == second.envelope.serial && first.group == second.group

/-- An entry is written with its position. -/
def toJson (entry : Entry) : Json :=
  .object [("item", entry.envelope.toJson), ("group", .string entry.group.name)]

end Entry

/-- What is shown at one moment. -/
structure Snapshot where
  entries : List Entry
  pagination : PaginationPair

namespace Snapshot

/-- The identifiers of the entries. -/
def ids (snapshot : Snapshot) : List EntryId := snapshot.entries.map Entry.uniqueId

/-- The place of the first entry with an identifier. -/
def position? (snapshot : Snapshot) (id : EntryId) : Option Nat :=
  snapshot.entries.findIdx? fun entry => entry.uniqueId = id

/-- A snapshot is written with its entries and the pagination status. -/
def toJson (snapshot : Snapshot) : Json :=
  .object [
    ("items", .array (snapshot.entries.map Entry.toJson)),
    ("pagination", snapshot.pagination.toJson)]

/-- The compact text of a snapshot. -/
def render (snapshot : Snapshot) : String := snapshot.toJson.render

end Snapshot

/-- A notification about one difference. -/
inductive Update where
  | removed (uniqueId : EntryId)
  | inserted (index : Nat) (uniqueId : EntryId)
  /-- The same identifier, with another making or in another position of a block. -/
  | changed (index : Nat) (uniqueId : EntryId)
  /-- All updates about entries have been sent; the sequence has this length now. -/
  | entries (length : Nat)
  | pagination (pair : PaginationPair)
  | paginationFailed (fault : PaginationFault) (direction : Direction)
  deriving DecidableEq

/-- The last entry with an identifier. -/
def lastWith? (entries : List Entry) (id : EntryId) : Option Entry :=
  entries.reverse.find? fun entry => entry.uniqueId = id

/-- What became of the entry at a place: it is new, it changed, or nothing needs to be said. -/
def updateAt? (previous : List Entry) (index : Nat) (entry : Entry) : Option Update :=
  match lastWith? previous entry.uniqueId with
  | none => some (.inserted index entry.uniqueId)
  | some old => if old.unchanged entry then none else some (.changed index entry.uniqueId)

/-- The updates from one sequence to the next: first the entries that are gone, in their old
    order, then those that are new or changed, in their new order. -/
def updatesBetween (previous next : List Entry) : List Update :=
  (previous.filter fun entry => ¬ next.any fun other => other.uniqueId = entry.uniqueId).map
      (fun entry => .removed entry.uniqueId) ++
    (next.zipIdx.filterMap fun (entry, index) => updateAt? previous index entry)

/-- The updates from one snapshot to the next. A note on the length follows if any entry was
    named, and a note on the pagination status if it moved. -/
def Snapshot.updates (previous next : Snapshot) : List Update :=
  let named := updatesBetween previous.entries next.entries
  named ++
    (if named = [] then [] else [.entries next.entries.length]) ++
    (if previous.pagination = next.pagination then [] else [.pagination next.pagination])

end RoomTimeline
