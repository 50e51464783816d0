import RoomTimeline.Batch.Fault
import RoomTimeline.Pagination.Machine

/-!
# Faults as users see them

Whatever goes wrong reaches the user as one line of text, and is written to documents as that
line alone.
-/

namespace RoomTimeline

/-- A fault of any part of the timeline. -/
inductive Fault where
  | batch (fault : BatchFault)
  | pagination (fault : PaginationFault)
  /-- A fault from elsewhere, and what was being done when it came up, if that is known. -/
  | other (reason : String) (context : Option String)
  deriving DecidableEq

namespace Fault

/-- The wording of a fault. A known context stands in for the reason. -/
def message : Fault → String
  | .batch fault => fault.message
  | .pagination fault => fault.message
  | .other reason context => context.getD reason

/-- A fault is written as its wording. -/
def toJson (fault : Fault) : Json := .string fault.message

end Fault

end RoomTimeline
