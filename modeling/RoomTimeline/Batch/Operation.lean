import RoomTimeline.Envelope

/-!
# Operations and batches

The source describes how its list of raw items changed by operations, and delivers them in
batches. An operation is meant against the list that the operations before it have left; a
batch is taken as a whole or not at all.
-/

namespace RoomTimeline

/-- One change of the list, as the source delivers it. -/
inductive Operation where
  | append (raws : List RawItem)
  | clear
  | pushFront (raw : RawItem)
  | pushBack (raw : RawItem)
  | popFront
  | popBack
  | insert (index : Nat) (raw : RawItem)
  | set (index : Nat) (raw : RawItem)
  | remove (index : Nat)
  | truncate (length : Nat)
  | reset (raws : List RawItem)

/-- Operations that belong together, in the order in which they apply. -/
abbrev Batch := List Operation

namespace Operation

/-- The number of raw items that the operation brings. -/
def carried : Operation → Nat
  | .append raws | .reset raws => raws.length
  | .pushFront _ | .pushBack _ | .insert _ _ | .set _ _ => 1
  | .clear | .popFront | .popBack | .remove _ | .truncate _ => 0

/-- Whether the operation starts the list anew. -/
def isReset : Operation → Bool
  | .reset _ => true
  | _ => false

/-- The short form of an operation in logs: its name and its count or index. -/
def describe : Operation → String
  | .append raws => s!"Append({raws.length})"
  | .clear => "Clear"
  | .pushFront _ => "PushFront"
  | .pushBack _ => "PushBack"
  | .popFront => "PopFront"
  | .popBack => "PopBack"
  | .insert index _ => s!"Insert({index})"
  | .set index _ => s!"Set({index})"
  | .remove index => s!"Remove({index})"
  | .truncate length => s!"Truncate({length})"
  | .reset raws => s!"Reset({raws.length})"

end Operation

/-- The short form of a batch in logs. -/
def Batch.describe (batch : Batch) : String :=
  "[" ++ ",".intercalate (batch.map Operation.describe) ++ "]"

end RoomTimeline
