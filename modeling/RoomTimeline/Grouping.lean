import RoomTimeline.Envelope
import RoomTimeline.Moment

/-!
# Blocks of one sender

Neighbouring events of one sender may be drawn as one block. Whether they are is decided link by
link: `links` holds one answer for each pair of neighbours, and the position of an entry in its
block is looked up there, from the links on its two sides alone.
-/

namespace RoomTimeline

/-- Where an entry sits in its block. -/
inductive GroupPosition where
  | single
  | beginning
  | middle
  | finish
  deriving DecidableEq

/-- The name of a position. -/
def GroupPosition.name : GroupPosition → String
  | .single => "single"
  | .beginning => "beginning"
  | .middle => "middle"
  | .finish => "end"

/-- Whether an entry may share a block with the next one. A policy is asked only about two
    events of one sender. -/
abbrev GroupingPolicy := Envelope → Envelope → Bool

namespace GroupingPolicy

/-- Whether two timestamps are moments that lie no further apart than a number of
    milliseconds. -/
def within (limit first second : UInt64) : Bool :=
  (Moment.ofMilliseconds? first).any fun start =>
    (Moment.ofMilliseconds? second).any fun finish =>
      (start.gap finish).atMost (.ofMilliseconds limit)

/-- Messages share a block unless one of them is shown as a notice, the earlier one has
    reactions, which close the block, or they lie further apart than `maxGap` milliseconds. -/
def ordinary (maxGap : Option UInt64) : GroupingPolicy := fun earlier later =>
  match earlier.event?, later.event? with
  | some first, some second =>
    !first.content.isStateLike && !second.content.isStateLike && earlier.reactions.isEmpty &&
      match maxGap with
      | some limit => within limit first.timestamp second.timestamp
      | none => true
  | _, _ => false

/-- Every entry stands alone. -/
def never : GroupingPolicy := fun _ _ => false

/-- Every two events of one sender share a block. -/
def always : GroupingPolicy := fun _ _ => true

/-- Entries share a block as long as their identifiers ascend. -/
def ascendingId : GroupingPolicy := fun earlier later =>
  earlier.uniqueId.text < later.uniqueId.text

end GroupingPolicy

/-- Whether two neighbours share a block: both must be events of one sender, and the policy must
    agree. -/
def canGroup (policy : GroupingPolicy) (earlier later : Envelope) : Bool :=
  match earlier.event?, later.event? with
  | some first, some second =>
    first.sender.userId == second.sender.userId && policy earlier later
  | _, _ => false

/-- A test's answer for each pair of neighbours. -/
def neighbours (test : Envelope → Envelope → Bool) : List Envelope → List Bool
  | earlier :: later :: rest => test earlier later :: neighbours test (later :: rest)
  | _ => []

/-- The links between the neighbours of a sequence. -/
def links (policy : GroupingPolicy) : List Envelope → List Bool := neighbours (canGroup policy)

/-- The position of an entry whose neighbours are linked to it or not. There is no neighbour
    where the answer is none. -/
def classify : Option Bool → Option Bool → GroupPosition
  | some true, some true => .middle
  | some true, _ => .finish
  | _, some true => .beginning
  | _, _ => .single

/-- The position of the entry in a place of a sequence with some links. No link stands before the
    first entry, and none behind the last. -/
def positionAt (links : List Bool) (place : Nat) : GroupPosition :=
  let before := match place with
    | 0 => none
    | link + 1 => links[link]?
  classify before links[place]?

/-- The positions of a whole sequence. -/
def classifyAll (policy : GroupingPolicy) (entries : List Envelope) : List GroupPosition :=
  let links := links policy entries
  (List.range entries.length).map (positionAt links)

/-- Every entry gets one position. -/
@[simp] theorem length_classifyAll (policy : GroupingPolicy) (entries : List Envelope) :
    (classifyAll policy entries).length = entries.length := by
  unfold classifyAll
  rw [List.length_map, List.length_range]

end RoomTimeline
