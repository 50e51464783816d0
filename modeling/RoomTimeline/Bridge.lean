import RoomTimeline.Identity

/-!
# Events for listeners

Listeners hear of membership changes. The bridge keeps a bounded number of the newest events and
remembers for each listener how far it has heard; a listener that was too slow is told how many
events it missed before it goes on with the oldest one kept. Emitting never waits for anyone.
-/

namespace RoomTimeline

/-- What listeners hear of. -/
inductive TimelineEvent where
  | membershipChanged (uniqueId : EntryId)
  deriving DecidableEq

/-- What a listener hears: an event, or how many events it came too late for. -/
inductive Heard where
  | event (event : TimelineEvent)
  | lagged (missed : Nat)
  deriving DecidableEq

/-- The newest events and the place of each listener among all events ever emitted. -/
structure Bridge where
  capacity : Nat
  /-- How many events have been emitted. -/
  emitted : Nat
  /-- The newest events, oldest first. -/
  kept : List TimelineEvent
  /-- For each listener the number of events before the next one it will hear. -/
  listeners : List Nat

namespace Bridge

/-- A bridge for a wished capacity, which is rounded up to a power of two and never zero. -/
def ofCapacity (wished : Nat) : Bridge :=
  ⟨(max wished 1).nextPowerOfTwo, 0, [], []⟩

/-- A new listener hears what is emitted from now on. -/
def listen (bridge : Bridge) : Bridge :=
  { bridge with listeners := bridge.listeners ++ [bridge.emitted] }

/-- Emit an event; the oldest ones beyond the capacity are dropped. -/
def emit (bridge : Bridge) (event : TimelineEvent) : Bridge :=
  let kept := bridge.kept ++ [event]
  { bridge with
    emitted := bridge.emitted + 1
    kept := kept.drop (kept.length - bridge.capacity) }

/-- Emit events in order. -/
def emitAll (bridge : Bridge) (events : List TimelineEvent) : Bridge := events.foldl emit bridge

/-- What a listener at a place hears when it listens up to now. -/
def heardFrom (bridge : Bridge) (place : Nat) : List Heard :=
  let oldest := bridge.emitted - bridge.kept.length
  let missed := oldest - place
  (if missed = 0 then [] else [.lagged missed]) ++
    (bridge.kept.drop (place - oldest)).map .event

/-- What a listener hears up to now, and the bridge after that. An unknown listener hears
    nothing. -/
def hear (bridge : Bridge) (listener : Nat) : List Heard × Bridge :=
  match bridge.listeners[listener]? with
  | none => ([], bridge)
  | some place =>
    (bridge.heardFrom place,
      { bridge with listeners := bridge.listeners.set listener bridge.emitted })

/-- What each listener hears up to now, and the bridge after that. -/
def hearAll (bridge : Bridge) : List (List Heard) × Bridge :=
  (bridge.listeners.map bridge.heardFrom,
    { bridge with listeners := bridge.listeners.map fun _ => bridge.emitted })

end Bridge

end RoomTimeline
