import RoomTimeline.Json.Value

/-!
# Reactions to an event

The source reports reactions one by one. They are shown as a summary: keys in the order in which
they first appeared, under each key its senders in the order in which they first used it, and
with each sender the time of that first use.
-/

namespace RoomTimeline

/-- One reaction as the source reports it. -/
structure Reaction where
  key : String
  sender : String
  timestamp : UInt64
  deriving DecidableEq

/-- Pairs in the order of insertion, at most one for each key. -/
abbrev Ordered (α : Type) := List (String × α)

namespace Ordered

/-- Change the value under a key, or enter a new last pair. -/
def update {α : Type} (key : String) (change : Option α → α) : Ordered α → Ordered α
  | [] => [(key, change none)]
  | (name, value) :: rest =>
    if name = key then (name, change (some value)) :: rest
    else (name, value) :: update key change rest

end Ordered

/-- Reactions by key and by sender. -/
abbrev ReactionSummary := Ordered (Ordered UInt64)

namespace ReactionSummary

/-- Enter one reaction. A sender who used the key before keeps the earlier time. -/
def add (summary : ReactionSummary) (reaction : Reaction) : ReactionSummary :=
  Ordered.update reaction.key
    (fun senders => Ordered.update reaction.sender
      (fun earlier => earlier.getD reaction.timestamp) (senders.getD []))
    summary

/-- The summary of a list of reactions. -/
def ofReactions (reactions : List Reaction) : ReactionSummary := reactions.foldl add []

/-- The keys in the order of their first appearance. -/
def keys (summary : ReactionSummary) : List String := summary.map Prod.fst

/-- The number of senders under a key, zero for a key that nobody used. -/
def count (key : String) (summary : ReactionSummary) : Nat :=
  ((summary.lookup key).map List.length).getD 0

/-- A summary is written as an object of objects, in its own order. -/
def toJson (summary : ReactionSummary) : Json :=
  .object (summary.map fun (key, senders) =>
    (key, .object (senders.map fun (sender, timestamp) => (sender, Json.nat timestamp.toNat))))

end ReactionSummary

end RoomTimeline
