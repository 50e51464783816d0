/-!
# Spans of time and moments

A span counts seconds and nanoseconds without a sign. A moment lies before or after the epoch.
Events are dated by a number of milliseconds since the epoch; how far apart two of them lie is
the span between their moments.
-/

namespace RoomTimeline

/-- A span of time. The nanoseconds may exceed a second. -/
structure TimeSpan where
  seconds : UInt64
  nanoseconds : UInt32
  deriving DecidableEq

namespace TimeSpan

/-- The whole milliseconds of a span, or the most that sixty-four bits hold. -/
def milliseconds (span : TimeSpan) : UInt64 :=
  UInt64.ofNatClamp (span.seconds.toNat * 1000 + span.nanoseconds.toNat / 1000000)

/-- The span of a number of milliseconds. -/
def ofMilliseconds (count : UInt64) : TimeSpan :=
  ⟨count / 1000, (count % 1000).toUInt32 * 1000000⟩

/-- Compare two spans by their seconds, and by their nanoseconds where the seconds agree. -/
def atMost (span limit : TimeSpan) : Bool :=
  span.seconds < limit.seconds ||
    (span.seconds == limit.seconds && span.nanoseconds ≤ limit.nanoseconds)

end TimeSpan

/-- A point in time: the whole seconds since the epoch, negative before it, and the fraction of
    a second after them. -/
structure Moment where
  seconds : Int64
  nanoseconds : UInt32
  fraction : nanoseconds < 1000000000

namespace Moment

/-- The moment from which all others are counted. -/
def epoch : Moment := ⟨0, 0, by decide⟩

/-- What is left of a number of nanoseconds behind its whole seconds is a fraction of a second. -/
theorem fraction_mod (nanoseconds : Nat) :
    UInt32.ofNat (nanoseconds % 1000000000) < 1000000000 := by
  have below : nanoseconds % 1000000000 < 1000000000 := Nat.mod_lt _ (by decide)
  rwa [UInt32.lt_iff_toNat_lt, UInt32.toNat_ofNat_of_lt' (Nat.lt_trans below (by decide))]

/-- The moment a span later, if its seconds can still be counted. -/
def plus? (moment : Moment) (span : TimeSpan) : Option Moment :=
  let nanoseconds := moment.nanoseconds.toNat + span.nanoseconds.toNat
  let seconds := moment.seconds.toInt + span.seconds.toNat + nanoseconds / 1000000000
  if seconds ≤ Int64.maxValue.toInt then
    some ⟨Int64.ofInt seconds, UInt32.ofNat (nanoseconds % 1000000000), fraction_mod nanoseconds⟩
  else none

/-- The moment of an event, which is dated in milliseconds. -/
def ofMilliseconds? (timestamp : UInt64) : Option Moment :=
  epoch.plus? (.ofMilliseconds timestamp)

/-- Whether a moment does not lie behind another. -/
def notAfter (earlier later : Moment) : Bool :=
  earlier.seconds < later.seconds ||
    (earlier.seconds == later.seconds && earlier.nanoseconds ≤ later.nanoseconds)

/-- The span up to a moment that does not lie before. One second is borrowed where the fraction
    of the later moment is the smaller one. -/
def upTo (earlier later : Moment) : TimeSpan :=
  let seconds := later.seconds.toInt - earlier.seconds.toInt
  if earlier.nanoseconds ≤ later.nanoseconds then
    ⟨UInt64.ofNat seconds.toNat, later.nanoseconds - earlier.nanoseconds⟩
  else
    ⟨UInt64.ofNat (seconds - 1).toNat,
      later.nanoseconds + 1000000000 - earlier.nanoseconds⟩

/-- The span from one moment to another. If the other lies before, the span in the opposite
    direction is the error. -/
def since (moment start : Moment) : Except TimeSpan TimeSpan :=
  if start.notAfter moment then .ok (start.upTo moment) else .error (moment.upTo start)

/-- The span between two moments, in either order. -/
def gap (first second : Moment) : TimeSpan :=
  match second.since first with
  | .ok span => span
  | .error span => span

end Moment

end RoomTimeline
