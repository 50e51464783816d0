import RoomTimeline.Proofs.SenderBlocks
import RoomTimeline.Render

/-!
# The grouping limit is exact

A configuration is given its limit as a span, keeps it as whole milliseconds of sixty-four bits, and
the policy makes a span of them again; the timestamps become moments, and what lies between two
moments comes out of an answer or of an error, depending on their order. Counted in nanoseconds, all
of these steps but the first are exact, and what the first cuts off or caps is never decisive:
timestamps are whole milliseconds, and no two of them lie further apart than sixty-four bits count
(`canGroup_ordinary_iff_apart_atMost`).
-/

namespace RoomTimeline

/-! ## Counting nanoseconds -/

/-- The length of a span in nanoseconds. -/
def TimeSpan.ticks (span : TimeSpan) : Nat :=
  span.seconds.toNat * 1000000000 + span.nanoseconds.toNat

/-- A span counts a number of nanoseconds, as many of them as it can in seconds. -/
def TimeSpan.Counts (span : TimeSpan) (ticks : Nat) : Prop :=
  span.seconds.toNat = ticks / 1000000000 ∧ span.nanoseconds.toNat = ticks % 1000000000

/-- The distance of a moment from the epoch in nanoseconds, negative before it. -/
def Moment.ticks (moment : Moment) : Int :=
  moment.seconds.toInt * 1000000000 + moment.nanoseconds.toNat

namespace TimeSpan

/-- Milliseconds make a span of that many millions of nanoseconds, without loss. -/
theorem ofMilliseconds_counts (count : UInt64) :
    (ofMilliseconds count).Counts (count.toNat * 1000000) := by
  have seconds : (ofMilliseconds count).seconds.toNat = count.toNat / 1000 := by
    simp [ofMilliseconds]
  have nanoseconds : (ofMilliseconds count).nanoseconds.toNat = count.toNat % 1000 * 1000000 := by
    simp only [ofMilliseconds, UInt32.toNat_mul, UInt64.toNat_toUInt32, UInt64.toNat_mod,
      UInt64.reduceToNat, UInt32.reduceToNat]
    omega
  unfold Counts
  omega

/-- Spans are compared by what they count. -/
theorem atMost_iff {span limit : TimeSpan} {few many : Nat} (counts : span.Counts few)
    (countsLimit : limit.Counts many) : span.atMost limit = true ↔ few ≤ many := by
  unfold Counts at counts countsLimit
  simp only [atMost, Bool.or_eq_true, Bool.and_eq_true, decide_eq_true_eq, beq_iff_eq,
    UInt64.lt_iff_toNat_lt, ← UInt64.toNat_inj, UInt32.le_iff_toNat_le]
  omega

/-- Whole milliseconds within a span are within what a configuration keeps of it. The nanoseconds
behind its last millisecond hold none, and the cap lies above all milliseconds there are. -/
theorem le_milliseconds_iff (span : TimeSpan) (count : UInt64) :
    count ≤ span.milliseconds ↔ count.toNat * 1000000 ≤ span.ticks := by
  have below : count.toNat < 2 ^ 64 := count.toNat_lt
  rw [UInt64.le_iff_toNat_le]
  unfold milliseconds ticks
  by_cases fits : span.seconds.toNat * 1000 + span.nanoseconds.toNat / 1000000 < UInt64.size
  · rw [UInt64.toNat_ofNatClamp_of_lt fits]
    omega
  · rw [UInt64.ofNatClamp, dif_neg fits]
    have capped : (UInt64.ofNatLT (UInt64.size - 1) (by decide)).toNat = 2 ^ 64 - 1 := rfl
    rw [capped]
    simp only [UInt64.size] at fits
    omega

end TimeSpan

namespace Moment

/-- The fraction of a moment is less than a second. -/
theorem nanoseconds_lt (moment : Moment) : moment.nanoseconds.toNat < 1000000000 :=
  UInt32.lt_iff_toNat_lt.mp moment.fraction

/-- Moments are ordered by what they count. -/
theorem notAfter_iff (earlier later : Moment) :
    earlier.notAfter later = true ↔ earlier.ticks ≤ later.ticks := by
  have fraction := earlier.nanoseconds_lt
  have laterFraction := later.nanoseconds_lt
  simp only [notAfter, ticks, Bool.or_eq_true, Bool.and_eq_true, decide_eq_true_eq, beq_iff_eq,
    Int64.lt_iff_toInt_lt, ← Int64.toInt_inj, UInt32.le_iff_toNat_le]
  omega

/-- The span up to a later moment counts what lies between. -/
theorem upTo_counts {earlier later : Moment} (ordered : earlier.ticks ≤ later.ticks) :
    (earlier.upTo later).Counts (later.ticks - earlier.ticks).toNat := by
  have fraction := earlier.nanoseconds_lt
  have laterFraction := later.nanoseconds_lt
  have lowest := earlier.seconds.le_toInt
  have highest := later.seconds.toInt_lt
  unfold ticks at ordered
  unfold upTo TimeSpan.Counts ticks
  by_cases enough : earlier.nanoseconds ≤ later.nanoseconds
  · have fractions := UInt32.le_iff_toNat_le.mp enough
    simp only [if_pos enough, UInt32.toNat_sub_of_le _ _ enough]
    rw [UInt64.toNat_ofNat_of_lt' (by simp only [UInt64.size]; omega)]
    omega
  · have fractions : later.nanoseconds.toNat < earlier.nanoseconds.toNat :=
      Nat.lt_of_not_le fun same => enough (UInt32.le_iff_toNat_le.mpr same)
    have carried : (later.nanoseconds + 1000000000).toNat =
        later.nanoseconds.toNat + 1000000000 := by
      simp only [UInt32.toNat_add, UInt32.reduceToNat]
      omega
    have lent : earlier.nanoseconds ≤ later.nanoseconds + 1000000000 := by
      rw [UInt32.le_iff_toNat_le, carried]
      omega
    simp only [if_neg enough, UInt32.toNat_sub_of_le _ _ lent, carried]
    rw [UInt64.toNat_ofNat_of_lt' (by simp only [UInt64.size]; omega)]
    omega

/-- The span between two moments counts what lies between them, whichever comes first. -/
theorem gap_counts (first second : Moment) :
    (first.gap second).Counts (second.ticks - first.ticks).natAbs := by
  unfold gap since
  by_cases ordered : first.notAfter second = true
  · have ascends := (notAfter_iff first second).mp ordered
    have same : (second.ticks - first.ticks).natAbs = (second.ticks - first.ticks).toNat := by omega
    rw [if_pos ordered, same]
    exact upTo_counts ascends
  · have descends : second.ticks ≤ first.ticks :=
      Int.le_of_not_le fun ascends => ordered ((notAfter_iff first second).mpr ascends)
    have same : (second.ticks - first.ticks).natAbs = (first.ticks - second.ticks).toNat := by omega
    rw [if_neg ordered, same]
    exact upTo_counts descends

/-- Every timestamp is a moment, and counts there what it counts itself: sixty-four bits of
milliseconds are fewer seconds than a moment can hold. -/
theorem ofMilliseconds?_counts (timestamp : UInt64) :
    ∃ moment, ofMilliseconds? timestamp = some moment ∧
      moment.ticks = timestamp.toNat * 1000000 := by
  obtain ⟨seconds, nanoseconds⟩ := TimeSpan.ofMilliseconds_counts timestamp
  have below : timestamp.toNat < 2 ^ 64 := timestamp.toNat_lt
  unfold ofMilliseconds? plus?
  have start : epoch.seconds.toInt = 0 ∧ epoch.nanoseconds.toNat = 0 := ⟨by decide, rfl⟩
  rw [start.1, start.2, seconds, nanoseconds]
  simp only [Int64.toInt_maxValue]
  rw [if_pos (by omega)]
  refine ⟨_, rfl, ?_⟩
  simp only [ticks]
  rw [Int64.toInt_ofInt_of_le (by omega) (by omega),
    UInt32.toNat_ofNat_of_lt' (by simp only [UInt32.size]; omega)]
  omega

end Moment

/-! ## Deciding about two events -/

/-- The milliseconds between two timestamps, whichever is the later one. -/
def distance (first second : UInt64) : Nat := Int.natAbs (first.toNat - second.toNat)

/-- Between the moments of two timestamps lie the milliseconds between the timestamps. -/
theorem gap_counts_distance {first second : UInt64} {start finish : Moment}
    (begins : start.ticks = first.toNat * 1000000)
    (ends : finish.ticks = second.toNat * 1000000) :
    (start.gap finish).Counts (distance first second * 1000000) := by
  have same : (finish.ticks - start.ticks).natAbs = distance first second * 1000000 := by
    unfold distance
    omega
  exact same ▸ Moment.gap_counts start finish

/-- Timestamps are within a limit just if their distance is. -/
theorem GroupingPolicy.within_iff (limit first second : UInt64) :
    within limit first second = true ↔ distance first second ≤ limit.toNat := by
  obtain ⟨start, isStart, begins⟩ := Moment.ofMilliseconds?_counts first
  obtain ⟨finish, isFinish, ends⟩ := Moment.ofMilliseconds?_counts second
  rw [within, isStart, isFinish, Option.any_some, Option.any_some,
    TimeSpan.atMost_iff (gap_counts_distance begins ends) (TimeSpan.ofMilliseconds_counts limit)]
  exact Nat.mul_le_mul_right_iff (by decide)

/-- What a configuration keeps of a span limits distances as the span does. -/
theorem distance_le_milliseconds_iff (span : TimeSpan) (first second : UInt64) :
    distance first second ≤ span.milliseconds.toNat ↔
      distance first second * 1000000 ≤ span.ticks := by
  have below : distance first second < UInt64.size := by
    have firstBelow := first.toNat_lt
    have secondBelow := second.toNat_lt
    simp only [UInt64.size]
    unfold distance
    omega
  have exact := span.le_milliseconds_iff (UInt64.ofNat (distance first second))
  rwa [UInt64.le_iff_toNat_le, UInt64.toNat_ofNat_of_lt' below] at exact

/-- The ordinary policy links two messages of one sender, the earlier one without reactions, by the
limit alone. -/
theorem canGroup_ordinary (limit : UInt64) {earlier later : Envelope} {first second : Event}
    (isFirst : earlier.event? = some first) (isSecond : later.event? = some second)
    (oneSender : first.sender.userId = second.sender.userId)
    (saidFirst : first.content.isStateLike = false)
    (saidSecond : second.content.isStateLike = false) (unanswered : earlier.reactions = []) :
    canGroup (.ordinary (some limit)) earlier later =
      GroupingPolicy.within limit first.timestamp second.timestamp := by
  simp [canGroup, GroupingPolicy.ordinary, isFirst, isSecond, oneSender, saidFirst, saidSecond,
    unanswered]

/-- A remark made at some time, as an entry. -/
def remarkAt (timestamp : UInt64) : Envelope :=
  .event ⟨0, ⟨"a"⟩, none, [], ""⟩ ⟨.event "a", timestamp, .ofUserId "b", .message (.ofText "c")⟩

/-- The ordinary policy under a limit. -/
def limitedTo (span : TimeSpan) : GroupingPolicy :=
  .ordinary ((Config.ofKind .live).withGroupingMaxGap span).groupingMaxGapMs

/-- With a limit that a configuration was given, two events of one sender that are shown as
messages, the earlier one without reactions, share a block just if their timestamps lie no further
apart than the limit says, down to its last nanosecond and whichever timestamp is the later one.
- On the way there both timestamps are moments, the span between these counts the distance of the
  timestamps, and the whole milliseconds of the limit fit in a hundred and twenty-eight bits.
- The policy that decides so is the one in force, unless the timeline shows pinned events. -/
theorem canGroup_ordinary_iff_apart_atMost (config : Config) (span : TimeSpan)
    {earlier later : Envelope} {first second : Event}
    (isFirst : earlier.event? = some first) (isSecond : later.event? = some second)
    (oneSender : first.sender.userId = second.sender.userId)
    (saidFirst : first.content.isStateLike = false)
    (saidSecond : second.content.isStateLike = false) (unanswered : earlier.reactions = []) :
    (canGroup (.ordinary (config.withGroupingMaxGap span).groupingMaxGapMs) earlier later = true ↔
      distance first.timestamp second.timestamp * 1000000 ≤ span.ticks) ∧
    (∃ start finish,
      Moment.ofMilliseconds? first.timestamp = some start ∧
      Moment.ofMilliseconds? second.timestamp = some finish ∧
      start.ticks = first.timestamp.toNat * 1000000 ∧
      finish.ticks = second.timestamp.toNat * 1000000 ∧
      (start.gap finish).Counts (distance first.timestamp second.timestamp * 1000000)) ∧
    span.seconds.toNat * 1000 + span.nanoseconds.toNat / 1000000 < UInt64.size * UInt64.size ∧
    (config.kind.isPinned = false →
      (config.withGroupingMaxGap span).policy none =
        .ordinary (config.withGroupingMaxGap span).groupingMaxGapMs) := by
  have seconds : span.seconds.toNat < 2 ^ 64 := span.seconds.toNat_lt
  have nanoseconds : span.nanoseconds.toNat < 2 ^ 32 := span.nanoseconds.toNat_lt
  obtain ⟨start, isStart, begins⟩ := Moment.ofMilliseconds?_counts first.timestamp
  obtain ⟨finish, isFinish, ends⟩ := Moment.ofMilliseconds?_counts second.timestamp
  have decided : canGroup (.ordinary (config.withGroupingMaxGap span).groupingMaxGapMs)
      earlier later = GroupingPolicy.within span.milliseconds first.timestamp second.timestamp :=
    canGroup_ordinary span.milliseconds isFirst isSecond oneSender saidFirst saidSecond unanswered
  refine ⟨?_, ⟨start, finish, isStart, isFinish, begins, ends, gap_counts_distance begins ends⟩,
    by simp only [UInt64.size]; omega, ?_⟩
  · rw [decided, GroupingPolicy.within_iff, distance_le_milliseconds_iff]
  · intro unpinned
    simp [Config.policy, Config.withGroupingMaxGap, unpinned]

/-- Under a limit that is not made of whole milliseconds, and under limits as long as all time there
is, the last nanosecond decides. No two timestamps lie further apart than the longest span. -/
theorem canGroup_ordinary_iff_apart_atMost_at_the_ends :
    canGroup (limitedTo ⟨0, 999999⟩) (remarkAt 7) (remarkAt 7) = true ∧
    canGroup (limitedTo ⟨0, 999999⟩) (remarkAt 7) (remarkAt 8) = false ∧
    canGroup (limitedTo ⟨0, 1000000⟩) (remarkAt 8) (remarkAt 7) = true ∧
    canGroup (limitedTo ⟨18446744073709551, 615000000⟩)
      (remarkAt 18446744073709551615) (remarkAt 0) = true ∧
    canGroup (limitedTo ⟨18446744073709551, 614999999⟩)
      (remarkAt 18446744073709551615) (remarkAt 0) = false ∧
    canGroup (limitedTo ⟨18446744073709551615, 999999999⟩)
      (remarkAt 0) (remarkAt 18446744073709551615) = true := by
  have isEvent : ∀ timestamp, (remarkAt timestamp).event? =
      some ⟨.event "a", timestamp, .ofUserId "b", .message (.ofText "c")⟩ := fun _ => rfl
  have decided : ∀ span first second,
      canGroup (limitedTo span) (remarkAt first) (remarkAt second) = true ↔
        distance first second * 1000000 ≤ span.ticks := by
    intro span first second
    exact (canGroup_ordinary_iff_apart_atMost (.ofKind .live) span (isEvent first)
      (isEvent second) rfl rfl rfl rfl).1
  simp only [← Bool.not_eq_true, decided]
  decide

end RoomTimeline
