import Mathlib.Data.List.Nodup
import RoomTimeline.Proofs.Batch.News

/-!
# What a batch leaves of a collection

Every envelope has the number of its making. In a collection that is numbered below some bound,
and in which no number repeats, numbers tell entries apart, and a batch whose new entries are
numbered from the bound on keeps it so (`numbered_replay`): below the bound are the entries that
survived, which stand in their old order, and the rest are new. No entry ever comes back once it is
gone: what the source sends again is made again (`survivors_replay`).
-/

namespace RoomTimeline

/-- No number repeats, and all of them are below a bound. -/
structure Numbered (bound : Nat) (entries : List Envelope) : Prop where
  distinct : (entries.map Envelope.serial).Nodup
  below : ∀ entry ∈ entries, entry.serial < bound

namespace Numbered

variable {bound : Nat} {entries : List Envelope}

/-- Two entries of a numbered list that have the same number are the same entry. -/
theorem eq_of_serial (numbered : Numbered bound entries) {first second : Envelope}
    (member : first ∈ entries) (otherMember : second ∈ entries)
    (same : first.serial = second.serial) : first = second :=
  List.inj_on_of_nodup_map numbered.distinct member otherMember same

/-- A list that is numbered below a bound is numbered below any higher one. -/
theorem mono {higher : Nat} (numbered : Numbered bound entries) (above : bound ≤ higher) :
    Numbered higher entries :=
  ⟨numbered.distinct, fun entry member => Nat.lt_of_lt_of_le (numbered.below entry member) above⟩

/-- Any sublist of a numbered list is numbered below the same bound. -/
theorem sublist {part : List Envelope} (numbered : Numbered bound entries)
    (inside : part.Sublist entries) : Numbered bound part :=
  ⟨numbered.distinct.sublist (inside.map _),
    fun entry member => numbered.below entry (inside.subset member)⟩

/-- Two numbered lists that have no number in common are numbered when they are put together. -/
theorem append {others : List Envelope} (numbered : Numbered bound entries)
    (othersNumbered : Numbered bound others)
    (apart : ∀ entry ∈ entries, ∀ other ∈ others, entry.serial ≠ other.serial) :
    Numbered bound (entries ++ others) := by
  constructor
  · rw [List.map_append]
    refine List.Nodup.append numbered.distinct othersNumbered.distinct ?_
    intro serial inFirst inSecond
    obtain ⟨entry, member, rfl⟩ := List.mem_map.mp inFirst
    obtain ⟨other, otherMember, same⟩ := List.mem_map.mp inSecond
    exact apart entry member other otherMember same.symm
  · intro entry member
    rcases List.mem_append.mp member with member | member
    · exact numbered.below entry member
    · exact othersNumbered.below entry member

/-- A list that is numbered is so in any order. -/
theorem perm {others : List Envelope} (numbered : Numbered bound entries)
    (same : entries.Perm others) : Numbered bound others :=
  ⟨(same.map Envelope.serial).nodup_iff.mp numbered.distinct,
    fun entry member => numbered.below entry (same.mem_iff.mpr member)⟩

end Numbered

/-! ## One operation -/

/-- Fresh envelopes are numbered upwards from the first number, one for each raw item at most. -/
theorem fresh_serials (serial : Nat) (raws : List RawItem) :
    ((fresh serial raws).map Envelope.serial).Sublist (List.range' serial raws.length) := by
  induction raws generalizing serial with
  | nil => exact List.nil_sublist _
  | cons raw rest inductionHypothesis =>
    have others := inductionHypothesis (serial + 1)
    rw [List.length_cons, List.range'_succ]
    cases made : Envelope.ofRaw serial raw with
    | ok envelope =>
      rw [fresh_cons made, List.map_cons, Envelope.serial_ofRaw made]
      exact others.cons_cons serial
    | error fault =>
      have skipped : fresh serial (raw :: rest) = fresh (serial + 1) rest := by
        simp [fresh, List.zipIdx_cons, made, Except.toOption]
      rw [skipped]
      exact others.cons serial

/-- Fresh envelopes are numbered from the first number up to the one behind the last. -/
theorem numbered_fresh (serial : Nat) (raws : List RawItem) :
    Numbered (serial + raws.length) (fresh serial raws) ∧
      ∀ entry ∈ fresh serial raws, serial ≤ entry.serial := by
  have serials := fresh_serials serial raws
  have inside : ∀ entry ∈ fresh serial raws,
      serial ≤ entry.serial ∧ entry.serial < serial + raws.length := fun entry member =>
    List.mem_range'_1.mp (serials.subset (List.mem_map_of_mem member))
  exact ⟨⟨List.Nodup.sublist serials (List.nodup_range' ..),
      fun entry member => (inside entry member).2⟩,
    fun entry member => (inside entry member).1⟩

/-- An operation brings as many raw items as it counts. -/
theorem Operation.length_raws (operation : Operation) :
    operation.raws.length = operation.carried := by
  cases operation <;> rfl

/-- Whatever an operation is, it puts its fresh entries side by side between two parts of what it
leaves of the list. -/
theorem Operation.edit_splice (operation : Operation) (serial : Nat) (items : List Envelope) :
    ∃ front back, operation.edit serial items = front ++ fresh serial operation.raws ++ back ∧
      (front ++ back).Sublist items := by
  cases operation with
  | append added => exact ⟨items, [], by simp [edit, raws], by simp⟩
  | clear => exact ⟨[], [], by simp [edit, raws, fresh], by simp⟩
  | pushFront raw => exact ⟨[], items, by simp [edit, raws], by simp⟩
  | pushBack raw => exact ⟨items, [], by simp [edit, raws], by simp⟩
  | popFront => exact ⟨[], items.tail, by simp [edit, raws, fresh], List.tail_sublist items⟩
  | popBack =>
    exact ⟨items.dropLast, [], by simp [edit, raws, fresh], by simp [List.dropLast_sublist]⟩
  | insert index raw => exact ⟨items.take index, items.drop index, by simp [edit, raws], by simp⟩
  | set index raw | remove index =>
    refine ⟨items.take index, items.drop (index + 1), by simp [edit, raws, fresh], ?_⟩
    have fewer : (items.drop (index + 1)).Sublist (items.drop index) := by
      rw [← List.drop_drop]
      exact List.drop_sublist 1 _
    have kept := fewer.append_left (items.take index)
    rwa [List.take_append_drop] at kept
  | truncate length => exact ⟨items, [], by simp [edit, raws, fresh], by simp⟩
  | reset added => exact ⟨[], [], by simp [edit, raws], by simp⟩

/-- A test that only accepts numbers below those of an operation's fresh entries accepts after
the operation at most what it accepted before, in the old order. -/
theorem Operation.survivors_edit (operation : Operation) {base serial : Nat} (old : base ≤ serial)
    (items : List Envelope) :
    ((operation.edit serial items).filter fun entry => entry.serial < base).Sublist
      (items.filter fun entry => entry.serial < base) := by
  obtain ⟨front, back, spliced, kept⟩ := operation.edit_splice serial items
  have noneNew : (fresh serial operation.raws).filter (fun entry => entry.serial < base) = [] := by
    refine List.filter_eq_nil_iff.mpr ?_
    intro entry member
    have above := (numbered_fresh serial operation.raws).2 entry member
    simp only [decide_eq_true_eq]
    omega
  rw [spliced, List.filter_append, List.filter_append, noneNew, List.append_nil,
    ← List.filter_append]
  exact kept.filter _

/-- After an operation the list is numbered up to behind its last fresh entry. -/
theorem Operation.numbered_edit (operation : Operation) {serial : Nat} {items : List Envelope}
    (numbered : Numbered serial items) :
    Numbered (serial + operation.carried) (operation.edit serial items) := by
  obtain ⟨front, back, spliced, kept⟩ := operation.edit_splice serial items
  obtain ⟨newNumbered, new⟩ := numbered_fresh serial operation.raws
  rw [operation.length_raws] at newNumbered
  have leftNumbered : Numbered serial (front ++ back) := numbered.sublist kept
  have joined : Numbered (serial + operation.carried)
      (front ++ back ++ fresh serial operation.raws) := by
    refine (leftNumbered.mono (Nat.le_add_right _ _)).append newNumbered ?_
    intro entry member other otherMember same
    have below := leftNumbered.below entry member
    have above := new other otherMember
    omega
  rw [spliced]
  refine joined.perm ?_
  rw [List.append_assoc, List.append_assoc]
  exact List.perm_append_comm.append_left front

/-! ## A whole batch -/

/-- After a batch the list is numbered below the first number that the batch has not used up. -/
theorem numbered_replay {serial : Nat} {items final : List Envelope} {batch : Batch}
    (numbered : Numbered serial items) (replayed : replay serial items batch = .ok final) :
    Numbered (serial + batch.carried) final := by
  induction batch generalizing serial items with
  | nil =>
    cases replayed
    exact numbered
  | cons operation rest inductionHypothesis =>
    cases turn : operation.fault? items.length with
    | some fault => simp [replay, turn] at replayed
    | none =>
      simp only [replay, turn] at replayed
      have reached := inductionHypothesis (operation.numbered_edit numbered) replayed
      have counted : serial + Batch.carried (operation :: rest) =
          serial + operation.carried + Batch.carried rest := by
        simp [Batch.carried, Nat.add_assoc]
      rwa [counted]

/-- Those entries from before a batch which it leaves stand in the order that they had before. -/
theorem survivors_replay {base serial : Nat} {items final : List Envelope} {batch : Batch}
    (old : base ≤ serial) (replayed : replay serial items batch = .ok final) :
    (final.filter fun entry => entry.serial < base).Sublist
      (items.filter fun entry => entry.serial < base) := by
  induction batch generalizing serial items with
  | nil =>
    cases replayed
    exact List.Sublist.refl _
  | cons operation rest inductionHypothesis =>
    cases turn : operation.fault? items.length with
    | some fault => simp [replay, turn] at replayed
    | none =>
      simp only [replay, turn] at replayed
      exact (inductionHypothesis (Nat.le_add_right_of_le old) replayed).trans
        (operation.survivors_edit old items)

end RoomTimeline
