import Mathlib.Data.List.Nodup

/-!
# What two lists share, in one order

Two lists share their common entries in order if one list of these is a sublist of both. Of lists
without repetition this says that no shared entry ever stands before another in the one list and
behind it in the other.

The order can be read off elsewhere: if every entry has a place of its own in a longer list, and
the longer lists share their places in order, then so do the entries (`SharedInOrder.of_places`).
-/

namespace RoomTimeline

universe u v
variable {α : Type u} {β : Type v}

/-- One list of shared entries stands in both lists, and no shared entry is missing from it. -/
def SharedInOrder (first second : List α) : Prop :=
  ∃ shared : List α, shared.Sublist first ∧ shared.Sublist second ∧
    ∀ entry, entry ∈ first → entry ∈ second → entry ∈ shared

/-- A test that accepts exactly the members of a sublist filters out that sublist. Without
repetition a sublist is determined by its members. -/
theorem filter_eq_of_sublist {test : α → Bool} {part whole : List α} (sublist : part.Sublist whole)
    (distinct : whole.Nodup) (exact : ∀ entry ∈ whole, test entry = true ↔ entry ∈ part) :
    whole.filter test = part := by
  induction sublist with
  | slnil => rfl
  | @cons part whole head sublist inductionHypothesis =>
    obtain ⟨absent, distinct⟩ := List.nodup_cons.mp distinct
    have refused : ¬ test head = true := fun accepted =>
      absent (sublist.subset ((exact head List.mem_cons_self).mp accepted))
    rw [List.filter_cons_of_neg refused]
    exact inductionHypothesis distinct fun entry member =>
      exact entry (List.mem_cons_of_mem head member)
  | @cons_cons part whole head sublist inductionHypothesis =>
    obtain ⟨absent, distinct⟩ := List.nodup_cons.mp distinct
    have accepted : test head = true := (exact head List.mem_cons_self).mpr List.mem_cons_self
    rw [List.filter_cons_of_pos accepted]
    refine congrArg (head :: ·) (inductionHypothesis distinct ?_)
    intro entry member
    have other : entry ≠ head := fun same => absent (same ▸ member)
    simpa [other] using exact entry (List.mem_cons_of_mem head member)

/-- Of two sublists of a list without repetition, one whose members are all in the other is a
sublist of it. -/
theorem sublist_of_subset {part other whole : List α} (partSublist : part.Sublist whole)
    (otherSublist : other.Sublist whole) (distinct : whole.Nodup) (subset : part ⊆ other) :
    part.Sublist other := by
  classical
  have keepsPart : part.filter (fun entry => decide (entry ∈ other)) = part :=
    List.filter_eq_self.mpr fun entry member => decide_eq_true (subset member)
  have keepsOther : whole.filter (fun entry => decide (entry ∈ other)) = other :=
    filter_eq_of_sublist otherSublist distinct fun entry _ => decide_eq_true_iff
  have kept := partSublist.filter fun entry => decide (entry ∈ other)
  rwa [keepsPart, keepsOther] at kept

/-- Two sublists of a list without repetition that have the same members are the same. -/
theorem sublist_unique {part other whole : List α} (partSublist : part.Sublist whole)
    (otherSublist : other.Sublist whole) (distinct : whole.Nodup)
    (same : ∀ entry, entry ∈ part ↔ entry ∈ other) : part = other :=
  (sublist_of_subset partSublist otherSublist distinct fun entry member =>
      (same entry).mp member).antisymm
    (sublist_of_subset otherSublist partSublist distinct fun entry member =>
      (same entry).mpr member)

/-- Lists with the same images are the same where images tell entries apart. -/
theorem eq_of_map_eq {image : α → β} {first second : List α}
    (same : first.map image = second.map image)
    (apart : ∀ entry ∈ first, ∀ other ∈ second, image entry = image other → entry = other) :
    first = second := by
  induction first generalizing second with
  | nil => exact (List.map_eq_nil_iff.mp same.symm).symm
  | cons head rest inductionHypothesis =>
    obtain ⟨otherHead, otherRest, rfl, sameHead, sameRest⟩ := List.map_eq_cons_iff.mp same.symm
    have heads : head = otherHead :=
      apart head List.mem_cons_self otherHead List.mem_cons_self sameHead.symm
    have tails : rest = otherRest := inductionHypothesis sameRest.symm fun entry member other
      otherMember => apart entry (List.mem_cons_of_mem _ member) other
        (List.mem_cons_of_mem _ otherMember)
    rw [heads, tails]

namespace SharedInOrder

/-- If places tell entries apart and run through two lists that share their places in order, then
the entries are shared in order.

The shared entries of each list run through the shared places, so both runs are sublists of one
list of places. They have the same members, so they are the same run, and an entry is known by its
place. -/
theorem of_places {first second : List α} {places otherPlaces : List β} (place : α → β)
    (shared : SharedInOrder places otherPlaces) (distinct : places.Nodup)
    (otherDistinct : otherPlaces.Nodup) (firstRuns : (first.map place).Sublist places)
    (secondRuns : (second.map place).Sublist otherPlaces) : SharedInOrder first second := by
  classical
  obtain ⟨common, inPlaces, inOtherPlaces, complete⟩ := shared
  have commonDistinct : common.Nodup := distinct.sublist inPlaces
  have inFirst : (first.filter (· ∈ second)).Sublist first := List.filter_sublist
  have inSecond : (second.filter (· ∈ first)).Sublist second := List.filter_sublist
  have sharedPlace : ∀ entry, entry ∈ first → entry ∈ second → place entry ∈ common := by
    intro entry member otherMember
    exact complete _ (firstRuns.subset (List.mem_map_of_mem member))
      (secondRuns.subset (List.mem_map_of_mem otherMember))
  have firstInCommon : ((first.filter (· ∈ second)).map place).Sublist common := by
    refine sublist_of_subset ((inFirst.map place).trans firstRuns) inPlaces distinct ?_
    intro found run
    obtain ⟨entry, selected, rfl⟩ := List.mem_map.mp run
    obtain ⟨member, otherMember⟩ := List.mem_filter.mp selected
    exact sharedPlace entry member (by simpa using otherMember)
  have secondInCommon : ((second.filter (· ∈ first)).map place).Sublist common := by
    refine sublist_of_subset ((inSecond.map place).trans secondRuns) inOtherPlaces otherDistinct ?_
    intro found run
    obtain ⟨entry, selected, rfl⟩ := List.mem_map.mp run
    obtain ⟨member, otherMember⟩ := List.mem_filter.mp selected
    exact sharedPlace entry (by simpa using otherMember) member
  have samePlaces : (first.filter (· ∈ second)).map place =
      (second.filter (· ∈ first)).map place := by
    refine sublist_unique firstInCommon secondInCommon commonDistinct ?_
    intro found
    simp [and_comm]
  have sameEntries : first.filter (· ∈ second) = second.filter (· ∈ first) := by
    refine eq_of_map_eq samePlaces ?_
    intro entry member other otherMember same
    have isFirst : other ∈ first := by simpa using (List.mem_filter.mp otherMember).2
    exact List.inj_on_of_nodup_map (distinct.sublist firstRuns) (inFirst.subset member) isFirst same
  exact ⟨first.filter (· ∈ second), inFirst, sameEntries ▸ inSecond,
    fun entry member otherMember => List.mem_filter.mpr ⟨member, by simpa using otherMember⟩⟩

end SharedInOrder

end RoomTimeline
