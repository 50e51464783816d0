import RoomTimeline.Proofs.Continuity
import RoomTimeline.Proofs.Remembering

/-!
# What a rendering shows of a collection

A rendering shows all of a collection and nothing twice. Put the members of each collapsed entry
that rendering has made in its place, and what stands between the indicators is the collection
again, less a trailing read marker that is hidden (`render_unfolds`). Each longest run of two or
more collapsible entries is shown as one entry, all other entries as they are, and no two neighbours
that are shown could be folded into one.

This holds of any collection of envelopes that have been made, in any order and however often they
stand in it, and after any number of renderings of such collections.
-/

namespace RoomTimeline

/-! ## Putting members in the place of collapsed entries -/

/-- An entry with the members of a collapsed one in its place, if that is in use or has been made
since. Collapsed entries that the source has sent are entries like any others. -/
def unfolded (runs : Runs) (serial : Nat) : Envelope → List Envelope
  | .virtual header (.collapsed members) =>
    if header.serial ∈ runs.map Envelope.serial ∨ serial ≤ header.serial then members
    else [.virtual header (.collapsed members)]
  | entry => [entry]

/-- An entry unfolds to what it stands for. -/
theorem StandsFor.unfolded_eq {known block : List Envelope} {runs : Runs} {serial : Nat}
    {entry : Envelope} (stands : StandsFor runs serial entry block)
    (reliable : Reliable known runs serial) (inside : block ⊆ known) :
    unfolded runs serial entry = block := by
  cases stands with
  | itself =>
    have member : entry ∈ known := inside List.mem_cons_self
    have old : ¬ (entry.serial ∈ runs.map Envelope.serial ∨ serial ≤ entry.serial) := by
      rintro (inRuns | new)
      · obtain ⟨run, runMember, same⟩ := List.mem_map.mp inRuns
        exact reliable.apart entry member run runMember same.symm
      · have below := reliable.numbered.below entry member
        omega
    unfold unfolded
    split
    · exact if_neg old
    · rfl
  | folded own =>
    refine if_pos (own.imp (fun member => ?_) id)
    exact List.mem_map_of_mem member

/-- What is shown unfolds, entry by entry, to the blocks that it stands for. -/
theorem Reliable.map_unfolded {known : List Envelope} {runs : Runs} {serial : Nat}
    (reliable : Reliable known runs serial) {shown : List Envelope} {blocks : List (List Envelope)}
    (stands : List.Forall₂ (StandsFor runs serial) shown blocks) (inside : blocks.flatten ⊆ known) :
    shown.map (unfolded runs serial) = blocks := by
  induction stands with
  | nil => rfl
  | @cons entry block shown rest first others inductionHypothesis =>
    have front : block ⊆ known := List.Subset.trans (List.subset_append_left _ _) inside
    have behind : rest.flatten ⊆ known := List.Subset.trans (List.subset_append_right _ _) inside
    rw [List.map_cons, first.unfolded_eq reliable front, inductionHypothesis behind]

/-- What is shown, with all members of its collapsed entries in their places, is what the blocks
hold that it stands for. -/
theorem Reliable.flatMap_unfolded {known : List Envelope} {runs : Runs} {serial : Nat}
    (reliable : Reliable known runs serial) {shown : List Envelope} {blocks : List (List Envelope)}
    (stands : List.Forall₂ (StandsFor runs serial) shown blocks) (inside : blocks.flatten ⊆ known) :
    shown.flatMap (unfolded runs serial) = blocks.flatten := by
  rw [List.flatMap_def, reliable.map_unfolded stands inside]

/-! ## The trailing read marker -/

/-- What is left of a body when a trailing read marker is hidden, where this is configured. -/
def trimmed (config : Config) (body : List Envelope) : List Envelope :=
  if config.hideTrailingReadMarker then dropTrailingReadMarker body else body

/-- An empty body has no trailing read marker to be hidden. -/
theorem trimmed_nil (config : Config) : trimmed config [] = [] := by
  simp [trimmed, dropTrailingReadMarker]

/-- Whatever stands in front of other entries is not hidden as a trailing read marker. -/
theorem trimmed_append (config : Config) (front : List Envelope) {back : List Envelope}
    (filled : back ≠ []) : trimmed config (front ++ back) = front ++ trimmed config back := by
  unfold trimmed dropTrailingReadMarker
  rw [List.getLast?_append_of_ne_nil front filled]
  split
  · split
    · split
      · exact List.dropLast_append_of_ne_nil filled
      · rfl
    · rfl
  · rfl

/-- A body that ends with no read marker is left as it is. -/
theorem trimmed_concat (config : Config) (front : List Envelope) {last : Envelope}
    (plain : last.isReadMarker = false) : trimmed config (front ++ [last]) = front ++ [last] := by
  simp [trimmed, dropTrailingReadMarker, plain]

/-- An entry stays unless it is a read marker that is to be hidden and nothing follows. -/
theorem trimmed_split (config : Config) (front : List Envelope) {entry : Envelope}
    {back : List Envelope}
    (stays : config.hideTrailingReadMarker = true → entry.isReadMarker = true → back ≠ []) :
    ∃ rest, trimmed config (front ++ entry :: back) = front ++ entry :: rest := by
  cases back with
  | cons next others =>
    refine ⟨trimmed config (next :: others), ?_⟩
    have cut := trimmed_append config (front ++ [entry]) (List.cons_ne_nil next others)
    simpa using cut
  | nil =>
    refine ⟨[], ?_⟩
    cases marker : entry.isReadMarker with
    | false => exact trimmed_concat config front marker
    | true =>
      have shownAnyway : config.hideTrailingReadMarker = false :=
        Bool.eq_false_iff.mpr fun hides => stays hides marker rfl
      simp [trimmed, shownAnyway]

/-- A body is arranged by putting the indicators at the ends of what is left when a trailing read
marker is hidden. -/
theorem arrange_eq (config : Config) (pair : PaginationPair) (body : List Envelope) :
    arrange config pair body =
      indicator config pair.backward startIndicator ++ trimmed config body ++
        indicator config pair.forward finishIndicator := by
  have opened : trimmed config (indicator config pair.backward startIndicator ++ body) =
      indicator config pair.backward startIndicator ++ trimmed config body := by
    cases body with
    | cons first rest => exact trimmed_append config _ (List.cons_ne_nil first rest)
    | nil =>
      unfold indicator
      split
      · rw [List.append_nil, trimmed_nil, List.append_nil]
        exact trimmed_concat config [] rfl
      · rfl
  rw [← opened]
  rfl

/-- A read marker cannot be folded. -/
theorem Envelope.isCollapsible_of_isReadMarker {entry : Envelope}
    (marker : entry.isReadMarker = true) : entry.isCollapsible = false := by
  cases entry with
  | event header details => cases marker
  | virtual header item => rfl

/-- The entry of a run is no read marker. -/
theorem isReadMarker_runEntry (number : Nat) (first : Envelope) (members : List Envelope) :
    (runEntry number first members).isReadMarker = false := rfl

/-- What stands for blocks one of which is picked out: the entry for that one, and what is in front
of it and behind. -/
theorem StandsFor.split {runs : Runs} {serial : Nat} {shown : List Envelope} {block : List Envelope}
    {front back : List (List Envelope)}
    (stands : List.Forall₂ (StandsFor runs serial) shown (front ++ block :: back)) :
    ∃ left entry right, shown = left ++ entry :: right ∧
      List.Forall₂ (StandsFor runs serial) left front ∧ StandsFor runs serial entry block ∧
      List.Forall₂ (StandsFor runs serial) right back := by
  have left := List.forall₂_take_append shown front _ stands
  have rest := List.forall₂_drop_append shown front _ stands
  have whole := (List.take_append_drop front.length shown).symm
  cases behind : shown.drop front.length with
  | nil =>
    rw [behind] at rest
    cases rest
  | cons entry right =>
    rw [behind] at rest whole
    cases rest with
    | cons first others => exact ⟨_, entry, right, whole, left, first, others⟩

/-- A read marker at the end of a collection is its last part. -/
theorem parts_concat_readMarker (config : Config) (front : List Envelope) {marker : Envelope}
    (isMarker : marker.isReadMarker = true) :
    parts config (front ++ [marker]) = parts config front ++ [[marker]] := by
  unfold parts
  split
  · exact blocks_single (Envelope.isCollapsible_of_isReadMarker isMarker)
  · exact List.map_append

/-- Where a collection ends with no read marker, neither does what is shown of it. -/
theorem trimmed_of_plain {runs : Runs} {serial : Nat} {config : Config}
    {front shown : List Envelope}
    {last : Envelope} (plain : last.isReadMarker = false)
    (stands : List.Forall₂ (StandsFor runs serial) shown (parts config (front ++ [last]))) :
    trimmed config shown = shown := by
  have whole := flatten_parts config (front ++ [last])
  rcases List.eq_nil_or_concat (parts config (front ++ [last])) with none | ⟨before, block, found⟩
  · simp [none] at whole
  · rw [List.concat_eq_append] at found
    rw [found] at stands whole
    obtain ⟨left, entry, right, rfl, -, standing, behind⟩ := StandsFor.split stands
    cases behind
    cases standing with
    | folded own => exact trimmed_concat config left (isReadMarker_runEntry _ _ _)
    | itself =>
      rw [List.flatten_append, List.flatten_singleton] at whole
      obtain ⟨-, same⟩ := List.append_inj' whole rfl
      rw [List.head_eq_of_cons_eq same]
      exact trimmed_concat config left plain

/-- What is left of a body when a trailing read marker is hidden stands for the parts of what is
left of the collection. -/
theorem trimmed_stands {runs : Runs} {serial : Nat} {config : Config} {items shown : List Envelope}
    (stands : List.Forall₂ (StandsFor runs serial) shown (parts config items)) :
    List.Forall₂ (StandsFor runs serial) (trimmed config shown)
      (parts config (trimmed config items)) := by
  rcases List.eq_nil_or_concat items with rfl | ⟨front, last, rfl⟩
  · have nothing : parts config [] = [] := by
      unfold parts
      split <;> rfl
    rw [nothing] at stands
    cases stands
    rw [trimmed_nil, nothing]
    exact .nil
  · rw [List.concat_eq_append] at stands ⊢
    cases marker : last.isReadMarker with
    | false => rwa [trimmed_concat config front marker, trimmed_of_plain marker stands]
    | true =>
      cases hides : config.hideTrailingReadMarker with
      | false => simpa [trimmed, hides] using stands
      | true =>
        rw [parts_concat_readMarker config front marker] at stands
        obtain ⟨left, entry, right, rfl, others, standing, behind⟩ := StandsFor.split stands
        cases behind
        cases standing
        simpa [trimmed, hides, dropTrailingReadMarker, marker] using others

/-! ## Renderings -/

/-- When a trailing read marker is hidden, what is left of a collection is all of it but such a
marker at its end. -/
theorem trimmed_eq (config : Config) (items : List Envelope) :
    trimmed config items =
      if config.hideTrailingReadMarker = true ∧ items.getLast?.any Envelope.isReadMarker = true then
        items.dropLast
      else items := by
  unfold trimmed dropTrailingReadMarker
  cases config.hideTrailingReadMarker <;> cases items.getLast? <;> simp

/-- Where a block of a collection is picked out, what is shown has an entry that stands for it,
behind all that unfolds to what is in front of the block. It is still there when a read marker at
the end is hidden, unless it is that read marker. -/
theorem Reliable.exists_shown {known before : List Envelope} {runs : Runs} {serial : Nat}
    (reliable : Reliable known runs serial) (config : Config) {shown block : List Envelope}
    {behind : List (List Envelope)} (inside : before ⊆ known)
    (stands : List.Forall₂ (StandsFor runs serial) shown (blocks before ++ block :: behind))
    (stays : ∀ entry, block = [entry] → config.hideTrailingReadMarker = true →
      entry.isReadMarker = true → behind ≠ []) :
    ∃ left entry right, trimmed config shown = left ++ entry :: right ∧
      left.flatMap (unfolded runs serial) = before ∧ StandsFor runs serial entry block := by
  obtain ⟨left, entry, right, rfl, front, standing, back⟩ := StandsFor.split stands
  have unfolds := reliable.flatMap_unfolded front (by rwa [flatten_blocks])
  rw [flatten_blocks] at unfolds
  have kept : config.hideTrailingReadMarker = true → entry.isReadMarker = true → right ≠ [] := by
    intro hides marker
    cases standing with
    | folded own => cases marker
    | itself =>
      rintro rfl
      cases back
      exact stays entry rfl hides marker rfl
  obtain ⟨rest, trims⟩ := trimmed_split config left kept
  exact ⟨left, entry, rest, trims, unfolds, standing⟩

/-- A rendering shows all of a collection and nothing twice. The indicators of the directions that
are being loaded stand at the ends, where indicators are shown. What is between them unfolds to the
collection, of which only a read marker at the end is missing and only where it is to be hidden.
Without folding nothing is collapsed. With it
- each longest run of two or more collapsible entries is shown as one entry, under the identifier
  made from that of the first member;
- an entry that may not be folded, or has no collapsible neighbour, is shown as it is; and
- no two neighbours that are shown could be folded into one. -/
theorem render_unfolds {known : List Envelope} {runs : Runs} {serial : Nat}
    (remembered : Remembered known runs serial) (config : Config) (policy : GroupingPolicy)
    (pair : PaginationPair) {items : List Envelope} (inside : items ⊆ known) :
    ∃ body,
      (render config policy pair runs serial items).entries.map Entry.envelope =
        (if config.showPaginationIndicators = true ∧ pair.backward = .paginating then
          [startIndicator] else []) ++ body ++
        (if config.showPaginationIndicators = true ∧ pair.forward = .paginating then
          [finishIndicator] else []) ∧
      body.flatMap (unfolded runs serial) =
        (if config.hideTrailingReadMarker = true ∧
            items.getLast?.any Envelope.isReadMarker = true then items.dropLast else items) ∧
      (config.collapseStateEvents = false →
        ∀ entry ∈ body, unfolded runs serial entry = [entry]) ∧
      (config.collapseStateEvents = true →
        (∀ before run after, items = before ++ run ++ after → LongestRun before run after →
          2 ≤ run.length → ∃ left entry right first, body = left ++ entry :: right ∧
            left.flatMap (unfolded runs serial) = before ∧ unfolded runs serial entry = run ∧
            run.head? = some first ∧ entry.uniqueId.text = "collapsed-" ++ first.uniqueId.text ∧
            entry.virtual? = some (.collapsed run)) ∧
        (∀ before item after, items = before ++ item :: after →
          item.isCollapsible = false ∨ LongestRun before [item] after →
          (config.hideTrailingReadMarker = true → item.isReadMarker = true → after ≠ []) →
          ∃ left right, body = left ++ item :: right ∧
            left.flatMap (unfolded runs serial) = before) ∧
        body.IsChain fun entry next =>
          (foldable (unfolded runs serial entry) && foldable (unfolded runs serial next)) =
            false) := by
  have reliable := remembered.reliable
  have all := reliable.stands config inside
  have left := trimmed_stands all
  have part : trimmed config items ⊆ known := by
    refine List.Subset.trans ?_ inside
    rw [trimmed_eq]
    split
    · exact (List.dropLast_sublist items).subset
    · exact List.Subset.refl items
  refine ⟨trimmed config (bodyOf config runs serial items).shown, ?_, ?_, ?_, ?_⟩
  · exact (grouped_envelopes policy _).trans (arrange_eq config pair _)
  · rw [reliable.flatMap_unfolded left (by rwa [flatten_parts]), flatten_parts, trimmed_eq]
  · intro plain entry member
    have same : (bodyOf config runs serial items).shown = items := by simp [bodyOf, plain]
    rw [same] at member
    exact (StandsFor.itself entry).unfolded_eq reliable
      (List.cons_subset.mpr ⟨part member, List.nil_subset known⟩)
  · intro folds
    have same : ∀ entries, parts config entries = blocks entries := fun entries => if_pos folds
    rw [same] at all left
    refine ⟨?_, ?_, ?_⟩
    · rintro before run after rfl longest more
      have filled : run ≠ [] := by
        rintro rfl
        simp at more
      have front : before ⊆ known := fun entry member => inside (by simp [member])
      have middle : run ⊆ known := fun entry member => inside (by simp [member])
      rw [blocks_longestRun longest filled] at all
      obtain ⟨shown, entry, right, found, unfolds, standing⟩ :=
        reliable.exists_shown config front all (by
          rintro entry rfl
          simp at more)
      refine ⟨shown, entry, right, ?_⟩
      cases standing with
      | itself => simp at more
      | @folded number first second others own =>
        exact ⟨first, found, unfolds, (StandsFor.folded own).unfolded_eq reliable middle, rfl, rfl,
          rfl⟩
    · rintro before item after rfl alone visible
      have front : before ⊆ known := fun entry member => inside (by simp [member])
      have cut : blocks (before ++ item :: after) = blocks before ++ [item] :: blocks after := by
        rcases alone with plain | longest
        · exact blocks_single plain
        · have whole := blocks_longestRun longest (List.cons_ne_nil item [])
          rwa [List.append_assoc] at whole
      rw [cut] at all
      obtain ⟨shown, entry, right, found, unfolds, standing⟩ :=
        reliable.exists_shown config front all (by
          rintro entry same hides marker none
          cases same
          have empty := flatten_blocks after
          rw [none] at empty
          exact visible hides marker empty.symm)
      cases standing
      exact ⟨shown, right, found, unfolds⟩
    · have unfolds := reliable.map_unfolded left (by rwa [flatten_blocks])
      have chain := blocks_isChain (trimmed config items)
      rw [← unfolds] at chain
      exact (List.isChain_map _).mp chain

/-- Someone who has joined, as an entry. -/
def newcomer (serial : Nat) (userId : String) : Envelope :=
  .event ⟨serial, ⟨userId⟩, none, [], ""⟩
    ⟨.event userId, 0, .ofUserId userId, .membershipChange userId .joined⟩

/-- Two people have joined and are shown as one entry. When older entries are being loaded they are
shown again by the entry that has been kept, behind an indicator and without the read marker at the
end. -/
theorem render_unfolds_of_kept_run :
    ∃ runs serial,
      Remembered [newcomer 2 "a", newcomer 3 "b", .synthesized 4 ⟨"read"⟩ .readMarker] runs serial ∧
      runs.map Envelope.serial = [5] ∧
      ∃ body,
        (render (.ofKind .live) .never ⟨.paginating, .endReached⟩ runs serial
          [newcomer 2 "a", newcomer 3 "b", .synthesized 4 ⟨"read"⟩ .readMarker]).entries.map
            Entry.envelope = startIndicator :: body ∧
        body.map Envelope.serial = [5] ∧
        body.flatMap (unfolded runs serial) = [newcomer 2 "a", newcomer 3 "b"] := by
  let items := [newcomer 2 "a", newcomer 3 "b", .synthesized 4 ⟨"read"⟩ .readMarker]
  let before := render (.ofKind .live) .never ⟨.idle, .endReached⟩ [] 5 items
  have made : Remembered items [] 5 :=
    Remembered.nothing.envelopesMade (by decide) ⟨by decide, by decide⟩ (by decide)
  have remembered : Remembered items before.runs before.serial :=
    made.collectionRendered (.ofKind .live) .never ⟨.idle, .endReached⟩ (List.Subset.refl items)
  obtain ⟨body, shown, unfolds, -, -⟩ := render_unfolds remembered (.ofKind .live) .never
    ⟨.paginating, .endReached⟩ (List.Subset.refl items)
  have numbers : ((render (.ofKind .live) .never ⟨.paginating, .endReached⟩ before.runs
      before.serial items).entries.map Entry.envelope).map Envelope.serial = [0, 5] := by decide
  have opened : (render (.ofKind .live) .never ⟨.paginating, .endReached⟩ before.runs
      before.serial items).entries.map Entry.envelope = startIndicator :: body := by
    simpa [Config.ofKind] using shown
  rw [opened] at numbers
  exact ⟨before.runs, before.serial, remembered, by decide, body, opened,
    List.tail_eq_of_cons_eq numbers, unfolds⟩

end RoomTimeline
