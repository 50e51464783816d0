import RoomTimeline.Proofs.Positions
import RoomTimeline.Proofs.Rendering

/-!
# A body between its indicators

What is published is a body of entries between the indicators of the edges that are being loaded. An
indicator stands alone, so the entries of the body have the positions that they would have without
it (`grouped_arrange`). If only the pagination status moves, all that is to be told about entries is
which indicators have come and gone (`updatesBetween_framed`).
-/

namespace RoomTimeline

/-- Whether an edge with a status is marked by its indicator. -/
def Config.Indicates (config : Config) (status : PaginationStatus) : Prop :=
  config.showPaginationIndicators = true ∧ status = .paginating

instance (config : Config) (status : PaginationStatus) : Decidable (config.Indicates status) :=
  inferInstanceAs (Decidable (_ ∧ _))

/-- The indicator of an edge as an entry, where it is shown. -/
def edge (config : Config) (status : PaginationStatus) (envelope : Envelope) : List Entry :=
  if config.Indicates status then [⟨envelope, .single⟩] else []

/-- A body between its indicators. -/
def framed (config : Config) (pair : PaginationPair) (body : List Entry) : List Entry :=
  edge config pair.backward startIndicator ++ body ++ edge config pair.forward finishIndicator

/-- Rendering adds an indicator just where an edge with the status is marked by one. -/
theorem indicator_eq (config : Config) (status : PaginationStatus) (envelope : Envelope) :
    indicator config status envelope = if config.Indicates status then [envelope] else [] := rfl

/-- What is published of a body is framed: the positions in it are its own. -/
theorem grouped_arrange (config : Config) (policy : GroupingPolicy) (pair : PaginationPair)
    (body : List Envelope) :
    grouped policy (arrange config pair body) =
      framed config pair (grouped policy (trimmed config body)) := by
  have opened : grouped policy (indicator config pair.backward startIndicator ++
      trimmed config body) =
      edge config pair.backward startIndicator ++ grouped policy (trimmed config body) := by
    rw [indicator_eq]
    unfold edge
    split
    · have isVirtual : startIndicator.event? = none := rfl
      exact grouped_virtual isVirtual [] (trimmed config body)
    · rfl
  have closed : ∀ front, grouped policy (front ++ indicator config pair.forward finishIndicator) =
      grouped policy front ++ edge config pair.forward finishIndicator := by
    intro front
    rw [indicator_eq]
    unfold edge
    split
    · have isVirtual : finishIndicator.event? = none := rfl
      exact grouped_virtual isVirtual front []
    · rw [List.append_nil, List.append_nil]
  rw [arrange_eq, closed, opened]
  rfl

/-! ## What comes and goes -/

section

variable {config : Config} {pair : PaginationPair} {body : List Entry}

/-- The identifiers of the two indicators differ. -/
theorem startIndicator_ne_finishIndicator : startIndicator.uniqueId ≠ finishIndicator.uniqueId := by
  decide

/-- The identifiers of a frame, one after another. -/
theorem framed_ids (config : Config) (pair : PaginationPair) (body : List Entry) :
    (framed config pair body).map Entry.uniqueId =
      (if config.Indicates pair.backward then [startIndicator.uniqueId] else []) ++
        body.map Entry.uniqueId ++
        (if config.Indicates pair.forward then [finishIndicator.uniqueId] else []) := by
  unfold framed edge
  rw [List.map_append, List.map_append]
  congr 1
  · congr 1
    split <;> rfl
  · split <;> rfl

/-- Where the indicator of the start is shown and no identifier repeats, the body does not have its
identifier. -/
theorem start_not_mem_body (distinct : ((framed config pair body).map Entry.uniqueId).Nodup)
    (shown : config.Indicates pair.backward) :
    startIndicator.uniqueId ∉ body.map Entry.uniqueId := by
  rw [framed_ids, if_pos shown, List.append_assoc, List.singleton_append,
    List.nodup_cons] at distinct
  exact fun member => distinct.1 (List.mem_append_left _ member)

/-- Where the indicator of the end is shown and no identifier repeats, the body does not have its
identifier. -/
theorem finish_not_mem_body (distinct : ((framed config pair body).map Entry.uniqueId).Nodup)
    (shown : config.Indicates pair.forward) :
    finishIndicator.uniqueId ∉ body.map Entry.uniqueId := by
  rw [framed_ids, if_pos shown] at distinct
  intro member
  exact List.disjoint_of_nodup_append distinct (List.mem_append_right _ member)
    List.mem_cons_self

/-- Where the body does not have the identifier of the start's indicator, a frame has it just if
this indicator is shown. -/
theorem start_mem_framed (absent : startIndicator.uniqueId ∉ body.map Entry.uniqueId) :
    startIndicator.uniqueId ∈ (framed config pair body).map Entry.uniqueId ↔
      config.Indicates pair.backward := by
  rw [framed_ids]
  by_cases first : config.Indicates pair.backward <;>
    by_cases last : config.Indicates pair.forward <;>
      simp [first, last, absent, startIndicator_ne_finishIndicator]

/-- Where the body does not have the identifier of the end's indicator, a frame has it just if this
indicator is shown. -/
theorem finish_mem_framed (absent : finishIndicator.uniqueId ∉ body.map Entry.uniqueId) :
    finishIndicator.uniqueId ∈ (framed config pair body).map Entry.uniqueId ↔
      config.Indicates pair.forward := by
  rw [framed_ids]
  by_cases first : config.Indicates pair.backward <;>
    by_cases last : config.Indicates pair.forward <;>
      simp [first, last, absent, startIndicator_ne_finishIndicator.symm]

end

/-- An update about an indicator, sent if it is shown under one status and not under another. -/
def turning (config : Config) (here there : PaginationStatus) (update : Update) : List Update :=
  if config.Indicates here ∧ ¬ config.Indicates there then [update] else []

/-- The only update sent about an indicator is the one that is given. -/
theorem eq_of_mem_turning {config : Config} {here there : PaginationStatus} {update sent : Update}
    (member : sent ∈ turning config here there update) : sent = update := by
  unfold turning at member
  split at member
  · exact List.mem_singleton.mp member
  · cases member

/-- No update about an indicator is sent where its status stays the same. -/
theorem turning_self (config : Config) (status : PaginationStatus) (update : Update) :
    turning config status status update = [] :=
  if_neg fun both => both.2 both.1

/-- An indicator that is not shown any more is removed, and one that still is, is not. -/
theorem removed_edge {config : Config} {here there : PaginationStatus} {envelope : Envelope}
    {next : List Entry} (found : config.Indicates here →
      (envelope.uniqueId ∈ next.map Entry.uniqueId ↔ config.Indicates there)) :
    ((edge config here envelope).filter fun entry =>
        entry.uniqueId ∉ next.map Entry.uniqueId).map
          (fun entry => Update.removed entry.uniqueId) =
      turning config here there (.removed envelope.uniqueId) := by
  unfold edge turning
  by_cases shown : config.Indicates here
  · by_cases stays : config.Indicates there
    · have there : (⟨envelope, .single⟩ : Entry).uniqueId ∈ next.map Entry.uniqueId :=
        (found shown).mpr stays
      rw [if_pos shown, if_neg fun gone => gone.2 stays,
        List.filter_cons_of_neg (by simpa only [decide_eq_true_iff, not_not] using there)]
      rfl
    · have gone : (⟨envelope, .single⟩ : Entry).uniqueId ∉ next.map Entry.uniqueId :=
        mt (found shown).mp stays
      rw [if_pos shown, if_pos ⟨shown, stays⟩,
        List.filter_cons_of_pos (by simpa only [decide_eq_true_iff] using gone)]
      rfl
  · rw [if_neg shown, if_neg fun gone => shown gone.1]
    rfl

/-- An indicator that was not shown before is inserted, and nothing is said of one that was. -/
theorem inserted_edge {config : Config} {here there : PaginationStatus} {envelope : Envelope}
    {previous : List Entry} (distinct : (previous.map Entry.uniqueId).Nodup) (index : Nat)
    (found : config.Indicates here →
      (envelope.uniqueId ∈ previous.map Entry.uniqueId ↔ config.Indicates there))
    (known : edge config there envelope ⊆ previous) :
    ((edge config here envelope).zipIdx index).filterMap
        (fun (entry, index) => updateAt? previous index entry) =
      turning config here there (.inserted index envelope.uniqueId) := by
  unfold edge turning
  by_cases shown : config.Indicates here
  · rw [if_pos shown]
    by_cases stays : config.Indicates there
    · have member : ⟨envelope, .single⟩ ∈ previous := known (by simp [edge, stays])
      rw [if_neg fun new => new.2 stays]
      simp [updateAt?_of_mem distinct member]
    · have absent : (⟨envelope, .single⟩ : Entry).uniqueId ∉ previous.map Entry.uniqueId :=
        mt (found shown).mp stays
      rw [if_pos ⟨shown, stays⟩]
      simp [updateAt?_of_new absent index]
      rfl
  · rw [if_neg shown, if_neg fun new => shown new.1]
    rfl

/-- Of a frame whose body is still there at most the indicators are removed. -/
theorem removed_framed (config : Config) (pair : PaginationPair) {body next : List Entry}
    (there : body ⊆ next) :
    ((framed config pair body).filter fun entry => entry.uniqueId ∉ next.map Entry.uniqueId).map
        (fun entry => Update.removed entry.uniqueId) =
      ((edge config pair.backward startIndicator).filter fun entry =>
          entry.uniqueId ∉ next.map Entry.uniqueId).map
        (fun entry => Update.removed entry.uniqueId) ++
      ((edge config pair.forward finishIndicator).filter fun entry =>
          entry.uniqueId ∉ next.map Entry.uniqueId).map
        (fun entry => Update.removed entry.uniqueId) := by
  have stays : body.filter (fun entry => entry.uniqueId ∉ next.map Entry.uniqueId) = [] := by
    refine List.filter_eq_nil_iff.mpr fun entry member => ?_
    simpa only [decide_eq_true_iff, not_not] using List.mem_map_of_mem (there member)
  unfold framed
  rw [List.filter_append, List.filter_append, stays, List.append_nil, List.map_append]

/-- Of a frame whose body was there before at most the indicators are inserted or changed. -/
theorem inserted_framed (config : Config) (pair : PaginationPair) {body previous : List Entry}
    (distinct : (previous.map Entry.uniqueId).Nodup) (known : body ⊆ previous) :
    (framed config pair body).zipIdx.filterMap
        (fun (entry, index) => updateAt? previous index entry) =
      (edge config pair.backward startIndicator).zipIdx.filterMap
        (fun (entry, index) => updateAt? previous index entry) ++
      ((edge config pair.forward finishIndicator).zipIdx
          (edge config pair.backward startIndicator ++ body).length).filterMap
        (fun (entry, index) => updateAt? previous index entry) := by
  have silent := filterMap_updateAt?_of_subset distinct known
    (0 + (edge config pair.backward startIndicator).length)
  unfold framed
  rw [List.zipIdx_append, List.zipIdx_append, List.filterMap_append, List.filterMap_append, silent,
    List.append_nil, Nat.zero_add]

/-- Between two frames of one body the updates name just the indicators that come and go. -/
theorem updatesBetween_framed {config : Config} {pair nextPair : PaginationPair} {body : List Entry}
    (distinct : ((framed config pair body).map Entry.uniqueId).Nodup)
    (nextDistinct : ((framed config nextPair body).map Entry.uniqueId).Nodup) :
    updatesBetween (framed config pair body) (framed config nextPair body) =
      turning config pair.backward nextPair.backward (.removed startIndicator.uniqueId) ++
      turning config pair.forward nextPair.forward (.removed finishIndicator.uniqueId) ++
      (turning config nextPair.backward pair.backward (.inserted 0 startIndicator.uniqueId) ++
      turning config nextPair.forward pair.forward
        (.inserted ((framed config nextPair body).length - 1) finishIndicator.uniqueId)) := by
  have inside : ∀ pair, body ⊆ framed config pair body := fun pair =>
    List.Subset.trans (List.subset_append_right _ _) (List.subset_append_left _ _)
  have atEnd : turning config nextPair.forward pair.forward (.inserted
        ((framed config nextPair body).length - 1) finishIndicator.uniqueId) =
      turning config nextPair.forward pair.forward (.inserted
        (edge config nextPair.backward startIndicator ++ body).length
          finishIndicator.uniqueId) := by
    unfold turning
    split
    case isTrue new => simp [framed, edge, new.1]
    case isFalse => rfl
  rw [updatesBetween_eq, removed_framed config pair (inside nextPair),
    inserted_framed config nextPair distinct (inside pair), atEnd]
  congr 1
  · congr 1
    · exact removed_edge fun shown => start_mem_framed (start_not_mem_body distinct shown)
    · exact removed_edge fun shown => finish_mem_framed (finish_not_mem_body distinct shown)
  · congr 1
    · exact inserted_edge distinct 0
        (fun shown => start_mem_framed (start_not_mem_body nextDistinct shown))
        (List.Subset.trans (List.subset_append_left _ body) (List.subset_append_left _ _))
    · exact inserted_edge distinct _
        (fun shown => finish_mem_framed (finish_not_mem_body nextDistinct shown))
        (List.subset_append_right _ _)

end RoomTimeline
