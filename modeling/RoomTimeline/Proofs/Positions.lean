import RoomTimeline.Proofs.Continuity
import RoomTimeline.Proofs.SenderBlocks

/-!
# Positions are a local matter

What stands far away in a sequence has no say in the position of an entry. A sequence can be cut
where two neighbours are not linked, and its positions are then those of the two parts
(`grouped_append`); a virtual entry is linked to nothing, so it can be cut there
(`grouped_virtual`). And another entry in one place leaves all positions as they were but for those
of its neighbours (`getElem?_grouped_set`).
-/

namespace RoomTimeline

variable {policy : GroupingPolicy}

/-- Entries of which the first is not linked to what precedes them have the positions that they have
by themselves. -/
theorem classifyFrom_unlinked (entries : List Envelope) :
    classifyFrom policy (some false) entries = classifyFrom policy none entries := by
  match entries with
  | [] => rfl
  | [_] => rfl
  | earlier :: later :: rest =>
    change classify (some false) (some (canGroup policy earlier later)) :: _ =
      classify none (some (canGroup policy earlier later)) :: _
    cases canGroup policy earlier later <;> rfl

/-- Where two neighbours are not linked, a sequence can be cut: its positions are those of the two
parts. -/
theorem classifyFrom_append {front back : List Envelope} {before : Option Bool}
    (filled : front ≠ [])
    (apart : ∀ last ∈ front.getLast?, ∀ next ∈ back.head?, canGroup policy last next = false) :
    classifyFrom policy before (front ++ back) =
      classifyFrom policy before front ++ classifyFrom policy none back := by
  induction front generalizing before with
  | nil => exact absurd rfl filled
  | cons first rest inductionHypothesis =>
    cases rest with
    | nil =>
      cases back with
      | nil => rfl
      | cons next others =>
        have unlinked : canGroup policy first next = false := apart first rfl next rfl
        change classify before (some (canGroup policy first next)) ::
          classifyFrom policy (some (canGroup policy first next)) (next :: others) = _
        rw [unlinked, classifyFrom_unlinked]
        rcases before with _ | _ | _ <;> rfl
    | cons second others =>
      have further : classifyFrom policy (some (canGroup policy first second))
          (second :: others ++ back) = _ :=
        inductionHypothesis (List.cons_ne_nil second others) (by simpa using apart)
      exact congrArg (classify before (some (canGroup policy first second)) :: ·) further

/-- Where two neighbours are not linked, the entries of both parts are positioned by themselves. -/
theorem grouped_append {front back : List Envelope}
    (apart : ∀ last ∈ front.getLast?, ∀ next ∈ back.head?, canGroup policy last next = false) :
    grouped policy (front ++ back) = grouped policy front ++ grouped policy back := by
  cases front with
  | nil => rfl
  | cons first rest =>
    unfold grouped
    have cut : classifyAll policy (first :: rest ++ back) =
        classifyAll policy (first :: rest) ++ classifyAll policy back := by
      simp only [classifyAll_eq_classifyFrom]
      exact classifyFrom_append (List.cons_ne_nil first rest) apart
    rw [cut]
    exact List.zipWith_append (length_classifyAll policy (first :: rest)).symm

/-- A virtual entry stands alone, and what precedes and follows it is positioned by itself. -/
theorem grouped_virtual {entry : Envelope} (isVirtual : entry.event? = none)
    (front back : List Envelope) :
    grouped policy (front ++ entry :: back) =
      grouped policy front ++ ⟨entry, .single⟩ :: grouped policy back := by
  have behind : grouped policy ([entry] ++ back) = grouped policy [entry] ++ grouped policy back :=
    grouped_append fun last isLast next _ => by
      cases isLast
      exact (canGroup_of_event?_eq_none isVirtual next).1
  have inFront : grouped policy (front ++ ([entry] ++ back)) =
      grouped policy front ++ grouped policy ([entry] ++ back) :=
    grouped_append fun last _ next isNext => by
      cases isNext
      exact (canGroup_of_event?_eq_none isVirtual last).2
  exact inFront.trans (congrArg (grouped policy front ++ ·) behind)

/-- Grouping gives as many entries as there are envelopes. -/
@[simp] theorem length_grouped (policy : GroupingPolicy) (envelopes : List Envelope) :
    (grouped policy envelopes).length = envelopes.length := by
  rw [← congrArg List.length (grouped_envelopes policy envelopes), List.length_map]

/-- A list is what precedes one of its elements, the element, and what follows. -/
theorem take_append_cons_drop {α : Type} {elements : List α} {place : Nat} {element : α}
    (there : elements[place]? = some element) :
    elements.take place ++ element :: elements.drop (place + 1) = elements := by
  obtain ⟨inside, rfl⟩ := List.getElem?_eq_some_iff.mp there
  rw [← List.drop_eq_getElem_cons inside, List.take_append_drop]

/-- The envelope in front of a place, if there is one. -/
def preceding? (envelopes : List Envelope) : Nat → Option Envelope
  | 0 => none
  | before + 1 => envelopes[before]?

/-- What stands in front of a place is the last of what comes before it. -/
theorem getLast?_take {envelopes : List Envelope} {place : Nat}
    (inside : place < envelopes.length) :
    (envelopes.take place).getLast? = preceding? envelopes place := by
  cases place with
  | zero => rfl
  | succ before =>
    have there : envelopes[before]? = some envelopes[before] := List.getElem?_eq_getElem _
    simp [preceding?, List.getLast?_take, there]

/-- An entry of a sequence, with the position that follows from it and its two neighbours. -/
theorem getElem?_grouped (policy : GroupingPolicy) (envelopes : List Envelope) (place : Nat) :
    (grouped policy envelopes)[place]? = envelopes[place]?.map fun entry =>
      ⟨entry, classify ((preceding? envelopes place).map fun last => canGroup policy last entry)
        (envelopes[place + 1]?.map (canGroup policy entry))⟩ := by
  cases found : envelopes[place]? with
  | none =>
    have outside := List.getElem?_eq_none_iff.mp found
    exact List.getElem?_eq_none (by rwa [length_grouped])
  | some entry =>
    obtain ⟨inside, -⟩ := List.getElem?_eq_some_iff.mp found
    have size : (envelopes.take place).length = place :=
      List.length_take_of_le (Nat.le_of_lt inside)
    have position := @getElem?_classifyFrom policy none (envelopes.take place) entry
      (envelopes.drop (place + 1))
    rw [take_append_cons_drop found, size, Option.or_none, List.head?_drop, getLast?_take inside]
      at position
    unfold grouped
    rw [List.getElem?_zipWith, classifyAll_eq_classifyFrom, found, position]
    rfl

/-- Each envelope stands in its place, in some position. -/
theorem exists_getElem?_grouped {envelopes : List Envelope} {place : Nat} {entry : Envelope}
    (there : envelopes[place]? = some entry) :
    ∃ group, (grouped policy envelopes)[place]? = some ⟨entry, group⟩ := by
  rw [getElem?_grouped, there]
  exact ⟨_, rfl⟩

/-- The identifiers of grouped entries are those of the envelopes. -/
theorem grouped_ids (policy : GroupingPolicy) (envelopes : List Envelope) :
    (grouped policy envelopes).map Entry.uniqueId = envelopes.map Envelope.uniqueId := by
  rw [← congrArg (List.map Envelope.uniqueId) (grouped_envelopes policy envelopes), List.map_map]
  rfl

/-- Replacing the envelope in one place changes no entry but those there and on either side. -/
theorem getElem?_grouped_set (policy : GroupingPolicy) (envelopes : List Envelope)
    (entry : Envelope) {place other : Nat} (elsewhere : other ≠ place)
    (notBefore : other + 1 ≠ place) (notBehind : other ≠ place + 1) :
    (grouped policy (envelopes.set place entry))[other]? = (grouped policy envelopes)[other]? := by
  have inFront : preceding? (envelopes.set place entry) other = preceding? envelopes other := by
    cases other with
    | zero => rfl
    | succ before => exact List.getElem?_set_ne fun same => notBehind (congrArg Nat.succ same.symm)
  rw [getElem?_grouped, getElem?_grouped, inFront, List.getElem?_set_ne elsewhere.symm,
    List.getElem?_set_ne notBefore.symm]

end RoomTimeline
