import Mathlib.Data.List.SplitBy
import RoomTimeline.Grouping

/-!
# Positions describe the blocks of one sender

Where neighbours belong together is decided link by link, and a position says only which of its two
links an entry has. Read in order, the positions of a sequence nevertheless say where its blocks
begin and end, in one way only, and the blocks are the longest stretches in which all neighbours are
linked (`classifyAll_blocks`). This holds of every policy, also of one that takes a pair in one
order and not in the other, or links an entry to each of two that it would not link to each other.

Positions are looked up in the table of all links. Proofs about them go over a sequence from front
to back instead, and take along the link to the entry before (`classifyFrom`); this gives the same
positions (`classifyAll_eq_classifyFrom`).
-/

namespace RoomTimeline

/-! ## From front to back -/

/-- The positions of a sequence, of which the first entry is linked to the one before it as `before`
says. -/
def classifyFrom (policy : GroupingPolicy) : Option Bool → List Envelope → List GroupPosition
  | _, [] => []
  | before, [_] => [classify before none]
  | before, earlier :: later :: rest =>
    let link := canGroup policy earlier later
    classify before (some link) :: classifyFrom policy (some link) (later :: rest)

/-- The position in each place follows from the links on its two sides, where the link before the
first place is the one that is taken along. -/
theorem classifyFrom_eq (policy : GroupingPolicy) (before : Option Bool) (entries : List Envelope) :
    classifyFrom policy before entries = (List.range entries.length).map fun place =>
      classify (match place with
        | 0 => before
        | link + 1 => (links policy entries)[link]?) (links policy entries)[place]? := by
  fun_induction classifyFrom policy before entries with
  | case1 => rfl
  | case2 => rfl
  | case3 before earlier later rest link inductionHypothesis =>
    have places : List.range (earlier :: later :: rest).length =
        0 :: (List.range (later :: rest).length).map Nat.succ := List.range_succ_eq_map
    rw [inductionHypothesis, places, List.map_cons, List.map_map]
    refine congrArg (classify before (some link) :: ·) (List.map_congr_left ?_)
    intro place _
    cases place <;> rfl

/-- The positions that are looked up are those that are found from front to back. -/
theorem classifyAll_eq_classifyFrom (policy : GroupingPolicy) (entries : List Envelope) :
    classifyAll policy entries = classifyFrom policy none entries :=
  (classifyFrom_eq policy none entries).symm

/-! ## Links and blocks -/

/-- Two neighbours belong together: both are events of one sender, and the policy takes the pair. -/
def Linked (policy : GroupingPolicy) (earlier later : Envelope) : Prop :=
  ∃ first second, earlier.event? = some first ∧ later.event? = some second ∧
    first.sender.userId = second.sender.userId ∧ policy earlier later = true

/-- The positions of one block, read in order. -/
inductive IsBlock : List GroupPosition → Prop
  | single : IsBlock [.single]
  | run (middles : Nat) : IsBlock (.beginning :: (List.replicate middles .middle ++ [.finish]))

/-- Two neighbours of a sequence stand in one of its parts, with what stands before them in the
whole sequence. -/
def Together {α : Type} (parts : List (List α)) (before : List α) (earlier later : α) : Prop :=
  ∃ front left right behind,
    parts = front ++ (left ++ earlier :: later :: right) :: behind ∧ front.flatten ++ left = before

/-- Two neighbours share a block just if they are linked. -/
theorem canGroup_iff {policy : GroupingPolicy} {earlier later : Envelope} :
    canGroup policy earlier later = true ↔ Linked policy earlier later := by
  unfold canGroup Linked
  cases earlier.event? with
  | none => simp
  | some first =>
    cases later.event? with
    | none => simp
    | some second => simp

/-- An entry that is no event is linked to no other. -/
theorem canGroup_of_event?_eq_none {policy : GroupingPolicy} {entry : Envelope}
    (isVirtual : entry.event? = none) (other : Envelope) :
    canGroup policy entry other = false ∧ canGroup policy other entry = false := by
  unfold canGroup
  rw [isVirtual]
  cases other.event? <;> exact ⟨rfl, rfl⟩

/-! ## Reading positions -/

/-- How many middles stand in front of an end, and what follows, can be read in one way only. -/
theorem middles_unique {few many : Nat} {rest others : List GroupPosition}
    (same : List.replicate few .middle ++ .finish :: rest =
      List.replicate many .middle ++ .finish :: others) : few = many ∧ rest = others := by
  induction few generalizing many with
  | zero =>
    cases many with
    | zero => exact ⟨rfl, List.tail_eq_of_cons_eq same⟩
    | succ many => cases List.head_eq_of_cons_eq same
  | succ few inductionHypothesis =>
    cases many with
    | zero => cases List.head_eq_of_cons_eq same
    | succ many =>
      obtain ⟨equal, tails⟩ := inductionHypothesis (List.tail_eq_of_cons_eq same)
      exact ⟨congrArg Nat.succ equal, tails⟩

namespace IsBlock

/-- Of two blocks that begin one sequence neither is longer: a block says itself where it ends. -/
theorem eq_of_append {block other rest others : List GroupPosition} (isBlock : IsBlock block)
    (isOther : IsBlock other) (same : block ++ rest = other ++ others) :
    block = other ∧ rest = others := by
  cases isBlock with
  | single =>
    cases isOther with
    | single => exact ⟨rfl, List.tail_eq_of_cons_eq same⟩
    | run middles => cases List.head_eq_of_cons_eq same
  | run middles =>
    cases isOther with
    | single => cases List.head_eq_of_cons_eq same
    | run many =>
      simp only [List.cons_append, List.append_assoc] at same
      obtain ⟨rfl, tails⟩ := middles_unique (List.tail_eq_of_cons_eq same)
      exact ⟨rfl, tails⟩

/-- No block is empty. -/
theorem ne_nil {block : List GroupPosition} (isBlock : IsBlock block) : block ≠ [] := by
  cases isBlock <;> exact List.cons_ne_nil _ _

/-- A sequence of positions splits into blocks in one way at most. -/
theorem split_unique {blocks others : List (List GroupPosition)}
    (all : ∀ block ∈ blocks, IsBlock block) (allOthers : ∀ block ∈ others, IsBlock block)
    (same : blocks.flatten = others.flatten) : blocks = others := by
  induction blocks generalizing others with
  | nil =>
    cases others with
    | nil => rfl
    | cons other rest =>
      have empty := List.append_eq_nil_iff.mp (List.flatten_cons.symm.trans same.symm)
      exact absurd empty.1 (allOthers other List.mem_cons_self).ne_nil
  | cons block rest inductionHypothesis =>
    cases others with
    | nil =>
      have empty := List.append_eq_nil_iff.mp (List.flatten_cons.symm.trans same)
      exact absurd empty.1 (all block List.mem_cons_self).ne_nil
    | cons other others =>
      obtain ⟨equal, tails⟩ := (all block List.mem_cons_self).eq_of_append
        (allOthers other List.mem_cons_self) same
      rw [equal, inductionHypothesis (fun one member => all one (List.mem_cons_of_mem _ member))
        (fun one member => allOthers one (List.mem_cons_of_mem _ member)) tails]

end IsBlock

/-! ## Positions of linked stretches -/

/-- The positions of a block of some length. -/
def blockPositions : Nat → List GroupPosition
  | 0 => []
  | 1 => [.single]
  | middles + 2 => .beginning :: (List.replicate middles .middle ++ [.finish])

/-- A block of some length has as many positions as that. -/
theorem length_blockPositions (size : Nat) : (blockPositions size).length = size := by
  rcases size with _ | _ | middles <;> simp [blockPositions]

/-- The positions of a block of some length, if that is not zero, are those of a block. -/
theorem isBlock_blockPositions {size : Nat} (filled : 0 < size) :
    IsBlock (blockPositions size) := by
  rcases size with _ | _ | middles
  · omega
  · exact .single
  · exact .run middles

variable {policy : GroupingPolicy}

/-- Behind a link, the entries of a linked stretch are in the middle up to the last, which ends it
if what follows is not linked to it. -/
theorem classifyFrom_linked {entry : Envelope} {more after : List Envelope}
    (linked : (entry :: more).IsChain fun earlier later => canGroup policy earlier later)
    (apart : ∀ last ∈ (entry :: more).getLast?, ∀ next ∈ after.head?,
      canGroup policy last next = false) :
    classifyFrom policy (some true) (entry :: more ++ after) =
      List.replicate more.length .middle ++ .finish :: classifyFrom policy (some false) after := by
  induction more generalizing entry with
  | nil =>
    cases after with
    | nil => rfl
    | cons next others =>
      have unlinked : canGroup policy entry next = false := apart entry rfl next rfl
      change classify (some true) (some (canGroup policy entry next)) :: _ = _
      rw [unlinked]
      rfl
  | cons second more inductionHypothesis =>
    obtain ⟨link, further⟩ := List.isChain_cons_cons.mp linked
    have rest := inductionHypothesis further (by simpa using apart)
    change classify (some true) (some (canGroup policy entry second)) ::
      classifyFrom policy (some (canGroup policy entry second)) (second :: more ++ after) = _
    rw [link, rest]
    rfl

/-- A linked stretch that is linked neither to what precedes nor to what follows is a block. -/
theorem classifyFrom_stretch {stretch after : List Envelope} {before : Option Bool}
    (filled : stretch ≠ [])
    (linked : stretch.IsChain fun earlier later => canGroup policy earlier later)
    (apart : ∀ last ∈ stretch.getLast?, ∀ next ∈ after.head?, canGroup policy last next = false)
    (begins : before ≠ some true) :
    classifyFrom policy before (stretch ++ after) =
      blockPositions stretch.length ++ classifyFrom policy (some false) after := by
  -- an entry that is not linked to what precedes it stands or begins as the next link says
  have unlinked : ∀ link, classify before link = classify none link := by
    intro link
    match before, begins with
    | none, _ => rfl
    | some false, _ => rcases link with _ | _ | _ <;> rfl
  match stretch, filled with
  | [entry], _ =>
    cases after with
    | nil =>
      change [classify before none] = _
      rw [unlinked]
      rfl
    | cons next others =>
      have alone : canGroup policy entry next = false := apart entry rfl next rfl
      change classify before (some (canGroup policy entry next)) ::
        classifyFrom policy (some (canGroup policy entry next)) (next :: others) = _
      rw [unlinked, alone]
      rfl
  | entry :: second :: more, _ =>
    obtain ⟨link, further⟩ := List.isChain_cons_cons.mp linked
    have rest := classifyFrom_linked further (by simpa using apart)
    change classify before (some (canGroup policy entry second)) ::
      classifyFrom policy (some (canGroup policy entry second)) (second :: more ++ after) = _
    rw [unlinked, link, rest]
    simp [blockPositions, classify]

/-- The stretches of a sequence: neighbours are linked within each of them, and not where one ends
and the next begins. -/
def stretches (policy : GroupingPolicy) (entries : List Envelope) : List (List Envelope) :=
  entries.splitBy (canGroup policy)

/-- The positions of linked stretches, put one behind another where they are not linked, are those
of as many blocks. -/
theorem classifyFrom_flatten {parts : List (List Envelope)} {before : Option Bool}
    (filled : [] ∉ parts)
    (linked : ∀ part ∈ parts, part.IsChain fun earlier later => canGroup policy earlier later)
    (apart : parts.IsChain fun part next => ∃ filled nextFilled,
      canGroup policy (part.getLast filled) (next.head nextFilled) = false)
    (begins : before ≠ some true) :
    classifyFrom policy before parts.flatten =
      (parts.map fun part => blockPositions part.length).flatten := by
  induction parts generalizing before with
  | nil => rfl
  | cons part rest inductionHypothesis =>
    obtain ⟨partFilled, restFilled⟩ := not_or.mp (List.mem_cons.not.mp filled)
    have ends : ∀ last ∈ part.getLast?, ∀ next ∈ rest.flatten.head?,
        canGroup policy last next = false := by
      intro last isLast next isNext
      cases rest with
      | nil => cases isNext
      | cons second others =>
        obtain ⟨⟨someLast, someNext, unlinked⟩, -⟩ := List.isChain_cons_cons.mp apart
        rw [List.flatten_cons, List.head?_append_of_ne_nil second someNext,
          List.head?_eq_some_head someNext] at isNext
        rw [List.getLast?_eq_some_getLast someLast] at isLast
        cases isNext
        cases isLast
        exact unlinked
    have others : classifyFrom policy (some false) rest.flatten =
        (rest.map fun part => blockPositions part.length).flatten :=
      inductionHypothesis restFilled
        (fun other member => linked other (List.mem_cons_of_mem _ member)) apart.tail (by simp)
    rw [List.flatten_cons, classifyFrom_stretch (fun empty => partFilled empty.symm)
      (linked part List.mem_cons_self) ends begins, others]
    rfl

/-- The positions of a sequence are those of its stretches as blocks. -/
theorem classifyAll_eq (policy : GroupingPolicy) (entries : List Envelope) :
    classifyAll policy entries =
      ((stretches policy entries).map fun stretch => blockPositions stretch.length).flatten := by
  have whole : classifyFrom policy none (stretches policy entries).flatten = _ :=
    classifyFrom_flatten (List.nil_notMem_splitBy _ entries) (fun _ => List.isChain_of_mem_splitBy)
      (List.isChain_getLast_head_splitBy _ entries) (by simp)
  rw [classifyAll_eq_classifyFrom]
  rwa [stretches, List.flatten_splitBy] at whole

/-! ## Neighbours -/

/-- Two neighbours stand in one part, or the first ends a part and the second begins the next. -/
theorem together_or_apart {α : Type} {parts : List (List α)} {before after : List α}
    {earlier later : α} (filled : [] ∉ parts)
    (whole : parts.flatten = before ++ earlier :: later :: after) :
    Together parts before earlier later ∨
      ∃ front block next behind, parts = front ++ block :: next :: behind ∧
        block.getLast? = some earlier ∧ next.head? = some later := by
  induction parts generalizing before with
  | nil => simp at whole
  | cons part rest inductionHypothesis =>
    obtain ⟨-, restFilled⟩ := not_or.mp (List.mem_cons.not.mp filled)
    rcases List.append_eq_append_iff.mp whole with
      ⟨further, rfl, inRest⟩ | ⟨inPart, rfl, split⟩
    · -- both stand behind the first part
      rcases inductionHypothesis restFilled inRest with
        ⟨front, left, right, behind, rfl, rfl⟩ | ⟨front, block, next, behind, rfl, last, first⟩
      · exact Or.inl ⟨part :: front, left, right, behind, rfl, List.append_assoc ..⟩
      · exact Or.inr ⟨part :: front, block, next, behind, rfl, last, first⟩
    · match inPart, split with
      | [], split =>
        have inRest : rest.flatten = [] ++ earlier :: later :: after := split.symm
        rcases inductionHypothesis restFilled inRest with
          ⟨front, left, right, behind, rfl, start⟩ | ⟨front, block, next, behind, rfl, last, first⟩
        · refine Or.inl ⟨_ :: front, left, right, behind, rfl, ?_⟩
          rw [List.flatten_cons, List.append_assoc, start, List.append_nil, List.append_nil]
        · exact Or.inr ⟨_ :: front, block, next, behind, rfl, last, first⟩
      | [only], split =>
        cases List.head_eq_of_cons_eq split
        have starts : later :: after = rest.flatten := List.tail_eq_of_cons_eq split
        match rest, restFilled, starts with
        | [] :: behind, restFilled, _ => exact absurd List.mem_cons_self restFilled
        | (first :: others) :: behind, _, starts =>
          cases List.head_eq_of_cons_eq starts
          exact Or.inr ⟨[], _, _, behind, rfl, by simp, rfl⟩
      | first :: second :: right, split =>
        cases List.head_eq_of_cons_eq split
        cases List.head_eq_of_cons_eq (List.tail_eq_of_cons_eq split)
        exact Or.inl ⟨[], before, right, rest, rfl, rfl⟩

/-- Neighbours stand in one stretch just if they are linked. -/
theorem together_iff {entries before after : List Envelope} {earlier later : Envelope}
    (whole : entries = before ++ earlier :: later :: after) :
    Together (stretches policy entries) before earlier later ↔ Linked policy earlier later := by
  rw [← canGroup_iff]
  constructor
  · rintro ⟨front, left, right, behind, found, -⟩
    have member : left ++ earlier :: later :: right ∈ stretches policy entries := by
      rw [found]
      exact List.mem_append_right _ List.mem_cons_self
    have chain := List.isChain_of_mem_splitBy member
    exact (List.isChain_append_cons_cons.mp chain).2.1
  · intro link
    have flat : (stretches policy entries).flatten = before ++ earlier :: later :: after :=
      (List.flatten_splitBy _ entries).trans whole
    rcases together_or_apart (List.nil_notMem_splitBy _ entries) flat with
      together | ⟨front, block, next, behind, found, last, first⟩
    · exact together
    · have apart := List.isChain_getLast_head_splitBy (canGroup policy) entries
      rw [show entries.splitBy (canGroup policy) = _ from found] at apart
      obtain ⟨someLast, someNext, unlinked⟩ := (List.isChain_append_cons_cons.mp apart).2.1
      rw [List.getLast?_eq_some_getLast someLast] at last
      rw [List.head?_eq_some_head someNext] at first
      cases last
      cases first
      rw [link] at unlinked
      cases unlinked

/-- In a stretch of two or more entries all are events of one sender. -/
theorem sender_of_chain {first second : Envelope} {more : List Envelope}
    (linked : (first :: second :: more).IsChain fun earlier later =>
      canGroup policy earlier later) :
    ∃ userId, ∀ entry ∈ first :: second :: more, ∃ details,
      entry.event? = some details ∧ details.sender.userId = userId := by
  induction more generalizing first second with
  | nil =>
    obtain ⟨details, others, isFirst, isSecond, same, -⟩ :=
      canGroup_iff.mp (List.isChain_cons_cons.mp linked).1
    refine ⟨details.sender.userId, ?_⟩
    simp [isFirst, isSecond, same]
  | cons third more inductionHypothesis =>
    obtain ⟨link, further⟩ := List.isChain_cons_cons.mp linked
    obtain ⟨userId, all⟩ := inductionHypothesis further
    obtain ⟨details, others, isFirst, isSecond, same, -⟩ := canGroup_iff.mp link
    refine ⟨userId, List.forall_mem_cons.mpr ⟨⟨details, isFirst, ?_⟩, all⟩⟩
    obtain ⟨known, isKnown, byUser⟩ := all second List.mem_cons_self
    rw [isSecond] at isKnown
    cases isKnown
    exact same.trans byUser

/-- The position of an entry follows from its links to the entries before and behind it. -/
theorem getElem?_classifyFrom (before : Option Bool) (front : List Envelope) (entry : Envelope)
    (after : List Envelope) :
    (classifyFrom policy before (front ++ entry :: after))[front.length]? =
      some (classify ((front.getLast?.map fun last => canGroup policy last entry).or before)
        (after.head?.map (canGroup policy entry))) := by
  induction front generalizing before with
  | nil => cases after <;> rfl
  | cons first rest inductionHypothesis =>
    cases rest with
    | nil => exact inductionHypothesis (some (canGroup policy first entry))
    | cons second others =>
      exact inductionHypothesis (some (canGroup policy first second))

/-- A message of someone, as an entry. -/
def remark (body : String) : Envelope :=
  .event ⟨0, ⟨body⟩, none, [], ""⟩ ⟨.event body, 0, .ofUserId "someone", .message (.ofText body)⟩

/-- The positions of a sequence describe its blocks, whatever the policy.
- There is one position for each entry.
- Read in order, the positions split into blocks, each of one single entry or of a beginning, any
  number of middles and an end, and they do so in one way only.
- Part the entries alike. Then two neighbours stand in one part just if they are linked: both are
  events, of one sender, and the policy takes the pair. So all entries of a part of two or more are
  events of one sender.
- A virtual entry is always single.
- The position of an entry follows from the entry and its two neighbours. -/
theorem classifyAll_blocks (policy : GroupingPolicy) (entries : List Envelope) :
    (classifyAll policy entries).length = entries.length ∧
      (∃ blocks : List (List GroupPosition), ∃ parts : List (List Envelope),
        blocks.flatten = classifyAll policy entries ∧ (∀ block ∈ blocks, IsBlock block) ∧
        (∀ others : List (List GroupPosition), others.flatten = classifyAll policy entries →
          (∀ block ∈ others, IsBlock block) → others = blocks) ∧
        parts.flatten = entries ∧ parts.map List.length = blocks.map List.length ∧
        (∀ before earlier later after, entries = before ++ earlier :: later :: after →
          (Together parts before earlier later ↔ Linked policy earlier later)) ∧
        ∀ part ∈ parts, 2 ≤ part.length → ∃ userId, ∀ entry ∈ part, ∃ details,
          entry.event? = some details ∧ details.sender.userId = userId) ∧
      (∀ before entry after, entries = before ++ entry :: after → entry.event? = none →
        (classifyAll policy entries)[before.length]? = some .single) ∧
      ∀ before entry after, entries = before ++ entry :: after →
        (classifyAll policy entries)[before.length]? =
          some (classify (before.getLast?.map fun last => canGroup policy last entry)
            (after.head?.map (canGroup policy entry))) := by
  have place : ∀ before entry after, entries = before ++ entry :: after →
      (classifyAll policy entries)[before.length]? =
        some (classify (before.getLast?.map fun last => canGroup policy last entry)
          (after.head?.map (canGroup policy entry))) := by
    rintro before entry after rfl
    rw [classifyAll_eq_classifyFrom, getElem?_classifyFrom none before entry after, Option.or_none]
  have all : ∀ block ∈ (stretches policy entries).map fun stretch =>
      blockPositions stretch.length, IsBlock block := by
    intro block member
    obtain ⟨stretch, inside, rfl⟩ := List.mem_map.mp member
    exact isBlock_blockPositions (List.length_pos_iff.mpr (List.ne_nil_of_mem_splitBy inside))
  refine ⟨length_classifyAll policy entries, ⟨_, stretches policy entries,
    (classifyAll_eq policy entries).symm, all, ?_, List.flatten_splitBy _ entries, ?_,
    fun before earlier later after => together_iff, ?_⟩, ?_, place⟩
  · intro others whole blocks
    exact IsBlock.split_unique blocks all (whole.trans (classifyAll_eq policy entries))
  · rw [List.map_map]
    exact List.map_congr_left fun stretch _ => (length_blockPositions stretch.length).symm
  · intro part member several
    match part, several, member with
    | first :: second :: more, _, member =>
      exact sender_of_chain (List.isChain_of_mem_splitBy member)
  · intro before entry after whole isVirtual
    rw [place before entry after whole]
    cases before.getLast? <;> cases after.head? <;>
      simp [canGroup_of_event?_eq_none isVirtual, classify]

/-- Of three messages of one sender only the last two are taken by the policy, which looks at their
order: the first stands alone, and the others in one part. -/
theorem classifyAll_blocks_of_ascending :
    ∃ parts : List (List Envelope), parts.flatten = [remark "b", remark "a", remark "c"] ∧
      ¬ Together parts [] (remark "b") (remark "a") ∧
      Together parts [remark "b"] (remark "a") (remark "c") := by
  obtain ⟨-, ⟨-, parts, -, -, -, whole, -, together, -⟩, -⟩ :=
    classifyAll_blocks .ascendingId [remark "b", remark "a", remark "c"]
  have apart : canGroup .ascendingId (remark "b") (remark "a") = false := by decide
  have linked : canGroup .ascendingId (remark "a") (remark "c") = true := by decide
  refine ⟨parts, whole, ?_, ?_⟩
  · rw [together [] _ _ [remark "c"] rfl, ← canGroup_iff, apart]
    simp
  · exact (together [remark "b"] _ _ [] rfl).mpr (canGroup_iff.mp linked)

end RoomTimeline
