import Mathlib.Data.List.Forall2
import RoomTimeline.Proofs.Blocks
import RoomTimeline.Proofs.Depiction

/-!
# What renderings of one timeline leave behind

A rendering may take over collapsed entries from the one before. `Remembered` says which can be in
use at all: those that some number of renderings have left, of any collections of envelopes made by
then. The entry for a run is found by an identifier, and its members are compared by number. What
makes it the right one is that numbers tell apart all that has been made, which no rendering changes
(`Remembered.reliable`).

So each entry that is shown of a collection stands for one of its blocks, in order
(`Reliable.stands`), even where identifiers repeat in the collection.
-/

namespace RoomTimeline

/-! ## What earlier renderings leave behind -/

/-- The envelopes made so far, the collapsed entries in use and the next free number, after any
number of renderings with envelopes made in between. -/
inductive Remembered : List Envelope → Runs → Nat → Prop
  | nothing : Remembered [] [] firstSerial
  /-- Envelopes are made, numbered from the first free number on. -/
  | envelopesMade {known entries : List Envelope} {runs : Runs} {serial next : Nat}
      (before : Remembered known runs serial) (later : serial ≤ next)
      (numbered : Numbered next entries) (new : ∀ entry ∈ entries, serial ≤ entry.serial) :
      Remembered (known ++ entries) runs next
  /-- A collection of known envelopes is rendered. -/
  | collectionRendered {known items : List Envelope} {runs : Runs} {serial : Nat}
      (before : Remembered known runs serial) (config : Config) (policy : GroupingPolicy)
      (pair : PaginationPair) (inside : items ⊆ known) :
      Remembered known (render config policy pair runs serial items).runs
        (render config policy pair runs serial items).serial

/-- What is left behind can be relied on: numbers tell the known envelopes apart, and each collapsed
entry is the entry of a run of them under a number of its own. -/
structure Reliable (known : List Envelope) (runs : Runs) (serial : Nat) : Prop where
  numbered : Numbered serial known
  formed : ∀ run ∈ runs, ∃ first second more,
    run = runEntry run.serial first (first :: second :: more) ∧ first :: second :: more ⊆ known
  below : ∀ run ∈ runs, run.serial < serial
  apart : ∀ entry ∈ known, ∀ run ∈ runs, entry.serial ≠ run.serial

/-- A folding pass knows the members of what it takes over. -/
theorem Reliable.recalls {known items : List Envelope} {runs : Runs} {serial : Nat}
    (reliable : Reliable known runs serial) (inside : items ⊆ known) : Recalls runs items := by
  constructor
  intro run member
  obtain ⟨first, second, more, formed, part⟩ := reliable.formed run member
  exact ⟨first, second, more, formed, fun held inRun entry inItems same =>
    reliable.numbered.eq_of_serial (part inRun) (inside inItems) same⟩

/-! ## A pass over the blocks -/

/-- What an entry that a pass shows stands for: itself, or a run of which it is the collapsed entry.
A collapsed entry is one of those in use before the pass or has a new number. -/
inductive StandsFor (runs : Runs) (serial : Nat) : Envelope → List Envelope → Prop
  | itself (entry : Envelope) : StandsFor runs serial entry [entry]
  | folded {number : Nat} {first second : Envelope} {more : List Envelope}
      (own : runEntry number first (first :: second :: more) ∈ runs ∨ serial ≤ number) :
      StandsFor runs serial (runEntry number first (first :: second :: more))
        (first :: second :: more)

/-- What stands for a block later in a pass stands for it from the start. -/
theorem StandsFor.mono {runs fewer : Runs} {serial later : Nat} {entry : Envelope}
    {block : List Envelope} (stands : StandsFor fewer later entry block) (part : fewer ⊆ runs)
    (above : serial ≤ later) : StandsFor runs serial entry block := by
  cases stands with
  | itself => exact .itself entry
  | folded own => exact .folded (own.imp (fun member => part member) (Nat.le_trans above))

namespace CollapsePass

/-- What a pass does to blocks: it shows an entry for each of them, in order, and the collapsed
entries in use after it have been so before it or belong to runs among the blocks. -/
structure Stood (pass : CollapsePass) (blocks : List (List Envelope)) : Prop where
  stands : List.Forall₂ (StandsFor pass.previous pass.serial) (pass.blocks blocks).1 blocks
  later : pass.serial ≤ (pass.blocks blocks).2.serial
  entered : ∀ run ∈ (pass.blocks blocks).2.runs, run ∈ pass.runs ∨
    run.serial < (pass.blocks blocks).2.serial ∧
      (run ∈ pass.previous ∨ pass.serial ≤ run.serial) ∧
      ∃ first second more, run = runEntry run.serial first (first :: second :: more) ∧
        first :: second :: more ∈ blocks

/-- The pass behind a run, however the entry for the run has been come by. -/
def beyond (pass : CollapsePass) (serial next : Nat) (first : Envelope)
    (members : List Envelope) : CollapsePass where
  previous := pass.previous.erase (Runs.idFor first)
  runs := pass.runs.insert (runEntry serial first members)
  serial := next

/-- What a pass does to the blocks behind a run, with the entry of the run put in front, is what it
does to the blocks from that run on. -/
theorem Stood.run {pass : CollapsePass} {serial next : Nat} {first second : Envelope}
    {more : List Envelope} {rest : List (List Envelope)}
    (found : pass.entryFor first (first :: second :: more) =
      (runEntry serial first (first :: second :: more),
        pass.beyond serial next first (first :: second :: more)))
    (above : pass.serial ≤ next) (used : serial < next)
    (own : runEntry serial first (first :: second :: more) ∈ pass.previous ∨ pass.serial ≤ serial)
    (others : (pass.beyond serial next first (first :: second :: more)).Stood rest) :
    pass.Stood ((first :: second :: more) :: rest) := by
  have fewer : (pass.beyond serial next first (first :: second :: more)).previous ⊆
      pass.previous := (erase_sublist _ _).subset
  have stepped : pass.blocks ((first :: second :: more) :: rest) =
      (runEntry serial first (first :: second :: more) ::
        ((pass.beyond serial next first (first :: second :: more)).blocks rest).1,
      ((pass.beyond serial next first (first :: second :: more)).blocks rest).2) := by
    simp [CollapsePass.blocks, CollapsePass.block, found]
  refine ⟨?_, ?_, ?_⟩
  · rw [stepped]
    exact .cons (.folded own)
      (others.stands.imp fun entry block stands => stands.mono fewer above)
  · rw [stepped]
    exact Nat.le_trans above others.later
  · rw [stepped]
    intro run member
    rcases others.entered run member with
      entered | ⟨counted, source, head, next, tail, formed, inside⟩
    · rcases List.mem_append.mp entered with old | new
      · exact Or.inl ((erase_sublist _ _).subset old)
      · rw [List.mem_singleton.mp new]
        exact Or.inr ⟨Nat.lt_of_lt_of_le used others.later, own, first, second, more, rfl,
          List.mem_cons_self⟩
    · exact Or.inr ⟨counted, source.imp (fun known => fewer known) (Nat.le_trans above),
        head, next, tail, formed, List.mem_cons_of_mem _ inside⟩

/-- A pass that knows the entries of its blocks shows them all, whatever identifiers repeat. -/
theorem stood {pass : CollapsePass} {blocks : List (List Envelope)}
    (full : ∀ block ∈ blocks, block ≠ []) (recalls : Recalls pass.previous blocks.flatten)
    (below : ∀ run ∈ pass.previous, run.serial < pass.serial) : pass.Stood blocks := by
  induction blocks generalizing pass with
  | nil => exact ⟨List.Forall₂.nil, Nat.le_refl _, fun run member => Or.inl member⟩
  | cons block rest inductionHypothesis =>
    have fullRest : ∀ other ∈ rest, other ≠ [] :=
      fun other member => full other (List.mem_cons_of_mem _ member)
    have part : rest.flatten ⊆ (block :: rest).flatten := List.subset_append_right _ _
    match block, full block List.mem_cons_self, recalls, part with
    | [], filled, _, _ => exact absurd rfl filled
    | [entry], _, recalls, part =>
      have others := inductionHypothesis fullRest (recalls.mono (List.Subset.refl _) part) below
      refine ⟨.cons (.itself entry) others.stands, others.later, ?_⟩
      intro run member
      refine (others.entered run member).imp id ?_
      rintro ⟨counted, source, first, second, more, formed, inside⟩
      exact ⟨counted, source, first, second, more, formed, List.mem_cons_of_mem _ inside⟩
    | first :: second :: more, _, recalls, part =>
      have inside : first :: second :: more ⊆ ((first :: second :: more) :: rest).flatten :=
        List.subset_append_left _ _
      obtain ⟨serial, next, found, above, used, source⟩ :=
        pass.entryFor_eq (recalls.mono (List.Subset.refl _) inside) rfl below
      have fewer : (pass.beyond serial next first (first :: second :: more)).previous ⊆
          pass.previous := (erase_sublist _ _).subset
      have others : (pass.beyond serial next first (first :: second :: more)).Stood rest :=
        inductionHypothesis fullRest (recalls.mono fewer part)
          fun run member => Nat.lt_of_lt_of_le (below run (fewer member)) above
      exact others.run found above used (source.imp id fun new => Nat.le_of_eq new.symm)

end CollapsePass

/-! ## The entries between the indicators -/

/-- The blocks that a configuration lets stand for one entry each. -/
def parts (config : Config) (items : List Envelope) : List (List Envelope) :=
  if config.collapseStateEvents then blocks items else items.map fun item => [item]

/-- The parts of a collection, one after another, are the collection. -/
theorem flatten_parts (config : Config) (items : List Envelope) :
    (parts config items).flatten = items := by
  unfold parts
  split
  · exact flatten_blocks items
  · induction items with
    | nil => rfl
    | cons item rest inductionHypothesis => simpa using inductionHypothesis

namespace Reliable

variable {known items : List Envelope} {runs : Runs} {serial : Nat}

/-- What is shown of a collection of known envelopes stands for its parts, one after another. -/
theorem stands (reliable : Reliable known runs serial) (config : Config) (inside : items ⊆ known) :
    List.Forall₂ (StandsFor runs serial) (bodyOf config runs serial items).shown
      (parts config items) := by
  unfold bodyOf parts
  split
  · have stood : CollapsePass.Stood ⟨runs, [], serial⟩ (blocks items) :=
      CollapsePass.stood (ne_nil_of_mem_blocks items)
        (by simpa [flatten_blocks] using reliable.recalls inside) reliable.below
    rw [collapse_eq]
    exact stood.stands
  · induction items with
    | nil => exact .nil
    | cons item rest inductionHypothesis =>
      exact .cons (.itself item)
        (inductionHypothesis fun entry member => inside (List.mem_cons_of_mem _ member))

/-- Before anything has been made, what is left behind can be relied on. -/
theorem empty : Reliable [] [] firstSerial :=
  ⟨⟨List.nodup_nil, by simp⟩, by simp, by simp, by simp⟩

/-- What is left behind can still be relied on when more envelopes are made under new numbers. -/
theorem append_made {entries : List Envelope} {next : Nat} (reliable : Reliable known runs serial)
    (later : serial ≤ next) (numbered : Numbered next entries)
    (new : ∀ entry ∈ entries, serial ≤ entry.serial) : Reliable (known ++ entries) runs next := by
  refine ⟨?_, ?_, fun run member => Nat.lt_of_lt_of_le (reliable.below run member) later, ?_⟩
  · refine (reliable.numbered.mono later).append numbered ?_
    intro entry member other otherMember same
    have below := reliable.numbered.below entry member
    have above := new other otherMember
    omega
  · intro run member
    obtain ⟨first, second, more, formed, part⟩ := reliable.formed run member
    exact ⟨first, second, more, formed, List.Subset.trans part (List.subset_append_left _ _)⟩
  · intro entry member run runMember same
    rcases List.mem_append.mp member with old | fresh
    · exact reliable.apart entry old run runMember same
    · have below := reliable.below run runMember
      have above := new entry fresh
      omega

/-- What is left behind can still be relied on when a collection of known envelopes is rendered. -/
theorem after_rendering (reliable : Reliable known runs serial) (config : Config)
    (inside : items ⊆ known) :
    Reliable known (bodyOf config runs serial items).runs
      (bodyOf config runs serial items).serial := by
  unfold bodyOf
  split
  · have stood : CollapsePass.Stood ⟨runs, [], serial⟩ (blocks items) :=
      CollapsePass.stood (ne_nil_of_mem_blocks items)
        (by simpa [flatten_blocks] using reliable.recalls inside) reliable.below
    have entered : ∀ run ∈ (collapse runs serial items).runs,
        run.serial < (collapse runs serial items).serial ∧
          (run ∈ runs ∨ serial ≤ run.serial) ∧
          ∃ first second more, run = runEntry run.serial first (first :: second :: more) ∧
            first :: second :: more ∈ blocks items := by
      rw [collapse_eq]
      intro run member
      exact (stood.entered run member).resolve_left List.not_mem_nil
    have later : serial ≤ (collapse runs serial items).serial := by
      rw [collapse_eq]
      exact stood.later
    refine ⟨reliable.numbered.mono later, ?_, fun run member => (entered run member).1, ?_⟩
    · intro run member
      obtain ⟨-, -, first, second, more, formed, isBlock⟩ := entered run member
      refine ⟨first, second, more, formed, ?_⟩
      have part : first :: second :: more ⊆ (blocks items).flatten :=
        (List.sublist_flatten_of_mem isBlock).subset
      rw [flatten_blocks] at part
      exact List.Subset.trans part inside
    · intro entry member run runMember same
      rcases (entered run runMember).2.1 with old | new
      · exact reliable.apart entry member run old same
      · have below := reliable.numbered.below entry member
        omega
  · exact reliable

end Reliable

/-- What any number of renderings leave behind can be relied on. -/
theorem Remembered.reliable {known : List Envelope} {runs : Runs} {serial : Nat}
    (remembered : Remembered known runs serial) : Reliable known runs serial := by
  induction remembered with
  | nothing => exact Reliable.empty
  | envelopesMade before later numbered new inductionHypothesis =>
    exact inductionHypothesis.append_made later numbered new
  | collectionRendered before config policy pair inside inductionHypothesis =>
    exact inductionHypothesis.after_rendering config inside

/-- A collection of known envelopes may grow: what is new in it has been made since. -/
theorem Remembered.grown {known items next : List Envelope} {runs : Runs} {serial nextSerial : Nat}
    (remembered : Remembered known runs serial) (inside : items ⊆ known)
    (grows : Grows serial items nextSerial next) :
    ∃ further, Remembered further runs nextSerial ∧ next ⊆ further := by
  refine ⟨known ++ next.filter fun entry => serial ≤ entry.serial,
    remembered.envelopesMade grows.later (grows.numbered.sublist List.filter_sublist) ?_, ?_⟩
  · intro entry member
    simpa using (List.mem_filter.mp member).2
  · intro entry member
    by_cases old : entry.serial < serial
    · exact List.mem_append_left _ (inside (grows.mem_of_old member old))
    · exact List.mem_append_right _ (List.mem_filter.mpr ⟨member, by simpa using old⟩)

end RoomTimeline
