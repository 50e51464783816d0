import Mathlib.Data.List.Chain
import RoomTimeline.Collapse

/-!
# The blocks of a collection

A collection splits into blocks (`blocks`). A longest run of collapsible entries is one block
(`blocks_longestRun`), every other entry is one by itself (`blocks_single`), and no two neighbouring
blocks could be one (`blocks_isChain`). All of this rests on one law. A collection can be cut where
two neighbours are not both collapsible, and its blocks are then those of the two parts
(`blocks_append`).

Folding does not split a collection. It goes over the entries and keeps those of a run until the run
has come to its end. What it shows are the blocks nevertheless, one after another (`collapse_eq`).
-/

namespace RoomTimeline

/-- Split a sequence into blocks: each longest run of collapsible entries is one block, and every
    other entry is a block of its own. -/
def blocks : List Envelope → List (List Envelope)
  | [] => []
  | item :: rest =>
    match blocks rest with
    | (next :: more) :: others =>
      if item.isCollapsible && next.isCollapsible then (item :: next :: more) :: others
      else [item] :: (next :: more) :: others
    | others => [item] :: others

/-- The blocks of a sequence, one after another, are the sequence. -/
theorem flatten_blocks (items : List Envelope) : (blocks items).flatten = items := by
  induction items with
  | nil => rfl
  | cons item rest ih =>
    unfold blocks
    split
    · rename_i next more others found
      rw [found] at ih
      split <;> simpa using ih
    · simpa using ih

/-- Whether all entries of a block may be folded. -/
def foldable (block : List Envelope) : Bool := block.all Envelope.isCollapsible

/-- A run of collapsible entries of a collection, with what stands before and after it, that no
further entry could be added to at either end. -/
structure LongestRun (before run after : List Envelope) : Prop where
  collapsible : ∀ entry ∈ run, entry.isCollapsible = true
  begins : ∀ entry ∈ before.getLast?, entry.isCollapsible = false
  ends : ∀ entry ∈ after.head?, entry.isCollapsible = false

/-! ## One more entry in front -/

/-- The first entry of the first block is the first entry of the collection. -/
theorem head?_of_blocks {items : List Envelope} {first : Envelope} {more : List Envelope}
    {others : List (List Envelope)} (found : blocks items = (first :: more) :: others) :
    items.head? = some first := by
  rw [← flatten_blocks items, found]
  rfl

/-- A collection that is not empty has a first block, which is not empty either. -/
theorem blocks_of_head? {items : List Envelope} {first : Envelope}
    (starts : items.head? = some first) :
    ∃ more others, blocks items = (first :: more) :: others := by
  cases found : blocks items with
  | nil =>
    have empty := flatten_blocks items
    rw [found] at empty
    rw [← empty] at starts
    cases starts
  | cons block others =>
    cases block with
    | nil =>
      cases items with
      | nil => cases starts
      | cons item rest =>
        unfold blocks at found
        split at found
        · split at found <;> cases found
        · cases found
    | cons head more =>
      rw [head?_of_blocks found] at starts
      cases starts
      exact ⟨more, others, rfl⟩

/-- An entry that cannot be folded with the next one is a block by itself. -/
theorem blocks_cons_of_apart {item : Envelope} {rest : List Envelope}
    (apart : ∀ next ∈ rest.head?, (item.isCollapsible && next.isCollapsible) = false) :
    blocks (item :: rest) = [item] :: blocks rest := by
  rw [blocks]
  split
  · rename_i next more others found
    rw [if_neg (by simp [apart next (head?_of_blocks found)]), found]
  · rfl

/-- An entry that can be folded with the next one joins its block. -/
theorem blocks_cons_of_joined {item next : Envelope} {rest more : List Envelope}
    {others : List (List Envelope)} (found : blocks rest = (next :: more) :: others)
    (joined : (item.isCollapsible && next.isCollapsible) = true) :
    blocks (item :: rest) = (item :: next :: more) :: others := by
  rw [blocks, found]
  exact if_pos joined

/-- An entry that is put in front of a collection joins the first block or is a block by itself,
according to whether it can be folded with the entry that it is put in front of. -/
theorem blocks_cons (item : Envelope) (rest : List Envelope) :
    (∃ next more others, blocks rest = (next :: more) :: others ∧
      (item.isCollapsible && next.isCollapsible) = true ∧
      blocks (item :: rest) = (item :: next :: more) :: others) ∨
    (∀ next ∈ rest.head?, (item.isCollapsible && next.isCollapsible) = false) ∧
      blocks (item :: rest) = [item] :: blocks rest := by
  cases starts : rest.head? with
  | none => exact Or.inr ⟨nofun, blocks_cons_of_apart (by simp [starts])⟩
  | some next =>
    obtain ⟨more, others, found⟩ := blocks_of_head? starts
    cases joined : item.isCollapsible && next.isCollapsible with
    | true => exact Or.inl ⟨next, more, others, found, joined, blocks_cons_of_joined found joined⟩
    | false =>
      have apart : ∀ other ∈ rest.head?, (item.isCollapsible && other.isCollapsible) = false := by
        simpa [starts] using joined
      exact Or.inr ⟨starts ▸ apart, blocks_cons_of_apart apart⟩

/-! ## Cutting a collection -/

/-- A collection can be cut where two neighbours are not both collapsible: its blocks are those of
the two parts. -/
theorem blocks_append {front back : List Envelope}
    (apart : ∀ last ∈ front.getLast?, ∀ first ∈ back.head?,
      (last.isCollapsible && first.isCollapsible) = false) :
    blocks (front ++ back) = blocks front ++ blocks back := by
  induction front with
  | nil => rfl
  | cons item rest inductionHypothesis =>
    cases rest with
    | nil => exact blocks_cons_of_apart (apart item rfl)
    | cons next others =>
      have further := inductionHypothesis (by simpa using apart)
      have starts : (next :: others).head? = some next := rfl
      obtain ⟨more, behind, found⟩ := blocks_of_head? starts
      have longer : blocks (next :: others ++ back) =
          (next :: more) :: (behind ++ blocks back) := by
        rw [further, found]
        rfl
      rw [List.cons_append]
      cases joined : item.isCollapsible && next.isCollapsible with
      | true =>
        rw [blocks_cons_of_joined longer joined, blocks_cons_of_joined found joined]
        rfl
      | false =>
        have first : blocks (item :: (next :: others ++ back)) =
            [item] :: blocks (next :: others ++ back) :=
          blocks_cons_of_apart (by simpa using joined)
        have second : blocks (item :: next :: others) = [item] :: blocks (next :: others) :=
          blocks_cons_of_apart (by simpa using joined)
        rw [first, second, further]
        rfl

/-- A run of collapsible entries is one block. -/
theorem blocks_run {run : List Envelope} (filled : run ≠ [])
    (collapsible : ∀ entry ∈ run, entry.isCollapsible = true) : blocks run = [run] := by
  induction run with
  | nil => exact absurd rfl filled
  | cons item rest inductionHypothesis =>
    cases rest with
    | nil => rfl
    | cons next others =>
      have found := inductionHypothesis (List.cons_ne_nil _ _) fun entry member =>
        collapsible entry (List.mem_cons_of_mem _ member)
      exact blocks_cons_of_joined found (by
        rw [collapsible item List.mem_cons_self,
          collapsible next (List.mem_cons_of_mem _ List.mem_cons_self)]
        rfl)

/-- A longest run of collapsible entries is one block of the collection. -/
theorem blocks_longestRun {before run after : List Envelope}
    (longest : LongestRun before run after) (filled : run ≠ []) :
    blocks (before ++ run ++ after) = blocks before ++ run :: blocks after := by
  have behind : ∀ last ∈ (before ++ run).getLast?, ∀ first ∈ after.head?,
      (last.isCollapsible && first.isCollapsible) = false := by
    intro last _ first starts
    rw [longest.ends first starts, Bool.and_false]
  have inFront : ∀ last ∈ before.getLast?, ∀ first ∈ run.head?,
      (last.isCollapsible && first.isCollapsible) = false := by
    intro last ends first _
    rw [longest.begins last ends, Bool.false_and]
  rw [blocks_append behind, blocks_append inFront, blocks_run filled longest.collapsible,
    List.append_assoc]
  rfl

/-- An entry that may not be folded is one block of the collection. -/
theorem blocks_single {before after : List Envelope} {item : Envelope}
    (plain : item.isCollapsible = false) :
    blocks (before ++ item :: after) = blocks before ++ [item] :: blocks after := by
  rw [blocks_append (by
    intro last _ first starts
    cases starts
    rw [plain, Bool.and_false])]
  rw [blocks_cons_of_apart (by
    intro next _
    rw [plain, Bool.false_and])]

/-! ## What blocks look like -/

/-- Of two neighbouring blocks at least one may not be folded. -/
theorem blocks_isChain (items : List Envelope) :
    (blocks items).IsChain fun block next => (foldable block && foldable next) = false := by
  induction items with
  | nil => exact List.isChain_nil
  | cons item rest inductionHypothesis =>
    rcases blocks_cons item rest with
      ⟨next, more, others, found, joined, stepped⟩ | ⟨apart, stepped⟩
    · rw [found] at inductionHypothesis
      rw [stepped]
      -- The block grows at its front, and its neighbour is behind it.
      cases others with
      | nil => exact List.isChain_singleton _
      | cons second others =>
        obtain ⟨neighbour, further⟩ := List.isChain_cons_cons.mp inductionHypothesis
        refine List.isChain_cons_cons.mpr ⟨?_, further⟩
        obtain ⟨itemFolds, -⟩ := Bool.and_eq_true_iff.mp joined
        simpa [foldable, itemFolds] using neighbour
    · rw [stepped]
      cases rest with
      | nil => exact List.isChain_singleton _
      | cons next others =>
        have starts : (next :: others).head? = some next := rfl
        obtain ⟨more, behind, found⟩ := blocks_of_head? starts
        rw [found] at inductionHypothesis ⊢
        refine List.isChain_cons_cons.mpr ⟨?_, inductionHypothesis⟩
        have neighbour := apart next rfl
        cases folds : item.isCollapsible with
        | false => simp [foldable, folds]
        | true => simp_all [foldable]

/-! ## Folding goes over the blocks -/

namespace CollapsePass

/-- Show some blocks one after another. -/
def blocks (pass : CollapsePass) : List (List Envelope) → List Envelope × CollapsePass
  | [] => ([], pass)
  | members :: rest =>
    let shown := pass.block members
    let others := blocks shown.2 rest
    (shown.1 ++ others.1, others.2)

/-- Showing the blocks of two parts is showing those of the first and then those of the second. -/
theorem blocks_append (pass : CollapsePass) (front back : List (List Envelope)) :
    pass.blocks (front ++ back) =
      ((pass.blocks front).1 ++ ((pass.blocks front).2.blocks back).1,
        ((pass.blocks front).2.blocks back).2) := by
  induction front generalizing pass with
  | nil => rfl
  | cons block rest inductionHypothesis =>
    simp [CollapsePass.blocks, inductionHypothesis, List.append_assoc]

/-- A run is shown as one block, and nothing is shown where there is no run. -/
theorem blocks_run (pass : CollapsePass) {run : List Envelope}
    (collapsible : ∀ entry ∈ run, entry.isCollapsible = true) :
    pass.blocks (RoomTimeline.blocks run) = pass.block run := by
  by_cases filled : run = []
  · rw [filled]
    rfl
  · rw [RoomTimeline.blocks_run filled collapsible]
    simp [CollapsePass.blocks]

end CollapsePass

/-- Folding shows the entries that it still has to take, behind the run that it has not come to the
end of, block by block. -/
theorem Collapsing.flush_foldl (state : Collapsing) (items : List Envelope)
    (collapsible : ∀ entry ∈ state.run, entry.isCollapsible = true) :
    (items.foldl Collapsing.take state).flush =
      ⟨(state.pass.blocks (blocks (state.run ++ items))).2, [],
        state.shown ++ (state.pass.blocks (blocks (state.run ++ items))).1⟩ := by
  induction items generalizing state with
  | nil => rw [List.foldl_nil, List.append_nil, state.pass.blocks_run collapsible, flush]
  | cons item rest inductionHypothesis =>
    rw [List.foldl_cons]
    cases folds : item.isCollapsible with
    | true =>
      have taken : state.take item = { state with run := state.run ++ [item] } := if_pos folds
      have longer : ∀ entry ∈ state.run ++ [item], entry.isCollapsible = true := by
        intro entry member
        rcases List.mem_append.mp member with old | new
        · exact collapsible entry old
        · rw [List.mem_singleton.mp new, folds]
      rw [taken, inductionHypothesis { state with run := state.run ++ [item] } longer,
        List.append_assoc]
      rfl
    | false =>
      let ended := state.flush
      have taken : state.take item = { ended with shown := ended.shown ++ [item] } :=
        if_neg (Bool.eq_false_iff.mp folds)
      rw [taken, inductionHypothesis _ (fun entry member => absurd member List.not_mem_nil),
        blocks_single folds, state.pass.blocks_append, state.pass.blocks_run collapsible]
      simp [ended, flush, CollapsePass.blocks, CollapsePass.block]

/-- Folding a collection shows its blocks, one after another. -/
theorem collapse_eq (previous : Runs) (serial : Nat) (items : List Envelope) :
    collapse previous serial items =
      let shown := CollapsePass.blocks ⟨previous, [], serial⟩ (blocks items)
      ⟨shown.1, shown.2.runs, shown.2.serial⟩ := by
  unfold collapse
  rw [Collapsing.flush_foldl _ items (fun entry member => absurd member List.not_mem_nil)]
  rfl

end RoomTimeline
