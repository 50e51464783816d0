import Mathlib.Data.Finset.Card
import Mathlib.Data.List.Induction
import RoomTimeline.Reaction

/-!
# What a summary of reactions holds

A summary holds each key once and under each key each sender once (`ReactionSummary.Distinct`): a
pair is entered behind the others only where its key is not there yet, and else it changes in its
place (`Ordered.keys_update`).

So it can be told from the list of reactions what its summary holds, without making it
(`ReactionSummary.ofReactions_tells_first_uses`): for each key that was used and each of its users
the first use, in the order of these. Whoever reacts again in the same way adds nothing
(`ReactionSummary.add_of_known`).
-/

namespace RoomTimeline

namespace Ordered

variable {α : Type}

/-- Changing what is under a key leaves the keys as they are if it is among them, and adds it behind
them if not. -/
theorem keys_update (key : String) (change : Option α → α) (pairs : Ordered α) :
    (update key change pairs).map Prod.fst =
      if key ∈ pairs.map Prod.fst then pairs.map Prod.fst else pairs.map Prod.fst ++ [key] := by
  induction pairs with
  | nil => simp [update]
  | cons pair rest inductionHypothesis =>
    obtain ⟨name, value⟩ := pair
    by_cases same : name = key
    · simp [update, same]
    · have other : key ≠ name := fun equal => same equal.symm
      simp only [update, same, if_false, List.map_cons, inductionHypothesis, List.mem_cons, other,
        false_or]
      split <;> rfl

/-- Where no key repeats, none does after a change. -/
theorem nodup_update (key : String) (change : Option α → α) {pairs : Ordered α}
    (distinct : (pairs.map Prod.fst).Nodup) : ((update key change pairs).map Prod.fst).Nodup := by
  rw [keys_update]
  split
  · exact distinct
  · rename_i new
    rw [← List.concat_eq_append]
    exact List.Nodup.concat new distinct

/-- After a change each pair was there before, or is the one that has changed or been entered. -/
theorem mem_update {key : String} {change : Option α → α} {pairs : Ordered α} {pair : String × α}
    (member : pair ∈ update key change pairs) :
    pair ∈ pairs ∨ pair = (key, change none) ∨
      ∃ value, (key, value) ∈ pairs ∧ pair = (key, change (some value)) := by
  induction pairs with
  | nil => exact Or.inr (Or.inl (List.mem_singleton.mp member))
  | cons first rest inductionHypothesis =>
    obtain ⟨name, value⟩ := first
    unfold update at member
    split at member
    case isTrue same =>
      subst same
      rcases List.mem_cons.mp member with rfl | behind
      · exact Or.inr (Or.inr ⟨value, List.mem_cons_self, rfl⟩)
      · exact Or.inl (List.mem_cons_of_mem _ behind)
    case isFalse =>
      rcases List.mem_cons.mp member with rfl | behind
      · exact Or.inl List.mem_cons_self
      · rcases inductionHypothesis behind with old | new | ⟨known, inRest, changed⟩
        · exact Or.inl (List.mem_cons_of_mem _ old)
        · exact Or.inr (Or.inl new)
        · exact Or.inr (Or.inr ⟨known, List.mem_cons_of_mem _ inRest, changed⟩)

/-- The first pair is found under its own key only. -/
theorem lookup_cons (key name : String) (value : α) (rest : Ordered α) :
    List.lookup key ((name, value) :: rest) =
      if key = name then some value else rest.lookup key := by
  rw [List.lookup_cons]
  by_cases same : key = name
  · simp [same]
  · simp [same, beq_eq_false_iff_ne.mpr same]

/-- Under the key that is changed the new value is found, and under every other key what was found
before. -/
theorem lookup_update (key other : String) (change : Option α → α) (pairs : Ordered α) :
    (update key change pairs).lookup other =
      if other = key then some (change (pairs.lookup key)) else pairs.lookup other := by
  induction pairs with
  | nil => exact lookup_cons ..
  | cons pair rest inductionHypothesis =>
    obtain ⟨name, value⟩ := pair
    by_cases here : name = key
    · simp only [update, here, if_true, lookup_cons]
      split <;> rfl
    · have apart : key ≠ name := fun same => here same.symm
      simp only [update, here, apart, if_false, lookup_cons, inductionHypothesis]
      by_cases first : other = name
      · have notKey : other ≠ key := fun same => here (first.symm.trans same)
        rw [if_pos first, if_neg notKey, if_pos first]
      · rw [if_neg first, if_neg first]

/-- A change that keeps the value under its key changes nothing. -/
theorem update_of_kept {key : String} {change : Option α → α} {pairs : Ordered α} {value : α}
    (found : pairs.lookup key = some value) (kept : change (some value) = value) :
    update key change pairs = pairs := by
  induction pairs with
  | nil => cases found
  | cons pair rest inductionHypothesis =>
    obtain ⟨name, first⟩ := pair
    rw [lookup_cons] at found
    split at found
    case isTrue here =>
      cases found
      simp [update, here, kept]
    case isFalse apart =>
      have further : name ≠ key := fun same => apart same.symm
      simp [update, further, inductionHypothesis found]

/-- A key is there just if something is found under it. -/
theorem mem_keys_iff {key : String} {pairs : Ordered α} :
    key ∈ pairs.map Prod.fst ↔ ∃ value, pairs.lookup key = some value := by
  rw [← Option.isSome_iff_exists, List.lookup_isSome_iff, List.mem_map]
  simp only [beq_iff_eq, eq_comm (a := key)]

end Ordered

/-- One more element of a list is distinct from those before it just if it is not among them. -/
theorem eraseDups_concat {α : Type} [DecidableEq α] (elements : List α) (last : α) :
    (elements ++ [last]).eraseDups =
      if last ∈ elements then elements.eraseDups else elements.eraseDups ++ [last] := by
  have alone : [last].eraseDups = [last] := List.eraseDups_cons
  rw [List.eraseDups_append]
  split <;> simp_all [List.removeAll]

namespace ReactionSummary

/-- Each key stands once, and under each key each sender once. -/
structure Distinct (summary : ReactionSummary) : Prop where
  keys : (summary.map Prod.fst).Nodup
  senders : ∀ entry ∈ summary, (entry.2.map Prod.fst).Nodup

/-- A summary that holds each key and each sender once does so with one more reaction. -/
theorem Distinct.add {summary : ReactionSummary} (distinct : summary.Distinct)
    (reaction : Reaction) : (summary.add reaction).Distinct := by
  refine ⟨Ordered.nodup_update _ _ distinct.keys, ?_⟩
  intro entry member
  rcases Ordered.mem_update member with old | rfl | ⟨senders, known, rfl⟩
  · exact distinct.senders entry old
  · exact Ordered.nodup_update _ _ List.nodup_nil
  · exact Ordered.nodup_update _ _ (distinct.senders _ known)

/-- A summary that holds each key and each sender once does so with any more reactions. -/
theorem Distinct.foldl {summary : ReactionSummary} (distinct : summary.Distinct)
    (reactions : List Reaction) : Distinct (reactions.foldl ReactionSummary.add summary) := by
  induction reactions generalizing summary with
  | nil => exact distinct
  | cons reaction rest inductionHypothesis => exact inductionHypothesis (distinct.add reaction)

/-- The summary of any reactions holds each key and each sender once. -/
theorem distinct_ofReactions (reactions : List Reaction) : (ofReactions reactions).Distinct := by
  have nothing : Distinct [] := ⟨List.nodup_nil, by simp⟩
  exact nothing.foldl reactions

/-! ## First uses -/

/-- The senders under a key with their times, nobody under a key that was not used. -/
def senders (key : String) (summary : ReactionSummary) : Ordered UInt64 :=
  (summary.lookup key).getD []

/-- Where a summary holds each key and each sender once, no sender stands twice under a key. -/
theorem Distinct.nodup_senders {summary : ReactionSummary} (distinct : summary.Distinct)
    (key : String) : ((summary.senders key).map Prod.fst).Nodup := by
  unfold ReactionSummary.senders
  cases used : summary.lookup key with
  | none => exact List.nodup_nil
  | some senders =>
    obtain ⟨before, after, split, -⟩ := List.lookup_eq_some_iff.mp used
    exact distinct.senders (key, senders) (by simp [split])

/-- The count of a key is the number of its senders. -/
theorem count_eq (key : String) (summary : ReactionSummary) :
    summary.count key = (summary.senders key).length := by
  unfold count senders
  cases summary.lookup key <;> rfl

/-- One more reaction adds its key behind the others, unless the key has been used before. -/
theorem keys_add (summary : ReactionSummary) (reaction : Reaction) :
    (summary.add reaction).keys =
      if reaction.key ∈ summary.keys then summary.keys else summary.keys ++ [reaction.key] :=
  Ordered.keys_update ..

/-- One more reaction enters its sender under its key, where a sender keeps an earlier time, and
changes nothing under any other key. -/
theorem senders_add (summary : ReactionSummary) (reaction : Reaction) (key : String) :
    (summary.add reaction).senders key =
      if key = reaction.key then
        Ordered.update reaction.sender (fun earlier => earlier.getD reaction.timestamp)
          (summary.senders key)
      else summary.senders key := by
  unfold senders add
  rw [Ordered.lookup_update]
  split
  · rename_i same
    rw [same, Option.getD_some]
  · rfl

/-- A reaction by someone who has used the key before adds nothing. -/
theorem add_of_known {summary : ReactionSummary} {reaction : Reaction}
    (known : reaction.sender ∈ (summary.senders reaction.key).map Prod.fst) :
    summary.add reaction = summary := by
  obtain ⟨time, found⟩ := Ordered.mem_keys_iff.mp known
  cases used : summary.lookup reaction.key with
  | none => simp [senders, used] at found
  | some senders =>
    have inSenders : senders.lookup reaction.sender = some time := by
      simpa [ReactionSummary.senders, used] using found
    refine Ordered.update_of_kept used ?_
    rw [Option.getD_some]
    exact Ordered.update_of_kept inSenders rfl

/-- The last of some reactions is added to the summary of the others. -/
theorem ofReactions_concat (reactions : List Reaction) (last : Reaction) :
    ofReactions (reactions ++ [last]) = (ofReactions reactions).add last :=
  List.foldl_concat ..

/-- The keys are those that were used, in the order of their first uses. -/
theorem keys_ofReactions (reactions : List Reaction) :
    (ofReactions reactions).keys = (reactions.map Reaction.key).eraseDups := by
  induction reactions using List.reverseRecOn with
  | nil => rfl
  | append_singleton before last inductionHypothesis =>
    rw [ofReactions_concat, keys_add, inductionHypothesis, List.map_append, List.map_singleton,
      eraseDups_concat]
    simp only [List.mem_eraseDups]

/-- The senders under a key are those who have used it, in the order in which they first did. -/
theorem names_ofReactions (reactions : List Reaction) (key : String) :
    ((ofReactions reactions).senders key).map Prod.fst =
      ((reactions.filter (·.key = key)).map Reaction.sender).eraseDups := by
  induction reactions using List.reverseRecOn with
  | nil => rfl
  | append_singleton before last inductionHypothesis =>
    rw [ofReactions_concat, senders_add, List.filter_append]
    by_cases same : last.key = key
    · rw [if_pos same.symm, Ordered.keys_update, inductionHypothesis,
        List.filter_cons_of_pos (by simpa using same), List.filter_nil, List.map_append,
        List.map_singleton, eraseDups_concat]
      simp only [List.mem_eraseDups]
    · rw [if_neg (Ne.symm same), inductionHypothesis,
        List.filter_cons_of_neg (by simpa using same), List.filter_nil, List.append_nil]

/-- The time of a sender under a key is that of the sender's first reaction with this key. -/
theorem time_ofReactions (reactions : List Reaction) (key sender : String) :
    ((ofReactions reactions).senders key).lookup sender =
      (reactions.find? fun reaction => reaction.key = key ∧ reaction.sender = sender).map
        Reaction.timestamp := by
  induction reactions using List.reverseRecOn with
  | nil => rfl
  | append_singleton before last inductionHypothesis =>
    rw [ofReactions_concat, senders_add, List.find?_append]
    by_cases sameKey : last.key = key
    · rw [if_pos sameKey.symm, Ordered.lookup_update]
      by_cases sameSender : last.sender = sender
      · rw [if_pos sameSender.symm, sameSender, inductionHypothesis,
          List.find?_cons_of_pos (by simp [sameKey, sameSender])]
        cases before.find? fun reaction => reaction.key = key ∧ reaction.sender = sender <;> rfl
      · rw [if_neg (Ne.symm sameSender), inductionHypothesis,
          List.find?_cons_of_neg (by simp [sameSender]), List.find?_nil, Option.or_none]
    · rw [if_neg (Ne.symm sameKey), inductionHypothesis,
        List.find?_cons_of_neg (by simp [sameKey]), List.find?_nil, Option.or_none]

/-- The count of a key is the number of different senders who have used it. -/
theorem count_ofReactions (reactions : List Reaction) (key : String) :
    (ofReactions reactions).count key =
      ((reactions.filter (·.key = key)).map Reaction.sender).toFinset.card := by
  let names := ((ofReactions reactions).senders key).map Prod.fst
  let users := (reactions.filter (·.key = key)).map Reaction.sender
  have once : names.Nodup := (distinct_ofReactions reactions).nodup_senders key
  have sameUsers : names.toFinset = users.toFinset := by
    ext sender
    simp [names, users, names_ofReactions]
  calc (ofReactions reactions).count key
      = names.length := by rw [count_eq, List.length_map]
    _ = names.toFinset.card := (List.toFinset_card_of_nodup once).symm
    _ = users.toFinset.card := by rw [sameUsers]

/-- Only the summary of no reactions is empty. -/
theorem isEmpty_ofReactions (reactions : List Reaction) :
    (ofReactions reactions).isEmpty = reactions.isEmpty := by
  cases reactions with
  | nil => rfl
  | cons first rest =>
    have used : first.key ∈ (ofReactions (first :: rest)).keys := by
      rw [keys_ofReactions]
      exact List.mem_eraseDups.mpr List.mem_cons_self
    cases summary : ofReactions (first :: rest) with
    | nil => simp [summary, keys] at used
    | cons entry others => rfl

/-- Reactions that are all known add nothing to a summary. -/
theorem ofReactions_append_of_known {reactions more : List Reaction}
    (known : ∀ reaction ∈ more, ∃ earlier ∈ reactions,
      earlier.key = reaction.key ∧ earlier.sender = reaction.sender) :
    ofReactions (reactions ++ more) = ofReactions reactions := by
  induction more using List.reverseRecOn with
  | nil => rw [List.append_nil]
  | append_singleton before last inductionHypothesis =>
    have nothingYet := inductionHypothesis fun reaction member =>
      known reaction (List.mem_append_left _ member)
    obtain ⟨earlier, member, sameKey, sameSender⟩ :=
      known last (List.mem_append_right _ (List.mem_singleton_self last))
    rw [← List.append_assoc, ofReactions_concat, nothingYet]
    refine add_of_known ?_
    rw [names_ofReactions, List.mem_eraseDups]
    exact List.mem_map.mpr
      ⟨earlier, List.mem_filter.mpr ⟨member, by simpa using sameKey⟩, sameSender⟩

/-- The summary of a list of reactions says who first used which key when.
- Its keys are the distinct keys that were used, in the order of their first uses.
- Under each key are the distinct senders who used it, in the order in which they first did, each
  with the time of that use; their number is counted, which is none for a key that nobody used.
- It is empty just if there are no reactions.
- Reactions behind the others add nothing if their senders have used their keys before, and no count
  depends on the order of the reactions. -/
theorem ofReactions_tells_first_uses (reactions : List Reaction) :
    (ofReactions reactions).keys = (reactions.map Reaction.key).eraseDups ∧
    (∀ key,
      ((ofReactions reactions).senders key).map Prod.fst =
        ((reactions.filter (·.key = key)).map Reaction.sender).eraseDups ∧
      (∀ sender, ((ofReactions reactions).senders key).lookup sender =
        (reactions.find? fun reaction => reaction.key = key ∧ reaction.sender = sender).map
          Reaction.timestamp) ∧
      (ofReactions reactions).count key =
        ((reactions.filter (·.key = key)).map Reaction.sender).toFinset.card) ∧
    (ofReactions reactions).isEmpty = reactions.isEmpty ∧
    (∀ more : List Reaction,
      (∀ reaction ∈ more, ∃ earlier ∈ reactions,
        earlier.key = reaction.key ∧ earlier.sender = reaction.sender) →
      ofReactions (reactions ++ more) = ofReactions reactions) ∧
    ∀ others : List Reaction, others.Perm reactions →
      ∀ key, (ofReactions others).count key = (ofReactions reactions).count key := by
  refine ⟨keys_ofReactions reactions, fun key => ⟨names_ofReactions reactions key,
    time_ofReactions reactions key, count_ofReactions reactions key⟩,
    isEmpty_ofReactions reactions, fun more known => ofReactions_append_of_known known, ?_⟩
  intro others reordered key
  have sameUsers := List.toFinset_eq_of_perm _ _
    ((reordered.filter (·.key = key)).map Reaction.sender)
  rw [count_ofReactions, count_ofReactions, sameUsers]

/-- Of four reactions by two senders one is made a second time, at another time. Two more that are
known add nothing. In another order the keys are turned round and a sender has another first use,
but as many senders are counted. -/
theorem ofReactions_tells_first_uses_of_repeats :
    ∃ reactions others : List Reaction,
      reactions = [⟨"👍", "alice", 1⟩, ⟨"🎉", "bob", 2⟩, ⟨"👍", "bob", 3⟩, ⟨"👍", "alice", 4⟩] ∧
      others = [⟨"🎉", "bob", 2⟩, ⟨"👍", "alice", 4⟩, ⟨"👍", "bob", 3⟩, ⟨"👍", "alice", 1⟩] ∧
      (ofReactions reactions).keys = ["👍", "🎉"] ∧ (ofReactions others).keys = ["🎉", "👍"] ∧
      ((ofReactions reactions).senders "👍").map Prod.fst = ["alice", "bob"] ∧
      ((ofReactions reactions).senders "👍").lookup "alice" = some 1 ∧
      ((ofReactions others).senders "👍").lookup "alice" = some 4 ∧
      (ofReactions reactions).count "👍" = 2 ∧ (ofReactions reactions).count "🚀" = 0 ∧
      ofReactions (reactions ++ [⟨"🎉", "bob", 0⟩, ⟨"👍", "bob", 5⟩]) = ofReactions reactions ∧
      (ofReactions others).count "👍" = (ofReactions reactions).count "👍" := by
  let reactions : List Reaction :=
    [⟨"👍", "alice", 1⟩, ⟨"🎉", "bob", 2⟩, ⟨"👍", "bob", 3⟩, ⟨"👍", "alice", 4⟩]
  let others : List Reaction :=
    [⟨"🎉", "bob", 2⟩, ⟨"👍", "alice", 4⟩, ⟨"👍", "bob", 3⟩, ⟨"👍", "alice", 1⟩]
  obtain ⟨keys, users, -, repeats, reorders⟩ := ofReactions_tells_first_uses reactions
  obtain ⟨otherKeys, otherUsers, -⟩ := ofReactions_tells_first_uses others
  refine ⟨reactions, others, rfl, rfl, keys.trans (by decide), otherKeys.trans (by decide),
    (users "👍").1.trans (by decide), ((users "👍").2.1 "alice").trans (by decide),
    ((otherUsers "👍").2.1 "alice").trans (by decide), (users "👍").2.2.trans (by decide),
    (users "🚀").2.2.trans (by decide), repeats _ (by decide), reorders others (by decide) "👍"⟩

end ReactionSummary

end RoomTimeline
