import RoomTimeline.Proofs.Controller.Lanes
import RoomTimeline.Proofs.Controller.Shadow

/-!
# A rejected batch leaves no trace

A batch that cannot be applied changes nothing but the gate, however far its operations would have
got before the first bad one. So a run may as well be had without any such batch: there is a run to
which the source sends only the batches that can be applied, which differs from the given one in
lines of the log about batches and in when the gate is opened and those return who wait for the
first batch, and in nothing else (`rejected_leaves_no_trace`).
-/

namespace RoomTimeline.Controller

/-! ## What is compared -/

/-- Whether an effect is the return of one of some calls. -/
def Effect.returnOf (numbers : List Nat) : Effect → Bool
  | .returned call _ => call ∈ numbers
  | _ => false

/-- Whether an action concerns neither a batch nor the return of a call. -/
def Action.apart : Action → Bool
  | .sendBatch _ | .takeBatch | .resume _ => false
  | _ => true

/-- The pagination statuses that some actions lead through, one after another. -/
def paginations (setup : Setup) (state : State) : List Action → List PaginationPair
  | [] => []
  | action :: rest =>
    match step setup state action with
    | none => []
    | some (next, _) =>
      (if next.machine.pair = state.machine.pair then [] else [next.machine.pair]) ++
        paginations setup next rest

/-- The source with only those batches waiting that can be applied in turn. -/
def Source.sifted (source : Source) : Source :=
  { source with batches.queue := accepted source.batches.queue }

/-- The statuses that some actions and further ones lead through are those of the former and then
those of the latter. -/
theorem Run.paginations_append {setup : Setup} {start middle : State} {actions : List Action}
    {effects : List Effect} (run : Run setup start actions effects middle) (others : List Action) :
    paginations setup start (actions ++ others) =
      paginations setup start actions ++ paginations setup middle others := by
  induction run generalizing others with
  | nothing => rfl
  | @further actions _ _ state next action before taken inductionHypothesis =>
    rw [List.append_assoc, inductionHypothesis, inductionHypothesis, List.append_assoc]
    simp [paginations, taken]

/-- One more action adds the status that it leads to, if that is another one than before. -/
theorem Run.paginations_concat {setup : Setup} {start middle next : State} {actions : List Action}
    {effects more : List Effect} {action : Action} (run : Run setup start actions effects middle)
    (taken : step setup middle action = some (next, more)) :
    paginations setup start (actions ++ [action]) = paginations setup start actions ++
      (if next.machine.pair = middle.machine.pair then [] else [next.machine.pair]) := by
  rw [run.paginations_append]
  simp [paginations, taken]

/-! ## The run without rejected batches -/

/-- A run to which the source sends only batches that can be applied, beside a run to which it sends
all. -/
structure Purged (setup : Setup) (source : Source) (actions : List Action) (effects : List Effect)
    (state : State) (others : List Action) (more : List Effect) (gateOpen : Bool)
    (calls : List RunningCall) (waiting : List Nat) : Prop where
  run : Run setup (State.initial setup source.sifted) others more (state.shadow gateOpen calls)
  fewer : others.Sublist actions
  stream : accepted source.batches.queue ++ arrivals others =
    accepted (source.batches.queue ++ arrivals actions)
  apart : others.filter Action.apart = actions.filter Action.apart
  lessEffects : (ungated more).Sublist (ungated effects)
  sameEffects : (ungated more).filter (fun effect => !effect.aboutBatch) =
    (ungated effects).filter fun effect => !effect.aboutBatch && !effect.returnOf waiting
  statuses : paginations setup (State.initial setup source.sifted) others =
    paginations setup (State.initial setup source) actions
  follows : state.hall.Follows gateOpen calls waiting

namespace Purged

variable {setup : Setup} {source : Source} {actions others : List Action}
variable {effects more further told : List Effect} {state next : State} {gateOpen : Bool}
variable {calls : List RunningCall} {waiting : List Nat} {action : Action}

/-- A controller that nobody has used yet is beside itself without rejected batches. -/
theorem initial (setup : Setup) (source : Source) :
    Purged setup source [] [] (State.initial setup source) [] [] false [] [] :=
  ⟨.nothing, List.Sublist.refl _,
    (List.append_nil _).trans (congrArg accepted (List.append_nil _).symm), rfl,
    List.Sublist.refl _, rfl, rfl,
    ⟨fun shut => absurd shut Bool.false_ne_true, rfl,
      fun _ member => absurd member List.not_mem_nil,
      fun _ member => absurd member List.not_mem_nil⟩⟩

/-- Of all that has been sent, a further batch is accepted if it can be applied to what those that
wait before it will have left. -/
theorem accepted_further (run : Run setup (State.initial setup source) actions effects state)
    (action : Action) :
    accepted (source.batches.queue ++ arrivals (actions ++ [action])) =
      accepted (source.batches.queue ++ arrivals actions) ++
        acceptedFrom state.ahead (arrivals [action]) := by
  obtain ⟨processed, waits, built⟩ := run.exists_processed
  have ahead : SameButNumbers
      ((source.batches.queue ++ arrivals actions).foldl afterBatch (firstSerial, [])).2
      state.ahead.2 := by
    rw [waits, List.foldl_append]
    exact foldl_afterBatch_sameButNumbers state.source.batches.queue built.symm
  rw [arrivals_append, ← List.append_assoc]
  unfold accepted
  rw [acceptedFrom_append, acceptedFrom_unnumbered _ ahead]

/-- A run and the one without rejected batches stay beside each other when both take the same step.
-/
theorem further_of_shared
    (purged : Purged setup source actions effects state others more gateOpen calls waiting)
    (run : Run setup (State.initial setup source) actions effects state)
    (taken : step setup state action = some (next, further)) {nextOpen : Bool}
    {nextCalls : List RunningCall}
    (shadowed : step setup (state.shadow gateOpen calls) action =
      some (next.shadow nextOpen nextCalls, told))
    (alike : ungated told = ungated further)
    (follows : next.hall.Follows nextOpen nextCalls waiting)
    (kept : acceptedFrom state.ahead (arrivals [action]) = arrivals [action]) :
    Purged setup source (actions ++ [action]) (effects ++ further) next (others ++ [action])
      (more ++ told) nextOpen nextCalls waiting := by
  have returnsNone : ∀ effect ∈ ungated further, effect.returnOf waiting = false := by
    intro effect among
    have member : effect ∈ further := (List.mem_filter.mp among).1
    cases effect with
    | returned number result =>
      have answered : (number, result) ∈ answers further :=
        List.mem_filterMap.mpr ⟨_, member, rfl⟩
      obtain ⟨call, inside, same⟩ := (step_passes taken).exists_of_answered _ answered
      obtain rfl : call.number = number := same
      have listed := purged.follows.shared ▸ inside
      have absent : call.number ∉ waiting := by simpa using (List.mem_filter.mp listed).2
      simpa [Effect.returnOf] using absent
    | _ => rfl
  refine ⟨purged.run.further shadowed, purged.fewer.append (List.Sublist.refl _), ?_, ?_, ?_, ?_,
    ?_, follows⟩
  · rw [accepted_further run, kept, ← purged.stream, arrivals_append, List.append_assoc]
  · rw [List.filter_append, List.filter_append, purged.apart]
  · rw [ungated_append, ungated_append, alike]
    exact purged.lessEffects.append (List.Sublist.refl _)
  · rw [ungated_append, ungated_append, alike, List.filter_append, List.filter_append,
      purged.sameEffects]
    congr 1
    refine List.filter_congr ?_
    intro effect member
    rw [returnsNone effect member]
    simp
  · rw [purged.run.paginations_concat shadowed, run.paginations_concat taken, purged.statuses]
    rfl

/-- A run stays beside the one without rejected batches when it alone takes a step, if that sends or
drops a batch that cannot be applied and adds nothing but lines in the log. -/
theorem further_of_withheld
    (purged : Purged setup source actions effects state others more gateOpen calls waiting)
    (run : Run setup (State.initial setup source) actions effects state)
    (taken : step setup state action = some (next, further))
    (still : next.shadow gateOpen calls = state.shadow gateOpen calls)
    (follows : next.hall.Follows gateOpen calls waiting)
    (lines : ∀ effect ∈ ungated further, effect.aboutBatch = true)
    (left : acceptedFrom state.ahead (arrivals [action]) = [])
    (about : action = .takeBatch ∨ ∃ batch, action = .sendBatch batch) :
    Purged setup source (actions ++ [action]) (effects ++ further) next others more gateOpen calls
      waiting := by
  have machine : next.machine = state.machine := by
    have shadows := congrArg State.machine still
    exact shadows
  refine ⟨still ▸ purged.run, purged.fewer.trans (List.sublist_append_left _ _), ?_, ?_, ?_, ?_,
    ?_, follows⟩
  · rw [accepted_further run, left, List.append_nil, purged.stream]
  · have apart : action.apart = false := by
      rcases about with rfl | ⟨batch, rfl⟩
      · rfl
      · rfl
    simp [purged.apart, apart]
  · rw [ungated_append]
    exact purged.lessEffects.trans (List.sublist_append_left _ _)
  · have none : (ungated further).filter
        (fun effect => !effect.aboutBatch && !effect.returnOf waiting) = [] := by
      refine List.filter_eq_nil_iff.mpr ?_
      intro effect member
      simp [lines effect member]
    rw [ungated_append, List.filter_append, none, List.append_nil, purged.sameEffects]
  · rw [run.paginations_concat taken, machine, if_pos rfl, List.append_nil, purged.statuses]

/-- A run stays beside the one without rejected batches when a call returns in it that goes on
waiting at the gate in the other. -/
theorem further_of_unanswered
    (purged : Purged setup source actions effects state others more gateOpen calls waiting)
    (run : Run setup (State.initial setup source) actions effects state) {number : Nat}
    (taken : step setup state (.resume number) = some (next, [.returned number (.ok ())]))
    (member : ∃ call ∈ state.calls, call.number = number)
    (still : next.shadow gateOpen calls = state.shadow gateOpen calls)
    (follows : next.hall.Follows gateOpen calls (number :: waiting)) :
    Purged setup source (actions ++ [.resume number]) (effects ++ [.returned number (.ok ())]) next
      others more gateOpen calls (number :: waiting) := by
  have machine : next.machine = state.machine := by
    have shadows := congrArg State.machine still
    exact shadows
  obtain ⟨call, inside, rfl⟩ := member
  have unanswered : ∀ effect ∈ ungated effects,
      effect.returnOf (call.number :: waiting) = effect.returnOf waiting := by
    intro effect among
    have known : effect ∈ effects := (List.mem_filter.mp among).1
    cases effect with
    | returned other result =>
      have answered : (other, result) ∈ answers effects := List.mem_filterMap.mpr ⟨_, known, rfl⟩
      have distinct : other ≠ call.number := by
        rintro rfl
        exact run.attended.unanswered call inside (List.mem_map_of_mem answered)
      simp [Effect.returnOf, distinct]
    | _ => rfl
  refine ⟨still ▸ purged.run, purged.fewer.trans (List.sublist_append_left _ _), ?_, ?_, ?_, ?_,
    ?_, follows⟩
  · rw [accepted_further run, purged.stream]
    exact (List.append_nil _).symm
  · simp [purged.apart, Action.apart]
  · rw [ungated_append]
    exact purged.lessEffects.trans (List.sublist_append_left _ _)
  · have same : (ungated effects).filter (fun effect =>
        !effect.aboutBatch && !effect.returnOf (call.number :: waiting)) =
        (ungated effects).filter fun effect => !effect.aboutBatch && !effect.returnOf waiting := by
      refine List.filter_congr ?_
      intro effect known
      rw [unanswered effect known]
    rw [ungated_append, List.filter_append, same, ← purged.sameEffects]
    simp [ungated, Effect.atGate, Effect.returnOf]
  · rw [run.paginations_concat taken, machine, if_pos rfl, List.append_nil, purged.statuses]

end Purged

/-- Beside every run there is one without rejected batches. -/
theorem Run.purged {setup : Setup} {source : Source} {actions : List Action} {effects : List Effect}
    {state : State} (run : Run setup (State.initial setup source) actions effects state) :
    ∃ others more gateOpen calls waiting,
      Purged setup source actions effects state others more gateOpen calls waiting := by
  induction run with
  | nothing => exact ⟨_, _, _, _, _, Purged.initial setup source⟩
  | further before taken inductionHypothesis =>
    obtain ⟨others, more, gateOpen, calls, waiting, purged⟩ := inductionHypothesis
    have distinct := before.lane_sound.1.distinct
    cases step_echoes purged.follows purged.run.attended distinct taken with
    | shared nextOpen nextCalls told shadowed alike follows kept =>
      exact ⟨_, _, _, _, _, purged.further_of_shared before taken shadowed alike follows kept⟩
    | withheld still follows lines left about =>
      exact ⟨_, _, _, _, _, purged.further_of_withheld before taken still follows lines left about⟩
    | unanswered number returns told member still follows =>
      subst returns told
      exact ⟨_, _, _, _, _, purged.further_of_unanswered before taken member still follows⟩

/-- A rejected batch leaves no trace. If the next batch in any reachable state cannot be applied,
whatever operations it starts with, then the worker takes it, logs the fault and opens the gate if
it is closed, and nothing else changes.

So beside any run there is one without rejected batches, which ends in the shadow of the state. To
this run the source sends the same batches less those that cannot be applied in turn, and all else
is done as before, except that those batches are not taken and that some calls do not return yet.
Apart from when the gate is opened, the effects are the same in the same order, less lines in the
log about batches and the returns of these calls, and the pagination status moves through the same
values. The gate of the shadow may still be closed, and the calls in question wait at it. -/
theorem rejected_leaves_no_trace {setup : Setup} {source : Source} {actions : List Action}
    {effects : List Effect} {state : State}
    (run : Run setup (State.initial setup source) actions effects state) :
    (∀ {batch : Batch} {rest : List Batch} {fault : BatchFault}, state.dropped = false →
      state.worker.phase = .running → state.source.batches.queue = batch :: rest →
      applyBatch state.worker.serial state.worker.items batch = .error fault →
        step setup state .takeBatch =
          some ({ state with source.batches.queue := rest, gateOpen := true },
            State.received setup batch ++ [.noted (.batchDropped fault)] ++
              if state.gateOpen then [] else [.gateOpened])) ∧
    ∃ others more gateOpen calls waiting,
      Run setup (State.initial setup source.sifted) others more (state.shadow gateOpen calls) ∧
      accepted source.batches.queue ++ arrivals others =
        accepted (source.batches.queue ++ arrivals actions) ∧
      others.Sublist actions ∧ others.filter Action.apart = actions.filter Action.apart ∧
      (ungated more).Sublist (ungated effects) ∧
      (ungated more).filter (fun effect => !effect.aboutBatch) =
        (ungated effects).filter (fun effect => !effect.aboutBatch && !effect.returnOf waiting) ∧
      paginations setup (State.initial setup source.sifted) others =
        paginations setup (State.initial setup source) actions ∧
      (gateOpen = true → state.gateOpen = true) ∧
      state.calls = calls.filter (fun call => call.number ∉ waiting) ∧
      ∀ call ∈ calls, call.number ∈ waiting → call.wait = .gate := by
  constructor
  · intro batch rest fault alive running queue refused
    have dropped :=
      State.process_of_refused setup { state with source.batches.queue := rest } refused
    have taken := State.takeBatch_eq setup state running queue
    rw [dropped] at taken
    exact (if_neg (by simp [alive])).trans taken
  · obtain ⟨others, more, gateOpen, calls, waiting, purged⟩ := run.purged
    exact ⟨others, more, gateOpen, calls, waiting, purged.run, purged.stream, purged.fewer,
      purged.apart, purged.lessEffects, purged.sameEffects, purged.statuses, purged.follows.gate,
      purged.follows.shared, purged.follows.patient⟩

/-- Someone has joined, a batch has been dropped that removes too much after a reset, and such a
batch comes again. It will be dropped as well, and without both batches the same is shown. -/
theorem rejected_leaves_no_trace_after_reset :
    ∃ actions effects state others more later,
      Run Setup.ordinary (State.initial Setup.ordinary {}) actions effects state ∧
      arrivals actions = [[.append [joining "a"]],
        [.reset [saying "hello"], .append [joining "b"], .remove 7],
        [.clear, .popFront]] ∧
      step Setup.ordinary state .takeBatch =
        some ({ state with source.batches.queue := [], gateOpen := true },
          [.noted (.batchDropped (.emptyTimeline .popFront))]) ∧
      Run Setup.ordinary (State.initial Setup.ordinary {}) others more later ∧
      arrivals others = [[.append [joining "a"]]] ∧ (ungated more).Sublist (ungated effects) ∧
      later.snapshot = state.snapshot ∧ state.snapshot.ids = [⟨"a"⟩] := by
  let good : Batch := [.append [joining "a"]]
  let bad : Batch := [.reset [saying "hello"], .append [joining "b"], .remove 7]
  let worse : Batch := [.clear, .popFront]
  let actions :=
    opening ++ [.sendBatch good, .takeBatch, .sendBatch bad, .takeBatch, .sendBatch worse]
  let reached := (State.initial Setup.ordinary {}).steps Setup.ordinary actions
  have run : Run Setup.ordinary (State.initial Setup.ordinary {}) actions reached.1.2 reached.1.1 :=
    Run.of_steps (by cbv)
  have shown : reached.1.1.snapshot.ids = [⟨"a"⟩] := by cbv
  have alive : reached.1.1.dropped = false := by cbv
  have running : reached.1.1.worker.phase = .running := by cbv
  have queue : reached.1.1.source.batches.queue = [worse] := by cbv
  have opened : reached.1.1.gateOpen = true := by cbv
  have refused : applyBatch reached.1.1.worker.serial reached.1.1.worker.items worse =
      .error (.emptyTimeline .popFront) := by cbv
  have kept : accepted (arrivals actions) = [good] := by cbv
  obtain ⟨dropped, others, more, gateOpen, calls, waiting, purged, stream, -, -, less, -⟩ :=
    rejected_leaves_no_trace run
  have again := dropped alive running queue refused
  rw [opened] at again
  exact ⟨actions, reached.1.2, reached.1.1, others, more, _, run, rfl, again, purged,
    stream.trans kept, less, rfl, shown⟩

end RoomTimeline.Controller
