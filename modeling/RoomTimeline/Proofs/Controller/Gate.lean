import RoomTimeline.Proofs.Controller.Identifiers
import RoomTimeline.Proofs.Controller.Callers

/-!
# Waiting for the first items

A worker opens its gate when it has processed a batch or seen that none will come, and never closes
it again. Whoever waits at the gate returns no earlier. But a call that waits for the first items
looks first at what is shown, and before the first batch that can be an indicator and nothing else:
then the call returns at once (`waitForItems_returns_late_iff`).

What a step can do to those who wait is told by `Hall.Pass`, for any step, also when the controller
goes or a fetch crashes.
-/

namespace RoomTimeline.Controller

/-- Whether the worker opens the gate by an action: it processes a batch, or sees that none will
come any more. -/
def Action.opensGate : Action → Bool
  | .takeBatch | .seeBatchesEnd => true
  | _ => false

/-- Whether by some actions the worker has processed a batch or seen that none will come. -/
def Begun (actions : List Action) : Prop := ∃ action ∈ actions, action.opensGate = true

/-- By some actions and further ones the worker has opened the gate if it has done so by the former
or by the latter. -/
theorem begun_append (actions others : List Action) :
    Begun (actions ++ others) ↔ Begun actions ∨ Begun others := by
  simp [Begun, or_and_right, exists_or]

/-- Whether an effect is about the gate: it is opened, or whoever opens it finds it open. -/
def Effect.atGate : Effect → Bool
  | .gateOpened | .assertionFailed _ => true
  | _ => false

/-- The effects that are not about the gate, in their order. -/
def ungated (effects : List Effect) : List Effect := effects.filter fun effect => !effect.atGate

@[simp] theorem ungated_append (effects more : List Effect) :
    ungated (effects ++ more) = ungated effects ++ ungated more :=
  List.filter_append ..

/-- All effects of opening the gate are about the gate. -/
@[simp] theorem ungated_firstOpening (gateOpen : Bool) :
    ungated (State.firstOpening gateOpen) = [] := by
  cases gateOpen <;> rfl

/-- The collection, the gate, and the calls that have not returned. -/
structure Hall where
  items : List Envelope
  gateOpen : Bool
  calls : List RunningCall
  nextCall : Nat

/-- The hall of a state. -/
def State.hall (state : State) : Hall :=
  ⟨state.worker.items, state.gateOpen, state.calls, state.nextCall⟩

namespace Hall

/-- The hall with a new call. -/
def enter (hall : Hall) (call : Call) (wait : Wait) : Hall :=
  { hall with
    calls := hall.calls ++ [⟨hall.nextCall, call, wait⟩]
    nextCall := hall.nextCall + 1 }

/-- The hall without a call. -/
def leave (hall : Hall) (number : Nat) : Hall :=
  { hall with calls := hall.calls.filter fun call => call.number ≠ number }

/-- What a step can do to the hall, and the calls that it answers. -/
inductive Pass (hall : Hall) : Action → Hall → List (Nat × CallResult) → Prop
  | aside {action : Action} (other : action.opensGate = false) : Pass hall action hall []
  | opens {action : Action} (items : List Envelope) (opening : action.opensGate = true) :
      Pass hall action { hall with items, gateOpen := true } []
  | enters (call : Call) (wait : Wait) :
      Pass hall (.start call) (hall.enter call wait) []
  | returns {call : RunningCall} {result : CallResult} (member : call ∈ hall.calls)
      (patient : call.wait = .gate → hall.gateOpen = true) :
      Pass hall (.resume call.number) (hall.leave call.number) [(call.number, result)]
  | abandons (number : Nat) : Pass hall (.abandon number) (hall.leave number) []
  /-- A fetch ends or crashes, which those who wait for it learn. -/
  | settles {action : Action} (other : action.opensGate = false) (number : Nat)
      (result : CallResult) :
      Pass hall action { hall with calls := hall.calls.map (Desk.settled number result) } []
  /-- The controller goes, and no call is left. -/
  | closes : Pass hall .drop { hall with calls := [] } []

end Hall

namespace State

variable (setup : Setup) (state : State)

/-- A move from a state is one of the things that a step can do to the hall. -/
def Passes (action : Action) (moved : Moved) : Prop :=
  state.hall.Pass action moved.1.hall (answers moved.2)

variable {state : State}

/-- A move by which the gate does not open, which leaves the hall as it is and answers nobody, is
one of the things that a step can do to the hall. -/
theorem Passes.of_aside {action : Action} {moved : Moved} (other : action.opensGate = false)
    (hall : moved.1.hall = state.hall) (quiet : answers moved.2 = []) :
    state.Passes action moved := by
  unfold Passes
  rw [hall, quiet]
  exact .aside other

variable (state)

/-- Whoever waits at the gate and can return does so at an open gate. -/
theorem gateOpen_of_result {call : RunningCall} {result : CallResult}
    (ready : state.result? call = some result) (gate : call.wait = .gate) :
    state.gateOpen = true := by
  have opened : state.gateOpen = true ∧ Except.ok () = result := by
    simpa [result?, gate] using ready
  exact opened.1

end State

/-- Every step is one of the things that a step can do to the hall. -/
theorem step_passes {setup : Setup} {state next : State} {action : Action} {more : List Effect}
    (taken : step setup state action = some (next, more)) : state.Passes action (next, more) := by
  have deed := step_deeds taken
  have aloof := deed.aloof
  cases deed with
  | subscribesDriven | subscribesInVain | subscribesUndriven | subscribesAgain | waits | joins
  | issues | declines => exact .enters _ _
  | returns member ready => exact .returns member (state.gateOpen_of_result ready)
  | abandons number known => exact .abandons number
  | goes => exact .closes
  | @endsFetch fetch member alive ending =>
    unfold State.Passes
    rw [(aloof rfl).2]
    exact .settles rfl fetch.number _
  | @crashes fetch member => exact .settles rfl fetch.number _
  | @commits batch rest outcome running queue applied =>
    unfold State.Passes
    rw [(aloof rfl).2]
    exact .opens outcome.items rfl
  | refuses running queue refused =>
    unfold State.Passes
    rw [(aloof rfl).2]
    exact .opens state.worker.items rfl
  | seesBatchesEnd running drained ended unseen =>
    unfold State.Passes
    rw [(aloof rfl).2]
    exact .opens state.worker.items rfl
  | _ => exact State.Passes.of_aside rfl rfl (aloof rfl).2

/-! ## What a step does to those who wait -/

namespace Hall

variable {hall after : Hall} {action : Action} {answered : List (Nat × CallResult)}

/-- The gate is open after a step if it was so before or the step opens it. -/
theorem Pass.gateOpen_iff (pass : hall.Pass action after answered) :
    after.gateOpen = true ↔ hall.gateOpen = true ∨ action.opensGate = true := by
  cases pass with
  | aside other | settles other => simp [other]
  | opens items opening => simp [opening]
  | enters | returns | abandons | closes => simp [enter, leave, Action.opensGate]

/-- A step that does not open the gate leaves the collection as it is. -/
theorem Pass.items_eq (pass : hall.Pass action after answered) (other : action.opensGate = false) :
    after.items = hall.items := by
  cases pass with
  | opens items opening =>
    rw [other] at opening
    cases opening
  | aside | enters | returns | abandons | settles | closes => rfl

/-- Numbers are given to calls once, and the calls that have not returned have not been told
anything. -/
structure Attended (hall : Hall) (told : List Nat) : Prop where
  bound : ∀ call ∈ hall.calls, call.number < hall.nextCall
  distinct : (hall.calls.map RunningCall.number).Nodup
  known : ∀ number ∈ told, number < hall.nextCall
  unanswered : ∀ call ∈ hall.calls, call.number ∉ told

/-- Where all calls are attended, a part of them is attended too. -/
theorem Attended.fewer {told : List Nat} {calls : List RunningCall} (attended : hall.Attended told)
    (part : calls.Sublist hall.calls) : { hall with calls }.Attended told :=
  ⟨fun call member => attended.bound call (part.subset member),
    attended.distinct.sublist (part.map _), attended.known,
    fun call member => attended.unanswered call (part.subset member)⟩

/-- A new call gets a number that nobody has had. -/
theorem Attended.enter {told : List Nat} (attended : hall.Attended told) (call : Call)
    (wait : Wait) : (hall.enter call wait).Attended told := by
  refine ⟨?_, ?_, fun number member => Nat.lt_succ_of_lt (attended.known number member), ?_⟩
  · intro other member
    rcases List.mem_append.mp member with old | new
    · exact Nat.lt_succ_of_lt (attended.bound other old)
    · rw [List.mem_singleton.mp new]
      exact Nat.lt_succ_self _
  · change ((hall.calls ++ [_]).map RunningCall.number).Nodup
    rw [List.map_append]
    refine attended.distinct.append (List.nodup_singleton _) ?_
    intro number old new
    obtain ⟨other, member, rfl⟩ := List.mem_map.mp old
    exact absurd (List.mem_singleton.mp new) (Nat.ne_of_lt (attended.bound other member))
  · intro other member
    rcases List.mem_append.mp member with old | new
    · exact attended.unanswered other old
    · rw [List.mem_singleton.mp new]
      exact fun inside => absurd (attended.known _ inside) (Nat.lt_irrefl _)

/-- Whatever a step does to the calls, they stay attended, and those who are told something are
gone. -/
theorem Pass.attended (pass : hall.Pass action after answered) {told : List Nat}
    (attended : hall.Attended told) : after.Attended (told ++ answered.map Prod.fst) := by
  cases pass with
  | aside | opens =>
    rw [List.map_nil, List.append_nil]
    exact ⟨attended.bound, attended.distinct, attended.known, attended.unanswered⟩
  | enters call wait =>
    rw [List.map_nil, List.append_nil]
    exact attended.enter call wait
  | @returns call result member =>
    have left : (hall.leave call.number).Attended told := attended.fewer List.filter_sublist
    refine ⟨left.bound, left.distinct, ?_, ?_⟩
    · intro number inside
      rcases List.mem_append.mp inside with old | new
      · exact attended.known number old
      · rw [List.mem_singleton.mp new]
        exact attended.bound call member
    · intro other inside twice
      rcases List.mem_append.mp twice with old | new
      · exact left.unanswered other inside old
      · exact of_decide_eq_true (List.mem_filter.mp inside).2 (List.mem_singleton.mp new)
  | abandons number =>
    rw [List.map_nil, List.append_nil]
    exact attended.fewer List.filter_sublist
  | settles other number result =>
    have numbers : (hall.calls.map (Desk.settled number result)).map RunningCall.number =
        hall.calls.map RunningCall.number := by
      simp [Desk.number_settled]
    rw [List.map_nil, List.append_nil]
    refine ⟨?_, numbers ▸ attended.distinct, attended.known, ?_⟩
    · intro call member
      obtain ⟨old, inside, rfl⟩ := List.mem_map.mp member
      rw [Desk.number_settled]
      exact attended.bound old inside
    · intro call member
      obtain ⟨old, inside, rfl⟩ := List.mem_map.mp member
      rw [Desk.number_settled]
      exact attended.unanswered old inside
  | closes =>
    rw [List.map_nil, List.append_nil]
    exact attended.fewer (List.nil_sublist _)

/-- A call that is answered by a step had not returned before. -/
theorem Pass.exists_of_answered (pass : hall.Pass action after answered) :
    ∀ answer ∈ answered, ∃ call ∈ hall.calls, call.number = answer.1 := by
  cases pass with
  | @returns call result member =>
    intro answer inside
    rw [List.mem_singleton.mp inside]
    exact ⟨call, member, rfl⟩
  | aside | opens | enters | abandons | settles | closes =>
    exact fun answer inside => absurd inside List.not_mem_nil

/-- A number has been given to a call, and any call of that number that has not returned waits at
the gate. -/
structure Patient (hall : Hall) (number : Nat) : Prop where
  known : number < hall.nextCall
  waits : ∀ call ∈ hall.calls, call.number = number → call.wait = .gate

/-- Who waits at a closed gate is not answered and goes on waiting there. -/
theorem Pass.patient (pass : hall.Pass action after answered) {number : Nat}
    (patient : hall.Patient number) (closed : hall.gateOpen = false) :
    after.Patient number ∧ answersTo number answered = [] := by
  cases pass with
  | aside | opens => exact ⟨⟨patient.known, patient.waits⟩, rfl⟩
  | enters call wait =>
    refine ⟨⟨Nat.lt_succ_of_lt patient.known, ?_⟩, rfl⟩
    intro other member same
    rcases List.mem_append.mp member with old | new
    · exact patient.waits other old same
    · rw [List.mem_singleton.mp new] at same
      exact absurd same (Nat.ne_of_gt patient.known)
  | @returns call result member opened =>
    refine ⟨⟨patient.known, fun other inside =>
      patient.waits other (List.mem_filter.mp inside).1⟩, ?_⟩
    have other : call.number ≠ number := by
      intro same
      have isOpen := opened (patient.waits call member same)
      rw [closed] at isOpen
      cases isOpen
    simp [answersTo, other]
  | abandons =>
    exact ⟨⟨patient.known, fun other inside =>
      patient.waits other (List.mem_filter.mp inside).1⟩, rfl⟩
  | settles =>
    refine ⟨⟨patient.known, ?_⟩, rfl⟩
    intro other inside same
    obtain ⟨old, member, rfl⟩ := List.mem_map.mp inside
    rw [Desk.number_settled] at same
    have gate := patient.waits old member same
    simp [Desk.settled, gate]
  | closes => exact ⟨⟨patient.known, fun other member => absurd member List.not_mem_nil⟩, rfl⟩

end Hall

namespace Run

variable {setup : Setup} {source : Source} {start state : State} {actions : List Action}
variable {effects : List Effect}

/-- The gate is open just if it has been so from the start or the worker has opened it. -/
theorem gateOpen_iff (run : Run setup start actions effects state) :
    state.gateOpen = true ↔ start.gateOpen = true ∨ Begun actions := by
  induction run with
  | nothing => simp [Begun]
  | further before taken inductionHypothesis =>
    have pass := step_passes taken
    refine pass.gateOpen_iff.trans ?_
    rw [begun_append, ← or_assoc, ← inductionHypothesis]
    simp [Begun, State.hall]

/-- The collection is empty before the first batch. -/
theorem items_eq_nil (run : Run setup (State.initial setup source) actions effects state)
    (waiting : ¬ Begun actions) : state.worker.items = [] := by
  induction run with
  | nothing => rfl
  | @further _ _ _ _ _ action before taken inductionHypothesis =>
    obtain ⟨earlier, now⟩ := not_or.mp ((begun_append _ _).not.mp waiting)
    have other : action.opensGate = false := by
      simpa [Begun] using now
    exact ((step_passes taken).items_eq other).trans (inductionHypothesis earlier)

/-- In every reachable state no number has been given to two calls, and no call that has not
returned has been answered. -/
theorem attended (run : Run setup (State.initial setup source) actions effects state) :
    state.hall.Attended ((answers effects).map Prod.fst) := by
  induction run with
  | nothing =>
    have none : ∀ call ∈ (State.initial setup source).hall.calls, False :=
      fun call => List.not_mem_nil
    exact ⟨fun call member => (none call member).elim, List.nodup_nil,
      fun number member => absurd member List.not_mem_nil,
      fun call member => (none call member).elim⟩
  | further before taken inductionHypothesis =>
    rw [answers_append, List.map_append]
    exact (step_passes taken).attended inductionHypothesis

/-- Who waits at a closed gate is not answered before the worker opens it. -/
theorem patient (run : Run setup start actions effects state) {number : Nat}
    (begins : start.hall.Patient number) (closed : start.gateOpen = false)
    (waiting : ¬ Begun actions) :
    state.hall.Patient number ∧ answersTo number (answers effects) = [] := by
  induction run with
  | nothing => exact ⟨begins, rfl⟩
  | further before taken inductionHypothesis =>
    obtain ⟨earlier, -⟩ := not_or.mp (begun_append _ _ |>.not.mp waiting)
    obtain ⟨patient, silent⟩ := inductionHypothesis earlier
    have stillClosed :=
      before.gateOpen_iff.not.mpr (not_or.mpr ⟨Bool.eq_false_iff.mp closed, earlier⟩)
    obtain ⟨after, further⟩ :=
      (step_passes taken).patient patient (Bool.eq_false_iff.mpr stillClosed)
    rw [answers_append, answersTo_append, silent, further]
    exact ⟨after, rfl⟩

/-- Before the first batch nothing is shown but indicators. -/
theorem shows_indicators (run : Run setup (State.initial setup source) actions effects state)
    (waiting : ¬ Begun actions) :
    state.snapshot.entries.isEmpty = false ↔
      setup.config.showPaginationIndicators = true ∧
        (state.snapshot.pagination.backward = .paginating ∨
          state.snapshot.pagination.forward = .paginating) := by
  obtain ⟨shown, depiction, arranged⟩ := run.arranged
  have depicts := depiction.depicts
  rw [run.items_eq_nil waiting] at depicts
  have ends : state.snapshot.entries.map Entry.envelope =
      indicator setup.config state.snapshot.pagination.backward startIndicator ++
        indicator setup.config state.snapshot.pagination.forward finishIndicator := by
    rw [arranged, depicts.eq_nil, arrange_eq, trimmed_nil, List.append_nil]
  rw [Bool.eq_false_iff, ne_eq, List.isEmpty_iff, ← List.map_eq_nil_iff (f := Entry.envelope), ends]
  simp [indicator]
  tauto

end Run

/-! ## Calls that wait for the first batch -/

/-- A call that has an answer can return at once. -/
theorem State.exists_resumed (setup : Setup) {state : State} {call : RunningCall}
    {result : CallResult} (member : call ∈ state.calls) (alive : state.dropped = false)
    (ready : state.result? call = some result) :
    ∃ after answer, step setup state (.resume call.number) =
      some (after, [.returned call.number answer]) := by
  obtain ⟨moved, taken⟩ := Option.isSome_iff_exists.mp (isSome_resume member ready)
  obtain ⟨-, -, -, answer, -, rfl⟩ := eq_of_resume taken
  exact ⟨_, answer, by simpa [step, alive] using taken⟩

/-- Whoever enters a call that waits at the closed gate is answered only after the worker has opened
the gate. -/
theorem begun_of_answered {setup : Setup} {source : Source} {state : State} {actions : List Action}
    {effects : List Effect} (run : Run setup (State.initial setup source) actions effects state)
    {next later : State} {others : List Action} {further : List Effect}
    (after : Run setup next others further later) {call : Call}
    (entered : next.hall = state.hall.enter call .gate)
    (answered : answersTo state.nextCall (answers further) ≠ []) : Begun (actions ++ others) := by
  by_contra waiting
  obtain ⟨earlier, since⟩ := not_or.mp ((begun_append actions others).not.mp waiting)
  have closed : next.gateOpen = false := by
    refine (congrArg Hall.gateOpen entered).trans ?_
    refine Bool.eq_false_iff.mpr (run.gateOpen_iff.not.mpr (not_or.mpr ⟨?_, earlier⟩))
    exact Bool.false_ne_true
  have patient : next.hall.Patient state.nextCall := by
    rw [entered]
    refine ⟨Nat.lt_succ_self _, ?_⟩
    intro other member same
    rcases List.mem_append.mp member with old | new
    · exact absurd same (Nat.ne_of_lt (run.attended.bound other old))
    · rw [List.mem_singleton.mp new]
  exact answered (after.patient patient closed since).2

/-- Whoever subscribes is answered only after the worker has processed a batch or seen that none
will come. -/
theorem subscribe_returns_late {setup : Setup} {source : Source} {state next : State}
    {actions others : List Action} {effects more further : List Effect} {later : State}
    (run : Run setup (State.initial setup source) actions effects state)
    (taken : step setup state (.start .subscribe) = some (next, more))
    (after : Run setup next others further later)
    (answered : answersTo state.nextCall (answers further) ≠ []) : Begun (actions ++ others) := by
  have entered : next.hall = state.hall.enter .subscribe .gate := by
    cases step_deeds taken with
    | subscribesDriven | subscribesInVain | subscribesUndriven | subscribesAgain => rfl
  exact begun_of_answered run after entered answered

/-- A call that waits for the first items keeps to this, whatever happens after it has started, just
if no indicator alone is shown when it starts. Where the worker has neither processed a batch nor
seen that none will come, and an indicator is shown because a direction is being loaded, the call
may return at once. Everywhere else it returns only after the worker has done one of the two. -/
theorem waitForItems_returns_late_iff {setup : Setup} {source : Source} {state next : State}
    {actions : List Action} {effects more : List Effect}
    (run : Run setup (State.initial setup source) actions effects state)
    (taken : step setup state (.start .waitForItems) = some (next, more)) :
    (∀ {others : List Action} {further : List Effect} {later : State},
      Run setup next others further later → answersTo state.nextCall (answers further) ≠ [] →
        Begun (actions ++ others)) ↔
    ¬ (¬ Begun actions ∧ setup.config.showPaginationIndicators = true ∧
      (state.snapshot.pagination.backward = .paginating ∨
        state.snapshot.pagination.forward = .paginating)) := by
  obtain ⟨alive, moved⟩ := State.eq_of_start taken
  obtain rfl : (state.waitForItems).1 = next := congrArg Prod.fst moved
  constructor
  · rintro late ⟨waiting, loading⟩
    have visible := (run.shows_indicators waiting).mpr loading
    have member : ⟨state.nextCall, .waitForItems, .done (.ok ())⟩ ∈
        (state.waitForItems).1.calls := by
      simp [State.waitForItems, State.enter, visible]
    obtain ⟨after, answer, resumed⟩ := State.exists_resumed setup member alive rfl
    have begun :=
      late (Run.nothing.further resumed) (by simp [answers, answersTo, Effect.answer?])
    rcases (begun_append _ _).mp begun with before | since
    · exact waiting before
    · simp [Begun, Action.opensGate] at since
  · intro hidden others further later after answered
    by_cases begun : Begun actions
    · exact (begun_append _ _).mpr (Or.inl begun)
    · have nothing : state.snapshot.entries.isEmpty = true := by
        refine eq_true_of_ne_false ?_
        intro visible
        exact hidden ⟨begun, (run.shows_indicators begun).mp visible⟩
      have entered : (state.waitForItems).1.hall = state.hall.enter .waitForItems .gate := by
        simp only [State.waitForItems, nothing, if_true]
        rfl
      exact begun_of_answered run after entered answered

/-- Someone subscribes and waits for the first items while nothing is shown. The call returns after
the first batch has been processed, even though that has been dropped, and not before. -/
theorem waitForItems_returns_late_of_nothing_shown :
    ∃ effects state next more others further later,
      Run Setup.ordinary (State.initial Setup.ordinary {}) [.start .subscribe, .ask, .handOver]
        effects state ∧
      step Setup.ordinary state (.start .waitForItems) = some (next, more) ∧
      Run Setup.ordinary next others further later ∧
      answersTo 1 (answers further) = [.ok ()] ∧ Begun others := by
  let reached := (State.initial Setup.ordinary {}).steps Setup.ordinary
    [.start .subscribe, .ask, .handOver]
  let moved := reached.1.1.waitForItems
  let others := [Action.sendBatch [.popFront], .takeBatch, .resume 1]
  let ended := moved.1.steps Setup.ordinary others
  have run : Run Setup.ordinary (State.initial Setup.ordinary {})
      [.start .subscribe, .ask, .handOver] reached.1.2 reached.1.1 := Run.of_steps (by cbv)
  have taken :
      step Setup.ordinary reached.1.1 (.start .waitForItems) = some (moved.1, moved.2) := by
    cbv
  have after : Run Setup.ordinary moved.1 others ended.1.2 ended.1.1 := Run.of_steps (by cbv)
  have returned : answersTo 1 (answers ended.1.2) = [.ok ()] := by cbv
  have number : reached.1.1.nextCall = 1 := by cbv
  have idle : reached.1.1.snapshot.pagination = ⟨.idle, .endReached⟩ := by cbv
  have unlike : ¬ (reached.1.1.snapshot.pagination.backward = .paginating ∨
      reached.1.1.snapshot.pagination.forward = .paginating) := by
    rw [idle]
    decide
  have begun : Begun ([.start .subscribe, .ask, .handOver] ++ others) :=
    (waitForItems_returns_late_iff run taken).mpr (fun early => unlike early.2.2) after (by
      rw [number, returned]
      exact List.cons_ne_nil _ _)
  refine ⟨_, _, _, _, others, _, _, run, taken, after, returned, ?_⟩
  rcases (begun_append _ _).mp begun with before | since
  · simp [Begun, Action.opensGate] at before
  · exact since

/-- Someone subscribes and asks for older entries, and the worker publishes that they are being
loaded. Someone else then waits for the first items, and returns although no batch has been
processed and the source may still send one. -/
theorem waitForItems_returns_early :
    ∃ actions effects state,
      Run Setup.ordinary (State.initial Setup.ordinary {}) actions effects state ∧
      answersTo 2 (answers effects) = [.ok ()] ∧ ¬ Begun actions ∧
      .start .waitForItems ∈ actions ∧ state.gateOpen = false ∧ state.worker.items = [] := by
  let actions := [Action.start .subscribe, .ask, .handOver, .start (.paginate .backwards 20),
    .takeRepublish, .start .waitForItems, .resume 2]
  let reached := (State.initial Setup.ordinary {}).steps Setup.ordinary actions
  have run : Run Setup.ordinary (State.initial Setup.ordinary {}) actions reached.1.2 reached.1.1 :=
    Run.of_steps (by cbv)
  have waiting : ¬ Begun actions := by simp [actions, Begun, Action.opensGate]
  exact ⟨actions, reached.1.2, reached.1.1, run, by cbv, waiting, by simp [actions], by cbv,
    run.items_eq_nil waiting⟩

end RoomTimeline.Controller
