import RoomTimeline.Proofs.Controller.Stranding
import RoomTimeline.Proofs.Controller.Subscribing

/-!
# What a kind of timeline cannot do

A kind that cannot be extended in a direction never is: the direction is at its end throughout, in
what is held and in all that is published, nothing is fetched for it, and whoever asks for more
entries is told that all went well. A kind that does not follow pushed statuses is deaf to them, and
pinned events are never grouped (`missing_capabilities_last`).

All of this comes from the modes, which are those of the kind in every reachable state (`Run.mode`),
and from what a sound lane says of a fixed direction. What holds of all that is published follows
from what holds of reachable states, since each published snapshot has been the snapshot of one
(`Run.exists_of_published`).
-/

namespace RoomTimeline

/-! ## Capabilities and modes -/

/-- Whether a timeline can be extended in a direction. -/
def Capabilities.canPaginate (capabilities : Capabilities) : Direction → Bool
  | .backwards => capabilities.backwards
  | .forwards => capabilities.forwards

/-- A direction starts in the mode that it is given. -/
@[simp] theorem DirectionState.mode_initial (mode : DirectionMode) :
    (DirectionState.initial mode).mode = mode := by
  cases mode <;> rfl

/-- A direction of a new timeline is fixed just if the kind cannot be extended in it. -/
theorem Machine.fixed_ofKind_iff (kind : TimelineKind) (direction : Direction) :
    ((ofKind kind).get direction).mode = .fixed ↔
      kind.capabilities.canPaginate direction = false := by
  cases direction with
  | backwards =>
    change (DirectionState.initial (backwardMode kind.capabilities)).mode = .fixed ↔
      kind.capabilities.backwards = false
    rw [DirectionState.mode_initial, backwardMode]
    cases kind.capabilities.backwards <;> cases kind.capabilities.live <;> decide
  | forwards =>
    change (DirectionState.initial (forwardMode kind.capabilities)).mode = .fixed ↔
      kind.capabilities.forwards = false
    rw [DirectionState.mode_initial, forwardMode]
    cases kind.capabilities.forwards <;> decide

/-! ## Indicators -/

/-- The indicator that is shown while a direction is being loaded. -/
def Direction.indicator : Direction → Envelope
  | .backwards => startIndicator
  | .forwards => finishIndicator

/-- The indicator of a direction that is not being loaded is not among what is arranged. -/
theorem Depiction.indicator_not_mem {config : Config} {serial : Nat} {items shown : List Envelope}
    {runs : Runs} (depiction : Depiction config serial items runs shown) {pair : PaginationPair}
    {direction : Direction} (still : pair.get direction ≠ .paginating) :
    direction.indicator ∉ arrange config pair shown := by
  have early : direction.indicator.serial < firstSerial := by cases direction <;> decide
  intro member
  rw [arrange_eq] at member
  rcases List.mem_append.mp member with front | atEnd
  · rcases List.mem_append.mp front with atStart | inBody
    · obtain ⟨same, -, loading⟩ := of_mem_indicator atStart
      cases direction with
      | backwards => exact still loading
      | forwards => exact absurd (congrArg Envelope.serial same) (by decide)
    · have inShown : direction.indicator ∈ shown := by
        rw [trimmed_eq] at inBody
        split at inBody
        · exact (List.dropLast_sublist shown).subset inBody
        · exact inBody
      have late := depiction.late _ (depiction.mem_or_mem_runs inShown)
      omega
  · obtain ⟨same, -, loading⟩ := of_mem_indicator atEnd
    cases direction with
    | backwards => exact absurd (congrArg Envelope.serial same) (by decide)
    | forwards => exact still loading

/-! ## Pinned events -/

/-- An entry with no link on either side stands alone. -/
theorem classify_of_unlinked {before behind : Option Bool} (notBefore : before ≠ some true)
    (notBehind : behind ≠ some true) : classify before behind = .single := by
  unfold classify
  split <;> first | rfl | contradiction

/-- Where nobody is linked to a neighbour everybody stands alone. -/
theorem positionAt_of_unlinked {links : List Bool} (unlinked : ∀ link ∈ links, link = false)
    (place : Nat) : positionAt links place = .single := by
  have apart : ∀ index : Nat, links[index]? ≠ some true := by
    intro index found
    exact Bool.false_ne_true (unlinked true (List.mem_of_getElem? found)).symm
  cases place with
  | zero => exact classify_of_unlinked nofun (apart 0)
  | succ before => exact classify_of_unlinked (apart before) (apart (before + 1))

/-- The policy that lets every entry stand alone links nobody to a neighbour. -/
theorem links_never (entries : List Envelope) : ∀ link ∈ links .never entries, link = false := by
  have apart : ∀ earlier later, canGroup .never earlier later = false := by
    intro earlier later
    unfold canGroup
    split
    · exact Bool.and_false _
    · rfl
  unfold links
  fun_induction neighbours (canGroup .never) entries with
  | case1 earlier later rest inductionHypothesis =>
    exact List.forall_mem_cons.mpr ⟨apart earlier later, inductionHypothesis⟩
  | case2 => exact fun link member => absurd member List.not_mem_nil

/-- All entries of a rendering are single under the policy that links nobody. -/
theorem grouped_never (envelopes : List Envelope) :
    ∀ entry ∈ grouped .never envelopes, entry.group = .single := by
  intro entry member
  unfold grouped at member
  rw [← List.map_uncurry_zip_eq_zipWith] at member
  obtain ⟨⟨envelope, position⟩, paired, rfl⟩ := List.mem_map.mp member
  obtain ⟨place, -, rfl⟩ := List.mem_map.mp (List.of_mem_zip paired).2
  exact positionAt_of_unlinked (links_never envelopes) place

namespace Controller

/-! ## Calls and their numbers -/

/-- The call that starts by an action. -/
def Action.called? : Action → Option Call
  | .start call => some call
  | _ => none

/-- The calls that start, in order. A call has the number of its place. -/
def called (actions : List Action) : List Call := actions.filterMap Action.called?

@[simp] theorem called_append (actions others : List Action) :
    called (actions ++ others) = called actions ++ called others :=
  List.filterMap_append

/-- Each call that starts takes the next number. -/
theorem Deed.nextCall {setup : Setup} {state next : State} {action : Action} {more : List Effect}
    (deed : Deed setup state action next more) :
    next.nextCall = state.nextCall + (called [action]).length := by
  cases deed <;> rfl

namespace Run

variable {setup : Setup} {source : Source} {start state : State} {actions : List Action}
variable {effects : List Effect}

/-- In every reachable state the next number is that of calls so far, and whoever has not returned
has the number of the call. -/
theorem calls_numbered (run : Run setup (State.initial setup source) actions effects state) :
    state.nextCall = (called actions).length ∧
      state.AllWait fun call => (called actions)[call.number]? = some call.call := by
  induction run with
  | nothing => exact ⟨rfl, fun _ member => absurd member List.not_mem_nil⟩
  | @further actions _ _ state next action before taken inductionHypothesis =>
    obtain ⟨next, known⟩ := inductionHypothesis
    have deed := step_deeds taken
    have kept : state.AllWait fun call =>
        (called (actions ++ [action]))[call.number]? = some call.call := by
      intro call member
      rw [called_append, List.getElem?_append_left]
      · exact known call member
      · exact (List.getElem?_eq_some_iff.mp (known call member)).1
    refine ⟨by rw [deed.nextCall, next, called_append, List.length_append], ?_⟩
    refine deed.allWait kept ?_ ?_
    · rintro call rfl
      rw [called_append, next]
      exact List.getElem?_concat_length
    · intro number result call own
      rw [Desk.number_settled, Desk.call_settled]
      exact own

/-- Only calls that have started are answered, and with nothing that they may not be answered with
in the state in which they return. -/
theorem exists_called_of_answered
    (run : Run setup (State.initial setup source) actions effects state)
    (fair : Call → CallResult → Prop)
    (waiting : ∀ {actions : List Action} {effects : List Effect} {reached : State},
      Run setup (State.initial setup source) actions effects reached →
        ∀ call ∈ reached.calls, ∀ result,
          reached.result? call = some result → fair call.call result) :
    ∀ answer ∈ answers effects,
      ∃ call, (called actions)[answer.1]? = some call ∧ fair call answer.2 := by
  induction run with
  | nothing => exact fun answer member => absurd member List.not_mem_nil
  | @further actions effects more state next action before taken inductionHypothesis =>
    have known : ∀ {number : Nat} {call : Call}, (called actions)[number]? = some call →
        (called (actions ++ [action]))[number]? = some call := by
      intro number call found
      rw [called_append, List.getElem?_append_left (List.getElem?_eq_some_iff.mp found).1]
      exact found
    intro answer member
    rw [answers_append] at member
    rcases List.mem_append.mp member with earlier | now
    · obtain ⟨call, found, fits⟩ := inductionHypothesis answer earlier
      exact ⟨call, known found, fits⟩
    · obtain ⟨effect, told, same⟩ := List.mem_filterMap.mp now
      have returned : effect = .returned answer.1 answer.2 := by
        cases effect <;> cases same
        rfl
      subst returned
      obtain ⟨call, waits, number, ready⟩ := (step_deeds taken).of_returned told
      refine ⟨call.call, known ?_, waiting before call waits _ ready⟩
      rw [← number]
      exact before.calls_numbered.2 call waits

/-! ## What is published -/

/-- Each snapshot that is published has been the snapshot of a state, under the status that this
state holds. -/
theorem exists_of_published (run : Run setup start actions effects state) {snapshot : Snapshot}
    (shown : snapshot ∈ published effects) :
    ∃ before soFar reached, Run setup start before soFar reached ∧
      reached.snapshot = snapshot ∧ snapshot.pagination = reached.machine.pair := by
  induction run with
  | nothing => exact absurd shown List.not_mem_nil
  | @further actions effects more state next action before taken inductionHypothesis =>
    rw [published_append] at shown
    rcases List.mem_append.mp shown with earlier | now
    · exact inductionHypothesis earlier
    · obtain ⟨processed, shift, -, -⟩ := step_shifts taken
      refine ⟨_, _, next, before.further taken, ?_⟩
      generalize published more = snapshots at shift now
      generalize board : next.board = after at shift
      cases shift with
      | still | wished | refused => cases now
      | @published prepared _ preparation =>
        rw [List.mem_singleton.mp now]
        exact ⟨congrArg Board.snapshot board, congrArg (fun board => board.machine.pair) board.symm⟩

/-! ## Directions that cannot be extended -/

/-- In every reachable state the modes are those of the kind. -/
theorem mode (run : Run setup (State.initial setup source) actions effects state)
    (direction : Direction) :
    (state.machine.get direction).mode =
      ((Machine.ofKind setup.config.kind).get direction).mode := by
  induction run with
  | nothing => rfl
  | further before taken inductionHypothesis =>
    have drive := (step_deeds taken).drives before.lane_sound.1.distinct direction
    exact drive.mode.trans inductionHypothesis

/-- In every reachable state the mode of older entries is the one that belongs to the kind. -/
theorem backward_mode (run : Run setup (State.initial setup source) actions effects state) :
    state.machine.backward.mode = Machine.backwardMode setup.config.kind.capabilities :=
  (run.mode .backwards).trans (DirectionState.mode_initial _)

/-- In every reachable state a direction that the kind cannot be extended in is at its end, and
callers share no fetch. -/
theorem endReached_of_lacking (run : Run setup (State.initial setup source) actions effects state)
    {direction : Direction}
    (lacking : setup.config.kind.capabilities.canPaginate direction = false) :
    (state.machine.get direction).status = .endReached ∧ state.shared.get direction = none := by
  have fixed : (state.lane direction).side.mode = .fixed :=
    (run.mode direction).trans ((Machine.fixed_ofKind_iff _ _).mpr lacking)
  have sound := run.lane_sound.2 direction
  have atEnd := sound.fixed fixed
  refine ⟨atEnd, ?_⟩
  by_contra shared
  have loading := (sound.driven (by simp [fixed])).mpr shared
  rw [atEnd] at loading
  cases loading

/-- In every reachable state, whoever asks for more entries in a direction that the kind cannot be
extended in has nothing to wait for and returns that all went well. -/
theorem waits_for_nothing (run : Run setup (State.initial setup source) actions effects state)
    {direction : Direction}
    (lacking : setup.config.kind.capabilities.canPaginate direction = false) :
    state.AllWait fun call =>
      ∀ size, call.call = .paginate direction size → call.wait = .done (.ok ()) := by
  induction run with
  | nothing => exact fun _ member => absurd member List.not_mem_nil
  | further before taken inductionHypothesis =>
    refine (step_deeds taken).allWait inductionHypothesis ?_ ?_
    · rintro call - size rfl
      obtain ⟨atEnd, free⟩ := before.endReached_of_lacking lacking
      simp [State.waitOf, free, atEnd]
    · intro number result call waits size asks
      rw [Desk.call_settled] at asks
      have done := waits size asks
      rw [Desk.settled_of_unfetched (by simp [done])]
      exact done

/-- In every reachable state, whoever has asked for more entries in a direction that the kind cannot
be extended in can be told at once that all went well. -/
theorem returns_at_once (run : Run setup (State.initial setup source) actions effects state)
    {direction : Direction}
    (lacking : setup.config.kind.capabilities.canPaginate direction = false) {call : RunningCall}
    (member : call ∈ state.calls) {size : UInt16} (asks : call.call = .paginate direction size) :
    step setup state (.resume call.number) =
      some (state.leave call.number, [.returned call.number (.ok ())]) := by
  have waits := run.waits_for_nothing lacking call member size asks
  have ready : state.result? call = some (.ok ()) := by simp [State.result?, waits]
  have resumed := State.resume_eq run.attended.distinct member ready
  simpa [step, run.alive_of_mem member] using resumed

/-- Whoever has asked for more entries in a direction that the kind cannot be extended in and has
been answered has been told that all went well. -/
theorem answered_ok (run : Run setup (State.initial setup source) actions effects state)
    {direction : Direction}
    (lacking : setup.config.kind.capabilities.canPaginate direction = false)
    {answer : Nat × CallResult} (told : answer ∈ answers effects) {size : UInt16}
    (asked : (called actions)[answer.1]? = some (.paginate direction size)) :
    answer.2 = .ok () := by
  obtain ⟨call, same, fair⟩ := run.exists_called_of_answered
    (fun call result => ∀ size, call = .paginate direction size → result = .ok ())
    (fun before call member result ready size asks => by
      have waits := before.waits_for_nothing lacking call member size asks
      simpa [State.result?, waits, eq_comm] using ready) answer told
  exact fair size (Option.some.inj (same.symm.trans asked))

/-- Each snapshot that readers get in the course of a run, the one of the start among them, has been
the snapshot of a reachable state, under the status that this state holds. -/
theorem exists_of_shown (run : Run setup (State.initial setup source) actions effects state)
    {snapshot : Snapshot}
    (shown : snapshot ∈ (State.initial setup source).snapshot :: published effects) :
    ∃ before soFar reached, Run setup (State.initial setup source) before soFar reached ∧
      reached.snapshot = snapshot ∧ snapshot.pagination = reached.machine.pair := by
  rcases List.mem_cons.mp shown with rfl | later
  · exact ⟨[], [], _, .nothing, rfl, rfl⟩
  · exact run.exists_of_published later

/-- The snapshot of a reachable state is one of those that readers have got. -/
theorem snapshot_shown (run : Run setup (State.initial setup source) actions effects state) :
    state.snapshot ∈ (State.initial setup source).snapshot :: published effects := by
  rw [run.snapshot_eq]
  cases last : (published effects).getLast? with
  | none => exact List.mem_cons_self
  | some snapshot => exact List.mem_cons_of_mem _ (List.mem_of_getLast? last)

/-- In all that readers get, a direction that the kind cannot be extended in is at its end, and its
indicator is not shown. -/
theorem shown_ended (run : Run setup (State.initial setup source) actions effects state)
    {direction : Direction}
    (lacking : setup.config.kind.capabilities.canPaginate direction = false) {snapshot : Snapshot}
    (shown : snapshot ∈ (State.initial setup source).snapshot :: published effects) :
    snapshot.pagination.get direction = .endReached ∧
      direction.indicator ∉ snapshot.entries.map Entry.envelope := by
  obtain ⟨before, soFar, reached, there, rfl, current⟩ := run.exists_of_shown shown
  have atEnd : reached.snapshot.pagination.get direction = .endReached := by
    rw [current, Machine.pair, Sides.get_map]
    exact (there.endReached_of_lacking lacking).1
  obtain ⟨shown, depiction, arranged⟩ := there.arranged
  rw [arranged]
  exact ⟨atEnd, depiction.indicator_not_mem (by simp [atEnd])⟩

/-- In all that readers get of pinned events every entry stands alone. -/
theorem shown_single (run : Run setup (State.initial setup source) actions effects state)
    (pinned : setup.config.kind.isPinned = true) {snapshot : Snapshot}
    (shown : snapshot ∈ (State.initial setup source).snapshot :: published effects) :
    ∀ entry ∈ snapshot.entries, entry.group = .single := by
  obtain ⟨before, soFar, reached, there, rfl, -⟩ := run.exists_of_shown shown
  obtain ⟨shown, -, entries⟩ := there.coherent.shows
  have never : setup.policy = .never := if_pos pinned
  rw [never] at entries
  exact fun entry member => grouped_never _ entry (entries ▸ member)

/-- A worker whose timeline does not follow pushed statuses never asks for them. -/
theorem statuses_not_asked (run : Run setup (State.initial setup source) actions effects state)
    (undriven : Machine.backwardMode setup.config.kind.capabilities ≠ .pushDriven) :
    .statuses ∉ Controller.askings effects := by
  induction run with
  | nothing => exact List.not_mem_nil
  | further before taken inductionHypothesis =>
    rw [askings_append, List.mem_append, not_or]
    refine ⟨inductionHypothesis, ?_⟩
    rcases (step_deeds taken).asked with silent | ⟨-, -, driven, -⟩ | ⟨-, -, batches⟩
    · rw [silent]
      exact List.not_mem_nil
    · exact absurd (before.backward_mode.symm.trans driven) undriven
    · rw [batches]
      decide

end Run

/-- What a kind of timeline cannot do is not done in any run, whatever the source brings and whoever
calls.
- A direction that the kind cannot be extended in is at its end, now and in all snapshots that
  readers have got; none of them shows its indicator; nothing has been fetched for it. Whoever has
  asked for more entries in it and has been answered has been told that all went well; and whoever
  has not been answered yet can be told so at once.
- If the kind does not follow pushed statuses, the source has not been asked for them, and none that
  might be pushed changes anything.
- If the kind shows pinned events, then whatever grouping policy the controller has been given, all
  entries of all these snapshots stand alone. -/
theorem missing_capabilities_last {setup : Setup} {source : Source} {actions : List Action}
    {effects : List Effect} {state : State}
    (run : Run setup (State.initial setup source) actions effects state) :
    (∀ direction, setup.config.kind.capabilities.canPaginate direction = false →
      (state.machine.get direction).status = .endReached ∧
      (∀ snapshot ∈ (State.initial setup source).snapshot :: published effects,
        snapshot.pagination.get direction = .endReached ∧
          direction.indicator ∉ snapshot.entries.map Entry.envelope) ∧
      (∀ request ∈ issued effects, request.1 ≠ direction) ∧
      (∀ answer ∈ answers effects, ∀ size,
        (called actions)[answer.1]? = some (.paginate direction size) → answer.2 = .ok ()) ∧
      ∀ call ∈ state.calls, ∀ size, call.call = .paginate direction size →
        step setup state (.resume call.number) =
          some (state.leave call.number, [.returned call.number (.ok ())])) ∧
    (Machine.backwardMode setup.config.kind.capabilities ≠ .pushDriven →
      .statuses ∉ askings effects ∧ ∀ live, state.machine.push live = (false, state.machine)) ∧
    (setup.config.kind.isPinned = true →
      ∀ snapshot ∈ (State.initial setup source).snapshot :: published effects,
        ∀ entry ∈ snapshot.entries, entry.group = .single) := by
  refine ⟨?_, ?_, ?_⟩
  · intro direction lacking
    refine ⟨(run.endReached_of_lacking lacking).1, ?_, ?_, ?_, ?_⟩
    · exact fun snapshot shown => run.shown_ended lacking shown
    · exact run.issued_of_busy fun further => by simp [(further.endReached_of_lacking lacking).1]
    · exact fun answer told size asked => run.answered_ok lacking told asked
    · exact fun call member size asks => run.returns_at_once lacking member asks
  · intro undriven
    refine ⟨run.statuses_not_asked undriven, ?_⟩
    rw [← run.backward_mode] at undriven
    exact Machine.push_of_undriven undriven
  · exact fun pinned snapshot shown => run.shown_single pinned shown

/-- The pinned events of a room, for which someone has supplied a policy that always groups. -/
def Setup.pinned : Setup := { config := .ofKind .pinned, customPolicy := some .always }

/-- On a timeline of pinned events the source pushes a status and starts anew with two messages of
one person. Someone asks for older entries and is told that all went well; someone else asks for
newer ones and can be told so. Both messages stand alone, although the policy supplied would put
them into one block. -/
theorem missing_capabilities_last_of_pinned :
    ∃ actions effects state,
      Run Setup.pinned (State.initial Setup.pinned {}) actions effects state ∧
      state.snapshot.ids = [⟨"a"⟩, ⟨"b"⟩] ∧
      (∀ entry ∈ state.snapshot.entries, entry.group = .single) ∧
      (grouped .always (state.snapshot.entries.map Entry.envelope)).map Entry.group =
        [.beginning, .finish] ∧
      state.snapshot.pagination = ⟨.endReached, .endReached⟩ ∧ issued effects = [] ∧
      .statuses ∉ askings effects ∧ answers effects = [(1, .ok ())] ∧
      ∃ next, step Setup.pinned state (.resume 2) = some (next, [.returned 2 (.ok ())]) := by
  let second : RawItem :=
    { saying "b" with kind := .event 0 (.ofUserId "a") (.message (.ofText "b")) }
  let actions := opening ++ [.sendStatus .paginating, .sendBatch [.reset [saying "a", second]],
    .takeBatch, .start (.paginate .backwards 20), .resume 1, .start (.paginate .forwards 5)]
  let reached := (State.initial Setup.pinned {}).steps Setup.pinned actions
  have run : Run Setup.pinned (State.initial Setup.pinned {}) actions reached.1.2 reached.1.1 :=
    Run.of_steps (by cbv)
  obtain ⟨lacking, undriven, alone⟩ := missing_capabilities_last run
  obtain ⟨-, older, -, -, -⟩ := lacking .backwards rfl
  obtain ⟨-, newer, -, -, waiting⟩ := lacking .forwards rfl
  obtain ⟨silent, -⟩ := undriven (by decide)
  let late : RunningCall := ⟨2, .paginate .forwards 5, .done (.ok ())⟩
  have calls : reached.1.1.calls = [⟨0, .subscribe, .gate⟩, late] := by cbv
  have status : reached.1.1.snapshot.pagination = ⟨.endReached, .endReached⟩ := by
    have backward := (older _ run.snapshot_shown).1
    have forward := (newer _ run.snapshot_shown).1
    cases pagination : reached.1.1.snapshot.pagination with
    | mk first second =>
      rw [pagination] at backward forward
      rw [show first = .endReached from backward, show second = .endReached from forward]
  refine ⟨actions, reached.1.2, reached.1.1, run, by cbv, alone rfl _ run.snapshot_shown, by cbv,
    status, by cbv, silent, by cbv, _, waiting late ?_ 5 rfl⟩
  rw [calls]
  exact List.mem_cons_of_mem _ List.mem_cons_self

end Controller

end RoomTimeline
