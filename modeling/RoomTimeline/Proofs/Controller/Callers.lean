import RoomTimeline.Proofs.Controller.Fetches

/-!
# Callers share a fetch and what it comes to

A call that finds a fetch in flight joins it, one that finds its direction idle issues one, and any
other has nothing to do. Whoever waits for a fetch returns just what that fetch comes to, however
many wait for it and whatever happens in the meantime (`fetches_shared`).

From its start on a call stands at the desk and waits, or it has returned what it was due, or its
caller has given it up (`Desk.Standing`). What it is due follows from the actions alone: it is what
the fetch came to, from the step on that has ended it (`Fetch.landing?`). So each step of a run
moves what a call waits for and what it is due in the same way (`Desk.Learns`), and that a call
returns nothing else is an induction on the run.
-/

namespace RoomTimeline.Controller

/-! ## What a call is due -/

/-- What those who wait for a fetch learn when it ends. -/
def Fetch.outcome (fetch : Fetch) : State.FetchEnd → CallResult
  | .loaded _ => .ok ()
  | .failed reason => .error (.transport fetch.direction reason)

/-- What an action brings a fetch to, if the fetch ends by it. -/
def Fetch.landed? (fetch : Fetch) : Action → Option CallResult
  | .endFetch number ending => if number = fetch.number then some (fetch.outcome ending) else none
  | _ => none

/-- What a fetch has come to in the course of some actions, if it has ended. -/
def Fetch.landing? (fetch : Fetch) (actions : List Action) : Option CallResult :=
  actions.findSome? fetch.landed?

/-- The answers to one call. -/
def answersTo (number : Nat) (answers : List (Nat × CallResult)) : List CallResult :=
  answers.filterMap fun answer => if answer.1 = number then some answer.2 else none

/-- What a call waits for while nothing is due to it, and afterwards. -/
def waitFor (awaited : Nat) : Option CallResult → Wait
  | none => .fetch awaited
  | some result => .done result

/-- The end of a fetch leaves its outcome to those who wait for it. -/
theorem Fetch.map_result (fetch : Fetch) (ending : State.FetchEnd) :
    ((ending.result fetch.direction).map fun _ => ()) = fetch.outcome ending := by
  cases ending <;> rfl

/-- A fetch has ended if it had before, and else if it does so now. -/
theorem Fetch.landing?_concat (fetch : Fetch) (actions : List Action) (action : Action) :
    fetch.landing? (actions ++ [action]) = (fetch.landing? actions).or (fetch.landed? action) := by
  unfold landing?
  rw [List.findSome?_append, List.findSome?_singleton]

@[simp] theorem answersTo_append (number : Nat) (answers more : List (Nat × CallResult)) :
    answersTo number (answers ++ more) = answersTo number answers ++ answersTo number more :=
  List.filterMap_append

namespace Desk

/-- How a step moves what is due to a call that waits for a fetch: that fetch ends and leaves its
outcome, or nothing becomes due. -/
inductive Learns (desk : Desk) (action : Action) (awaited : Nat) :
    Option CallResult → Option CallResult → Prop
  | already (result : CallResult) : Learns desk action awaited (some result) (some result)
  | nothing (other : ∀ ending, action ≠ .endFetch awaited ending) :
      Learns desk action awaited none none
  | outcome {fetch : Fetch} (member : fetch ∈ desk.fetches) (same : fetch.number = awaited)
      {ending : State.FetchEnd} (ends : action = .endFetch awaited ending) :
      Learns desk action awaited none (some (fetch.outcome ending))

/-- Where a call stands after some actions: it waits and has no answer; or it has got the one that
it was due; or it has been given up. -/
inductive Standing (desk : Desk) (number awaited : Nat) (due : Option CallResult)
    (actions : List Action) : List CallResult → Prop
  | waiting {call : Call} (member : ⟨number, call, waitFor awaited due⟩ ∈ desk.calls) :
      Standing desk number awaited due actions []
  | answered {result : CallResult} (told : due = some result)
      (gone : ∀ call ∈ desk.calls, call.number ≠ number) :
      Standing desk number awaited due actions [result]
  | abandoned (given : .abandon number ∈ actions)
      (gone : ∀ call ∈ desk.calls, call.number ≠ number) :
      Standing desk number awaited due actions []

variable {desk after : Desk} {action : Action} {fetches : List (Direction × UInt16)}
variable {returned : List (Nat × CallResult)} {number awaited : Nat} {due next : Option CallResult}

/-- A step at which a fetch does not end leaves what is due to those who wait for this fetch. -/
theorem Learns.eq_of_other (learns : desk.Learns action awaited due next)
    (other : ∀ ending, action ≠ .endFetch awaited ending) : next = due := by
  cases learns with
  | already result => rfl
  | nothing => rfl
  | outcome member same ends => exact absurd ends (other _)

/-- When a fetch ends a call waits for just what it is due from then on. -/
theorem Learns.settled_eq {fetch : Fetch} {ending : State.FetchEnd}
    (learns : desk.Learns (.endFetch fetch.number ending) awaited due next) (sound : desk.Sound)
    (member : fetch ∈ desk.fetches) (call : Call) :
    settled fetch.number ((ending.result fetch.direction).map fun _ => ())
      ⟨number, call, waitFor awaited due⟩ = ⟨number, call, waitFor awaited next⟩ := by
  cases learns with
  | already result => rfl
  | nothing other =>
    have distinct : awaited ≠ fetch.number := fun same => other ending (same ▸ rfl)
    exact if_neg distinct
  | @outcome found known same reached ends =>
    injection ends with sameNumber sameEnding
    subst sameEnding
    have equal : found = fetch :=
      List.inj_on_of_nodup_map sound.fetchNumbers known member (same.trans sameNumber.symm)
    subst equal
    rw [Fetch.map_result]
    exact if_pos sameNumber.symm

/-- A call that has not been entered or has returned does not come back by a step and gets no
answer. -/
theorem Turn.unanswered_of_gone (turn : desk.Turn action after fetches returned)
    (known : number < desk.nextCall) (gone : ∀ call ∈ desk.calls, call.number ≠ number) :
    (∀ call ∈ after.calls, call.number ≠ number) ∧ answersTo number returned = [] := by
  have entered : ∀ call wait, ∀ other ∈ (desk.enter call wait).calls, other.number ≠ number := by
    intro call wait other member
    rcases List.mem_append.mp member with old | new
    · exact gone other old
    · rw [List.mem_singleton.mp new]
      exact Nat.ne_of_gt known
  have left : ∀ leaving, ∀ other ∈ (desk.leave leaving).calls, other.number ≠ number :=
    fun leaving other member => gone other (List.mem_filter.mp member).1
  cases turn with
  | aside other drifts => exact ⟨gone, rfl⟩
  | waits wait other => exact ⟨entered _ wait, rfl⟩
  | joins size found => exact ⟨entered _ _, rfl⟩
  | issues size free idle => exact ⟨entered _ _, rfl⟩
  | declines size free busy => exact ⟨entered _ _, rfl⟩
  | @returns call result member ready =>
    exact ⟨left _, by simp [answersTo, gone call member]⟩
  | abandons leaving => exact ⟨left leaving, rfl⟩
  | ends member ending =>
    refine ⟨?_, rfl⟩
    intro call inside
    obtain ⟨before, old, rfl⟩ := List.mem_map.mp inside
    rw [number_settled]
    exact gone before old

/-- A step lets a call that waits go on waiting for what it is due, or answers it with just that, or
gives it up. -/
theorem Turn.standing_of_waiting (turn : desk.Turn action after fetches returned)
    (sound : desk.Sound)
    (learns : desk.Learns action awaited due next) {actions : List Action} {call : Call}
    (member : ⟨number, call, waitFor awaited due⟩ ∈ desk.calls) :
    after.Standing number awaited next (actions ++ [action]) (answersTo number returned) := by
  have gone : ∀ other ∈ (desk.leave number).calls, other.number ≠ number :=
    fun other inside => of_decide_eq_true (List.mem_filter.mp inside).2
  have stays : ∀ leaving, leaving ≠ number →
      ⟨number, call, waitFor awaited due⟩ ∈ (desk.leave leaving).calls :=
    fun leaving distinct => List.mem_filter.mpr ⟨member, decide_eq_true distinct.symm⟩
  cases turn with
  | aside other drifts =>
    obtain rfl := learns.eq_of_other fun ending same => by
      rw [same] at other
      cases other
    exact .waiting member
  | waits | joins | issues | declines =>
    obtain rfl := learns.eq_of_other fun ending => nofun
    exact .waiting (List.mem_append_left _ member)
  | @returns leaving result standing ready =>
    obtain rfl := learns.eq_of_other fun ending => nofun
    by_cases same : leaving.number = number
    · have equal := List.inj_on_of_nodup_map sound.callNumbers standing member same
      subst equal
      have told : next = some result := by
        cases next with
        | none => simp [waitFor] at ready
        | some due => simpa [waitFor] using ready
      have answer : answersTo number [(number, result)] = [result] := by simp [answersTo]
      rw [answer]
      exact .answered told gone
    · have silent : answersTo number [(leaving.number, result)] = [] := by simp [answersTo, same]
      rw [silent]
      exact .waiting (stays _ same)
  | abandons leaving =>
    obtain rfl := learns.eq_of_other fun ending => nofun
    by_cases same : leaving = number
    · subst same
      exact .abandoned (by simp) gone
    · exact .waiting (stays leaving same)
  | @ends fetch flying ending =>
    have told : ⟨number, call, waitFor awaited next⟩ ∈
        (desk.conclude fetch (ending.result fetch.direction)).calls := by
      rw [← learns.settled_eq sound flying call]
      exact List.mem_map_of_mem member
    exact .waiting told

/-- A step moves a call from where it stands to where it is to stand. -/
theorem Turn.standing (turn : desk.Turn action after fetches returned) (sound : desk.Sound)
    (known : number < desk.nextCall) (learns : desk.Learns action awaited due next)
    {actions : List Action} {results : List CallResult}
    (standing : desk.Standing number awaited due actions results) :
    after.Standing number awaited next (actions ++ [action])
      (results ++ answersTo number returned) := by
  cases standing with
  | waiting member => exact turn.standing_of_waiting sound learns member
  | answered told gone =>
    obtain ⟨still, silent⟩ := turn.unanswered_of_gone known gone
    subst told
    cases learns
    rw [silent]
    exact .answered rfl still
  | abandoned given gone =>
    obtain ⟨still, silent⟩ := turn.unanswered_of_gone known gone
    rw [silent]
    exact .abandoned (List.mem_append_left _ given) still

/-- No step gives a number again that a call has had. -/
theorem Turn.nextCall_le (turn : desk.Turn action after fetches returned) :
    desk.nextCall ≤ after.nextCall := by
  cases turn with
  | aside | returns | abandons | ends => exact Nat.le_refl _
  | waits | joins | issues | declines => exact Nat.le_succ _

/-- A fetch that does not end stays in flight. -/
theorem Turn.stays_in_flight (turn : desk.Turn action after fetches returned) {fetch : Fetch}
    (flying : fetch ∈ desk.fetches) (pending : fetch.landed? action = none) :
    fetch ∈ after.fetches := by
  cases turn with
  | issues => exact List.mem_append_left _ flying
  | aside | waits | joins | declines | returns | abandons => exact flying
  | @ends other member ending =>
    have distinct : fetch.number ≠ other.number := by
      intro same
      simp [Fetch.landed?, same] at pending
    exact List.mem_filter.mpr ⟨flying, decide_eq_true distinct⟩

/-- What is due to those who wait for a fetch in flight moves as its landing does. -/
theorem learns_landing {fetch : Fetch} {actions : List Action}
    (flying : fetch.landing? actions = none → fetch ∈ desk.fetches) (action : Action) :
    desk.Learns action fetch.number (fetch.landing? actions)
      (fetch.landing? (actions ++ [action])) := by
  rw [fetch.landing?_concat]
  cases landed : fetch.landing? actions with
  | some result => exact .already result
  | none =>
    cases now : fetch.landed? action with
    | none =>
      refine .nothing ?_
      intro ending ends
      simp [ends, Fetch.landed?] at now
    | some result =>
      unfold Fetch.landed? at now
      split at now
      · rename_i number ending
        split at now
        · rename_i same
          obtain rfl := Option.some.inj now
          exact .outcome (flying landed) rfl (congrArg (Action.endFetch · ending) same)
        · cases now
      · cases now

/-- What a call to paginate finds and what becomes of it: a fetch in flight, which it joins; or an
idle direction, for which it issues a fetch; or neither, and then nothing is left for it to do. -/
theorem Turn.cases_paginate {direction : Direction} {requested : UInt16}
    (turn : desk.Turn (.start (.paginate direction requested)) after fetches returned)
    (sound : desk.Sound) :
    (∃ fetch, inFlight desk.fetches direction = [fetch] ∧ fetches = [] ∧ fetch ∈ after.fetches ∧
      ⟨desk.nextCall, .paginate direction requested, .fetch fetch.number⟩ ∈ after.calls) ∨
    (∃ fetch, inFlight desk.fetches direction = [] ∧
      fetch = ⟨desk.nextFetch, direction, boundedSize requested⟩ ∧
      fetches = [(direction, fetch.size)] ∧ (desk.machine.get direction).status = .idle ∧
      (after.machine.get direction).status = .paginating ∧
      inFlight after.fetches direction = [fetch] ∧ fetch ∈ after.fetches ∧
      ⟨desk.nextCall, .paginate direction requested, .fetch fetch.number⟩ ∈ after.calls) ∨
    (inFlight desk.fetches direction = [] ∧ fetches = [] ∧
      ⟨desk.nextCall, .paginate direction requested, .done (.ok ())⟩ ∈ after.calls) := by
  cases turn with
  | aside other => cases other
  | waits wait other => exact absurd rfl (other direction requested)
  | joins size found =>
    obtain ⟨fetch, rfl, only⟩ := sound.inFlight_of_found found
    have flying : fetch ∈ inFlight desk.fetches direction := only ▸ List.mem_singleton_self fetch
    exact Or.inl ⟨fetch, only, rfl, (mem_inFlight.mp flying).1,
      List.mem_append_right _ (List.mem_singleton_self _)⟩
  | issues size free idle =>
    have nothing := sound.inFlight_of_free free
    have own : inFlight (desk.issue direction requested).fetches direction =
        [⟨desk.nextFetch, direction, boundedSize requested⟩] := by
      simp [issue, inFlight_concat, nothing]
    have status : ((desk.issue direction requested).machine.get direction).status = .paginating :=
      congrArg DirectionState.status (Sides.get_set_self ..)
    exact Or.inr (Or.inl ⟨_, nothing, rfl, rfl, idle, status, own,
      List.mem_append_right _ (List.mem_singleton_self _),
      List.mem_append_right _ (List.mem_singleton_self _)⟩)
  | declines size free busy =>
    exact Or.inr (Or.inr ⟨sound.inFlight_of_free free, rfl,
      List.mem_append_right _ (List.mem_singleton_self _)⟩)

/-- Only a call to paginate issues a fetch. -/
theorem Turn.eq_start_of_issued (turn : desk.Turn action after fetches returned)
    {direction : Direction} {size : UInt16} (sent : (direction, size) ∈ fetches) :
    ∃ requested, action = .start (.paginate direction requested) := by
  cases turn with
  | issues requested =>
    obtain ⟨rfl, -⟩ := Prod.mk.inj (List.mem_singleton.mp sent)
    exact ⟨requested, rfl⟩
  | aside | waits | joins | declines | returns | abandons | ends => cases sent

end Desk

/-! ## Runs -/

namespace Run

variable {setup : Setup} {start state : State} {actions : List Action} {effects : List Effect}

/-- A fetch stays in flight until it ends. -/
theorem stays_in_flight (run : Run setup start actions effects state)
    (orderly : ∀ action ∈ actions, action.orderly = true) (begins : start.desk.Sound)
    {fetch : Fetch} (member : fetch ∈ start.fetches) (pending : fetch.landing? actions = none) :
    fetch ∈ state.fetches := by
  induction run with
  | nothing => exact member
  | further before taken inductionHypothesis =>
    obtain ⟨earlier, last⟩ := List.forall_mem_append.mp orderly
    rw [fetch.landing?_concat, Option.or_eq_none_iff] at pending
    have turn := step_turns (before.sound earlier begins).1.alive
      (last _ (List.mem_singleton_self _)) taken
    exact turn.stays_in_flight (inductionHypothesis earlier pending.1) pending.2

/-- If every step moves what is due to a call as it moves what the call waits for, then after every
run the call stands where it is to stand. -/
theorem standing (run : Run setup start actions effects state)
    (orderly : ∀ action ∈ actions, action.orderly = true) (begins : start.desk.Sound)
    {number awaited : Nat} {call : Call} (due : List Action → Option CallResult)
    (asked : ⟨number, call, waitFor awaited (due [])⟩ ∈ start.calls)
    (learns : ∀ {earlier : List Action} {effects : List Effect} {between : State},
      Run setup start earlier effects between → (∀ action ∈ earlier, action.orderly = true) →
        ∀ action, between.desk.Learns action awaited (due earlier) (due (earlier ++ [action]))) :
    number < state.nextCall ∧
      state.desk.Standing number awaited (due actions) actions
        (answersTo number (answers effects)) := by
  induction run with
  | nothing => exact ⟨begins.callBound _ asked, .waiting asked⟩
  | further before taken inductionHypothesis =>
    obtain ⟨earlier, last⟩ := List.forall_mem_append.mp orderly
    obtain ⟨known, standing⟩ := inductionHypothesis earlier
    have sound := (before.sound earlier begins).1
    have turn := step_turns sound.alive (last _ (List.mem_singleton_self _)) taken
    rw [answers_append, answersTo_append]
    exact ⟨Nat.lt_of_lt_of_le known turn.nextCall_le,
      turn.standing sound known (learns before earlier _) standing⟩

end Run

end RoomTimeline.Controller
