import Mathlib.Data.List.Permutation
import RoomTimeline.Controller.Session

/-!
# Runs of a controller

A run is any sequence of steps that are possible one after another, whoever takes them: callers,
the worker, the source, those who watch. So a fact about all runs holds of every interleaving.
What can be observed of a run is read off its actions and its effects: the batches that arrived,
the snapshots that were published and the updates that were sent.
-/

namespace RoomTimeline.Controller

/-- The actions of a run, all their effects, and the state that is reached. -/
inductive Run (setup : Setup) (start : State) : List Action → List Effect → State → Prop
  | nothing : Run setup start [] [] start
  | further {actions : List Action} {effects more : List Effect} {state next : State}
      {action : Action} (before : Run setup start actions effects state)
      (taken : step setup state action = some (next, more)) :
      Run setup start (actions ++ [action]) (effects ++ more) next

namespace Run

variable {setup : Setup} {start state : State} {actions : List Action} {effects : List Effect}

/-- What holds at the start and is kept by every step holds after every run. -/
theorem invariant (holds : State → Prop) (initially : holds start)
    (kept : ∀ state action next more, holds state → step setup state action = some (next, more) →
      holds next) (run : Run setup start actions effects state) : holds state := by
  induction run with
  | nothing => exact initially
  | further before taken inductionHypothesis => exact kept _ _ _ _ inductionHypothesis taken

/-- Runs can be put one behind the other. -/
theorem append {middle last : State} {others : List Action} {more : List Effect}
    (first : Run setup start actions effects middle) (second : Run setup middle others more last) :
    Run setup start (actions ++ others) (effects ++ more) last := by
  induction second with
  | nothing => simpa using first
  | further before taken inductionHypothesis =>
    have longer := inductionHypothesis.further taken
    rwa [List.append_assoc, List.append_assoc] at longer

/-- A list of actions that are all possible in turn is a run. -/
theorem of_steps (possible : (start.steps setup actions).2 = true) :
    Run setup start actions (start.steps setup actions).1.2 (start.steps setup actions).1.1 := by
  induction actions generalizing start with
  | nil => exact nothing
  | cons action rest inductionHypothesis =>
    unfold State.steps at possible ⊢
    cases taken : step setup start action with
    | none => simp [taken] at possible
    | some moved =>
      simp only [taken] at possible ⊢
      exact append (nothing.further taken) (inductionHypothesis possible)

end Run

/-- A run of which every step is one that is allowed. -/
inductive Within (setup : Setup) (allowed : State → Action → Prop) (start : State) :
    List Action → List Effect → State → Prop
  | nothing : Within setup allowed start [] [] start
  | further {actions : List Action} {effects more : List Effect} {state next : State}
      {action : Action} (before : Within setup allowed start actions effects state)
      (fits : allowed state action) (taken : step setup state action = some (next, more)) :
      Within setup allowed start (actions ++ [action]) (effects ++ more) next

/-- A run of which every step is allowed is a run. -/
theorem Within.run {setup : Setup} {allowed : State → Action → Prop} {start state : State}
    {actions : List Action} {effects : List Effect}
    (within : Within setup allowed start actions effects state) :
    Run setup start actions effects state := by
  induction within with
  | nothing => exact .nothing
  | further before fits taken inductionHypothesis => exact inductionHypothesis.further taken

/-! ## The steps of a run -/

/-- A step as it is taken: the state before it, the action, the state after it, and its effects. -/
structure Moment where
  before : State
  action : Action
  after : State
  effects : List Effect

/-- The steps that some actions are, as far as they are possible in turn. -/
def trail (setup : Setup) : State → List Action → List Moment
  | _, [] => []
  | state, action :: rest =>
    match step setup state action with
    | none => []
    | some (next, more) => ⟨state, action, next, more⟩ :: trail setup next rest

/-- Each moment of a trail is a step that can be taken. -/
theorem step_of_mem_trail {setup : Setup} {start : State} {actions : List Action} {moment : Moment}
    (member : moment ∈ trail setup start actions) :
    step setup moment.before moment.action = some (moment.after, moment.effects) := by
  induction actions generalizing start with
  | nil => cases member
  | cons action rest inductionHypothesis =>
    unfold trail at member
    cases taken : step setup start action with
    | none => simp [taken] at member
    | some moved =>
      simp only [taken] at member
      rcases List.mem_cons.mp member with rfl | later
      · exact taken
      · exact inductionHypothesis later

namespace Run

variable {setup : Setup} {start middle next : State} {actions : List Action}
variable {effects more : List Effect} {action : Action}

/-- The trail of a run and of further actions is that of the run and then that of the further
actions from where the run ends. -/
theorem trail_append (run : Run setup start actions effects middle) (others : List Action) :
    trail setup start (actions ++ others) =
      trail setup start actions ++ trail setup middle others := by
  induction run generalizing others with
  | nothing => rfl
  | @further actions _ _ state next action before taken inductionHypothesis =>
    rw [List.append_assoc, inductionHypothesis, inductionHypothesis, List.append_assoc]
    simp [trail, taken]

/-- A further step after a run comes last in the trail. -/
theorem trail_concat (run : Run setup start actions effects middle)
    (taken : step setup middle action = some (next, more)) :
    trail setup start (actions ++ [action]) =
      trail setup start actions ++ [⟨middle, action, next, more⟩] := by
  rw [run.trail_append]
  simp [trail, taken]

end Run

/-! ## What can be observed -/

/-- The snapshot that is published. -/
def Effect.published? : Effect → Option Snapshot
  | .published snapshot => some snapshot
  | _ => none

/-- The update that is sent. -/
def Effect.updated? : Effect → Option Update
  | .updated update => some update
  | _ => none

/-- The batch that arrives. -/
def Action.arrival? : Action → Option Batch
  | .sendBatch batch => some batch
  | _ => none

/-- The snapshots published, in order. -/
def published (effects : List Effect) : List Snapshot := effects.filterMap Effect.published?

/-- The updates sent, in order. -/
def sent (effects : List Effect) : List Update := effects.filterMap Effect.updated?

/-- The batches that arrived, in order. -/
def arrivals (actions : List Action) : List Batch := actions.filterMap Action.arrival?

@[simp] theorem published_append (effects more : List Effect) :
    published (effects ++ more) = published effects ++ published more :=
  List.filterMap_append

@[simp] theorem sent_append (effects more : List Effect) :
    sent (effects ++ more) = sent effects ++ sent more :=
  List.filterMap_append

@[simp] theorem arrivals_append (actions others : List Action) :
    arrivals (actions ++ others) = arrivals actions ++ arrivals others :=
  List.filterMap_append

/-! ## A timeline to look at -/

/-- Someone joins, as the source delivers it. -/
def joining (userId : String) : RawItem :=
  { uniqueId := ⟨userId⟩
    identity := some (.event userId)
    kind := .event 0 (.ofUserId userId) (.membershipChange userId .joined)
    sendState := none
    reactions := []
    debugInfo := "" }

/-- Someone says something, as the source delivers it. -/
def saying (body : String) : RawItem :=
  { joining body with kind := .event 0 (.ofUserId body) (.message (.ofText body)) }

/-- The newest entries of a room, with the default settings. -/
def Setup.ordinary : Setup := { config := .ofKind .live }

/-- Someone subscribes, the worker is handed its batches, and someone listens to updates. -/
def opening : List Action := [.start .subscribe, .ask, .handOver, .takeUpdates]

end RoomTimeline.Controller
