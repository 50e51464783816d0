import RoomTimeline.Json.Reader

/-!
# Understanding a text as a type

A reader of a type is a function `Draft → Except ReadFault α`. It goes through a draft in the
order of the text and stops at the first fault, so a text with several faults answers with the
earliest one. `Draft.read` runs a reader on a text.

Members that no reader asks for are only skipped, whatever they hold. A value that has to be
held before it can be understood is turned into a document first (`Draft.held?`).
-/

namespace RoomTimeline

/-- Why a text could not be read into a type. -/
inductive ReadFault where
  /-- The text does not go on as a reader needs it: it breaks off, a literal denotes no text or
      no double, a value lies too deep to be held, a list or a choice goes on where it should
      end, or a choice is neither a name nor an object. -/
  | malformed
  /-- What was read is no value of the type. -/
  | misfit
  deriving DecidableEq

/-- What a name stands for. -/
def named {α : Type} (names : List (String × α)) (name : String) : Except ReadFault α :=
  match names.lookup name with
  | some value => .ok value
  | none => .error .misfit

/-- One of several names in a held value. A name may also be the only key of an object whose
    value is null or an empty object. -/
def Json.heldChoice {α : Type} (names : List (String × α)) : Json → Except ReadFault α
  | .string name | .object [(name, .null)] | .object [(name, .object [])] => named names name
  | _ => .error .misfit

namespace Draft

/-- The document of a literal. -/
def literal? : Draft → Option Json
  | .array _ | .object _ => none
  | draft => draft.toJson?

/-- What is wrong with a value that is not of the type asked for. A literal is looked at to tell
    what it is; arrays and objects are not entered. -/
def refusal : Draft → ReadFault
  | .broken | .string none => .malformed
  | .number literal => if literal.isFinite then .misfit else .malformed
  | _ => .misfit

/-- A value of a plain type. -/
def expect {α : Type} (view : Json → Option α) (draft : Draft) : Except ReadFault α :=
  match draft.literal?.bind view with
  | some value => .ok value
  | none => .error draft.refusal

/-- One of several names. A name may also be the only key of an object whose value is null. -/
def choice {α : Type} (names : List (String × α)) : Draft → Except ReadFault α
  | .string (some name) => named names name
  | .object ((some name, value) :: rest) => do
    let chosen ← named names name
    value.expect Json.toNull?
    if rest.isEmpty then .ok chosen else .error .malformed
  | _ => .error .malformed

/-- The text under a key among some members, where it has to stand once; `found` is the text
    that stood there in the members before these. -/
def textAmong (key : String) : Option String → List (Option String × Draft) →
    Except ReadFault String
  | some found, [] => .ok found
  | none, [] => .error .misfit
  | _, (none, _) :: _ => .error .malformed
  | found, (some name, value) :: rest =>
    if name = key then
      match found with
      | some _ => .error .misfit
      | none => do textAmong key (some (← value.expect Json.toText?)) rest
    else textAmong key found rest

/-- The text that an object holds under a key, once. -/
def textMember (key : String) : Draft → Except ReadFault String
  | .object members => textAmong key none members
  | draft => .error draft.refusal

/-- Read a text into a type. Whether something follows the value is seen last. -/
def read {α : Type} (understand : Draft → Except ReadFault α) (text : String) :
    Except ReadFault α := do
  let (draft, rest) := scan text.toList
  let value ← understand draft
  if skipBlank rest = [] then .ok value else .error .malformed

/-- Read a text into a type whose documents are held as a whole before they are looked at. -/
def readHeld {α : Type} (understand : Json → Except ReadFault α) :
    String → Except ReadFault α :=
  read fun draft =>
    match draft.held? 0 with
    | some value => understand value
    | none => .error .malformed

end Draft

/-- Understand a value in memory. Nothing is left to be read, so all that can be wrong is that
    the value is not of the type. -/
def Json.understand {α : Type} (understand : Draft → Except ReadFault α) (value : Json) :
    Except ReadFault α :=
  (understand value.sorted.draft).mapError fun _ => .misfit

end RoomTimeline
