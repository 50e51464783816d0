import RoomTimeline.Json.Understand

/-!
# The two directions of pagination

A timeline can be extended with older entries and with newer ones. `Sides` holds one value for
each direction; what is done to one side leaves the other as it is.
-/

namespace RoomTimeline

/-- The direction of a pagination: towards older or newer entries. -/
inductive Direction where
  | backwards
  | forwards
  deriving DecidableEq

namespace Direction

/-- The name of a direction. -/
def name : Direction → String
  | .backwards => "backwards"
  | .forwards => "forwards"

/-- A direction is written as its name. -/
def toJson (direction : Direction) : Json := .string direction.name

/-- Read a direction. -/
def ofDraft : Draft → Except ReadFault Direction :=
  Draft.choice [("backwards", .backwards), ("forwards", .forwards)]

end Direction

/-- One value for each direction. -/
structure Sides (α : Type) where
  backward : α
  forward : α
  deriving DecidableEq

namespace Sides

/-- The value of a direction. -/
def get {α : Type} (sides : Sides α) : Direction → α
  | .backwards => sides.backward
  | .forwards => sides.forward

/-- Replace the value of a direction. -/
def set {α : Type} (sides : Sides α) (direction : Direction) (value : α) : Sides α :=
  match direction with
  | .backwards => { sides with backward := value }
  | .forwards => { sides with forward := value }

/-- Apply a function to both values. -/
def map {α β : Type} (change : α → β) (sides : Sides α) : Sides β :=
  ⟨change sides.backward, change sides.forward⟩

@[simp] theorem get_set_self {α : Type} (sides : Sides α) (direction : Direction) (value : α) :
    (sides.set direction value).get direction = value := by
  cases direction <;> rfl

theorem get_set_of_ne {α : Type} (sides : Sides α) {direction other : Direction} (value : α)
    (distinct : other ≠ direction) : (sides.set direction value).get other = sides.get other := by
  cases direction <;> cases other <;> first | rfl | exact absurd rfl distinct

@[simp] theorem get_map {α β : Type} (change : α → β) (sides : Sides α) (direction : Direction) :
    (sides.map change).get direction = change (sides.get direction) := by
  cases direction <;> rfl

end Sides

end RoomTimeline
