import RoomTimeline.Json.Magnitude

/-!
# Drafts of documents

A draft is what a text holds as far as it is a document. It differs from a document in two ways.
A string literal may escape half of a surrogate pair: the grammar admits it, but it denotes no
text. And the text may break off: `broken` stands where it stops being a document, and nothing
of the text behind it is kept.

A reader that goes through a draft in order so reports the earliest fault, be it one of the text
or one of what the text says. A draft without such spots amounts to a document (`toJson?`), and
every document is a draft (`toJson?_draft`).
-/

namespace RoomTimeline

/-- What a text holds. A string or key that denotes no text is `none`. Where a text breaks off
    inside an array or object, this ends with `broken`, as an item or as the value of a member
    without a key; so do all the arrays and objects around it. -/
inductive Draft where
  | null
  | bool (value : Bool)
  | number (literal : Numeral)
  | string (text : Option String)
  | array (items : List Draft)
  | object (members : List (Option String × Draft))
  | broken

namespace Draft

mutual

/-- The document that a draft amounts to, if all of it could be read. -/
def toJson? : Draft → Option Json
  | .null => some .null
  | .bool value => some (.bool value)
  | .number literal => some (.number literal)
  | .string text => text.map .string
  | .array items => (toItems? items).map .array
  | .object members => (toMembers? members).map .object
  | .broken => none

/-- `toJson?` for each item of an array. -/
def toItems? : List Draft → Option (List Json)
  | [] => some []
  | item :: rest =>
    match toJson? item, toItems? rest with
    | some item, some rest => some (item :: rest)
    | _, _ => none

/-- `toJson?` for each member of an object. -/
def toMembers? : List (Option String × Draft) → Option (List (String × Json))
  | [] => some []
  | (key, value) :: rest =>
    match key, toJson? value, toMembers? rest with
    | some key, some value, some rest => some ((key, value) :: rest)
    | _, _, _ => none

end

end Draft

namespace Json

mutual

/-- A document as the draft of a text that holds it. -/
def draft : Json → Draft
  | .null => .null
  | .bool value => .bool value
  | .number literal => .number literal
  | .string text => .string (some text)
  | .array items => .array (draftItems items)
  | .object members => .object (draftMembers members)

/-- `draft` for each item of an array. -/
def draftItems : List Json → List Draft
  | [] => []
  | item :: rest => draft item :: draftItems rest

/-- `draft` for each member of an object. -/
def draftMembers : List (String × Json) → List (Option String × Draft)
  | [] => []
  | (key, value) :: rest => (some key, draft value) :: draftMembers rest

end

end Json

namespace Draft

mutual

/-- The draft of a document amounts to that document. -/
@[simp] theorem toJson?_draft : (document : Json) → document.draft.toJson? = some document
  | .null | .bool _ | .number _ | .string _ => by simp [Json.draft, toJson?]
  | .array items => by simp [Json.draft, toJson?, toItems?_draftItems items]
  | .object members => by simp [Json.draft, toJson?, toMembers?_draftMembers members]

/-- The drafts of items amount to those items. -/
theorem toItems?_draftItems : (items : List Json) → toItems? (Json.draftItems items) = some items
  | [] => by simp [Json.draftItems, toItems?]
  | item :: rest => by
    simp [Json.draftItems, toItems?, toJson?_draft item, toItems?_draftItems rest]

/-- The drafts of members amount to those members. -/
theorem toMembers?_draftMembers :
    (members : List (String × Json)) → toMembers? (Json.draftMembers members) = some members
  | [] => by simp [Json.draftMembers, toMembers?]
  | (key, value) :: rest => by
    simp [Json.draftMembers, toMembers?, toJson?_draft value, toMembers?_draftMembers rest]

end

/-- The document that a draft amounts to if it can be held: with `outer` levels around it
    nothing in it lies deeper than 127 levels, and its numbers are within the doubles. -/
def held? (outer : Nat) (draft : Draft) : Option Json :=
  draft.toJson?.filter fun value => outer + value.depth ≤ 127 && value.isFinite

end Draft

end RoomTimeline
