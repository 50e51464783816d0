import Mathlib.Data.List.Nodup
import RoomTimeline.Proofs.Json.Reading

/-!
# Documents and their texts

A text is that of one document only, and is read as that document with nothing left over
(`Json.ofText?_render`). So what can be told of a document can be told of its text.

Nothing in the grammar keeps an object from repeating a key. `Json.KeysDistinct` says that a
document does not do so anywhere.
-/

namespace RoomTimeline

namespace Json

/-- The text of a document consists of this document. -/
theorem ofText?_render (document : Json) : ofText? document.render = some document := by
  unfold ofText?
  rw [scan_render]
  exact (if_pos rfl).trans (Draft.toJson?_draft document)

/-- Numbers of sixty-four bits that are written alike are the same. -/
@[simp] theorem nat_toNat_inj {first second : UInt64} :
    Json.nat first.toNat = Json.nat second.toNat ↔ first = second := by
  simp [Json.nat, Numeral.ofNat, UInt64.toNat_inj]

/-- Texts that may be absent are told apart, and from their absence. -/
@[simp] theorem optionalString_inj {first second : Option String} :
    optionalString first = optionalString second ↔ first = second := by
  cases first <;> cases second <;> simp [optionalString]

/-- No object of a document repeats a key. -/
inductive KeysDistinct : Json → Prop
  | null : KeysDistinct .null
  | bool (value : Bool) : KeysDistinct (.bool value)
  | number (literal : Numeral) : KeysDistinct (.number literal)
  | string (text : String) : KeysDistinct (.string text)
  | array {items : List Json} (all : ∀ item ∈ items, KeysDistinct item) :
      KeysDistinct (.array items)
  | object {members : List (String × Json)} (keys : (members.map Prod.fst).Nodup)
      (values : ∀ member ∈ members, KeysDistinct member.2) : KeysDistinct (.object members)

attribute [simp] KeysDistinct.null KeysDistinct.bool KeysDistinct.number KeysDistinct.string

/-- No object within an array repeats a key just if none does within any of the items. -/
@[simp] theorem keysDistinct_array {items : List Json} :
    (Json.array items).KeysDistinct ↔ ∀ item ∈ items, item.KeysDistinct := by
  refine ⟨fun distinct => ?_, .array⟩
  cases distinct with
  | array all => exact all

/-- No object within an object repeats a key, nor does the object itself, just if its own keys
differ and none repeats within any of the values. -/
@[simp] theorem keysDistinct_object {members : List (String × Json)} :
    (Json.object members).KeysDistinct ↔
      (members.map Prod.fst).Nodup ∧ ∀ member ∈ members, member.2.KeysDistinct := by
  refine ⟨fun distinct => ?_, fun distinct => .object distinct.1 distinct.2⟩
  cases distinct with
  | object keys values => exact ⟨keys, values⟩

/-- No object within a number repeats a key, since there is none. -/
@[simp] theorem keysDistinct_nat (n : Nat) : (Json.nat n).KeysDistinct := .number _

/-- No object repeats a key where a text is written that may be absent. -/
@[simp] theorem keysDistinct_optionalString (text : Option String) :
    (optionalString text).KeysDistinct := by
  cases text
  · exact .null
  · exact .string _

end Json

end RoomTimeline
