/-!
# JSON documents

A document is kept as it was written, as far as anything can depend on it: the members of an
object stay in order and a repeated key stays repeated, and a number is its literal rather than
a rounded value. What a reader makes of repeated keys or of a fraction is decided where the
document is understood, not here.
-/

namespace RoomTimeline

/-- A number literal: sign, whole part, the digits after the point and the exponent. A literal
    without a point has no fraction digits, and `1e0` differs from `1` by its exponent. -/
structure Numeral where
  negative : Bool
  whole : Nat
  fraction : List (Fin 10)
  exponent : Option Int
  deriving DecidableEq

/-- The literal of a natural number: digits only. -/
def Numeral.ofNat (n : Nat) : Numeral := ⟨false, n, [], none⟩

/-- The natural number that a literal of digits alone denotes. A sign, a point or an exponent
    makes a literal something else, even where its value is whole. -/
def Numeral.toNat? (n : Numeral) : Option Nat :=
  if n.negative = false ∧ n.fraction = [] ∧ n.exponent = none then some n.whole else none

/-- The literal of a natural number denotes it. -/
theorem Numeral.toNat?_ofNat (n : Nat) : (Numeral.ofNat n).toNat? = some n := rfl

/-- A JSON value. -/
inductive Json where
  | null
  | bool (value : Bool)
  | number (literal : Numeral)
  | string (text : String)
  | array (items : List Json)
  | object (members : List (String × Json))

namespace Json

/-- A natural number as a JSON value. -/
def nat (n : Nat) : Json := .number (.ofNat n)

/-- An absent text is written as null. -/
def optionalString : Option String → Json
  | some text => .string text
  | none => .null

/-- The null literal. -/
def toNull? : Json → Option Unit
  | .null => some ()
  | _ => none

/-- The value of a truth literal. -/
def toBool? : Json → Option Bool
  | .bool value => some value
  | _ => none

/-- The text of a string. -/
def toText? : Json → Option String
  | .string text => some text
  | _ => none

/-- A literal of digits alone, within sixty-four bits. -/
def toUInt64? : Json → Option UInt64
  | .number literal =>
    match literal.toNat? with
    | some n => if n < UInt64.size then some (UInt64.ofNat n) else none
    | none => none
  | _ => none

/-- The value under a key of an object, the last of repeated ones. -/
def field? (key : String) : Json → Option Json
  | .object members =>
    (members.filterMap fun (name, value) => if name = key then some value else none).getLast?
  | _ => none

mutual

/-- How deeply arrays and objects nest; a value that is neither has depth zero. -/
def depth : Json → Nat
  | .array items => depthItems items + 1
  | .object members => depthMembers members + 1
  | .null | .bool _ | .number _ | .string _ => 0

/-- The greatest depth in a list of values. -/
def depthItems : List Json → Nat
  | [] => 0
  | item :: rest => max (depth item) (depthItems rest)

/-- The greatest depth among the values of an object. -/
def depthMembers : List (String × Json) → Nat
  | [] => 0
  | (_, value) :: rest => max (depth value) (depthMembers rest)

end

/-- Enter a member into a sorted object, in place of one with the same key. -/
def putMember (key : String) (value : Json) : List (String × Json) → List (String × Json)
  | [] => [(key, value)]
  | (name, old) :: rest =>
    if key = name then (key, value) :: rest
    else if key < name then (key, value) :: (name, old) :: rest
    else (name, old) :: putMember key value rest

mutual

/-- The document as a value in memory: each object is sorted by key and holds the last of
    repeated members. -/
def sorted : Json → Json
  | .array items => .array (sortedItems items)
  | .object members => .object (sortedMembers members [])
  | .null => .null
  | .bool value => .bool value
  | .number literal => .number literal
  | .string text => .string text

/-- `sorted` for each value of a list. -/
def sortedItems : List Json → List Json
  | [] => []
  | item :: rest => sorted item :: sortedItems rest

/-- Enter the members of an object one after another, so that the last of repeated keys stays. -/
def sortedMembers : List (String × Json) → List (String × Json) → List (String × Json)
  | [], entered => entered
  | (key, value) :: rest, entered => sortedMembers rest (putMember key (sorted value) entered)

end

end Json

end RoomTimeline
