import RoomTimeline.Json.Value

/-!
# The size of number literals

A literal that is looked at has to lie within the finite doubles. The verdict is that of the
arithmetic of doubles on what is kept of the literal. Kept are the leading digits that fit
sixty-four bits: later digits of the whole part count as powers of ten, and later digits behind
the point do not count. What is kept and the power of ten are each rounded to a double, and the
literal is too large when the product of the two rounds to infinity.

Next to the largest double the two roundings matter, so a literal may be refused although its
exact value is below that double, and the other way round.
-/

namespace RoomTimeline

/-- The unit of the last place that a double has for a natural number. -/
def lastPlace (n : Nat) : Nat := 1 <<< (n.log2 - 52)

/-- The double nearest to a natural number, and the even one of two equally near. A double has
    fifty-three significant bits; numbers too large for any double are rounded in the same way. -/
def nearestDouble (n : Nat) : Nat :=
  let unit := lastPlace n
  let quotient := n / unit
  let rest := n % unit
  if 2 * rest < unit ∨ (2 * rest = unit ∧ quotient % 2 = 0) then quotient * unit
  else (quotient + 1) * unit

namespace Numeral

/-- Drop digits from the end of a number until the others fit sixty-four bits: what is left and
    how many were dropped. -/
def shorten (n : Nat) : Nat × Nat :=
  if n < UInt64.size then (n, 0)
  else
    let (kept, dropped) := shorten (n / 10)
    (kept, dropped + 1)
termination_by n
decreasing_by
  have : 0 < UInt64.size := by decide
  omega

/-- Append digits to a number as long as it fits sixty-four bits: the number and how many digits
    it has taken. -/
def extend : Nat → List (Fin 10) → Nat × Nat
  | kept, [] => (kept, 0)
  | kept, digit :: rest =>
    if 10 * kept + digit.val < UInt64.size then
      let (extended, taken) := extend (10 * kept + digit.val) rest
      (extended, taken + 1)
    else (kept, 0)

/-- The digits that are kept of a literal, as one number, and the power of ten they stand at. -/
def scaled (n : Numeral) : Nat × Int :=
  let (whole, dropped) := shorten n.whole
  let (kept, taken) := extend whole n.fraction
  (kept, dropped - taken + n.exponent.getD 0)

/-- The least number that rounds to infinity: half a unit above the largest double. -/
def infinity : Nat := 1 <<< 1024 - 1 <<< 970

/-- Whether a literal lies within the finite doubles. The largest power of ten that is a double
    is the one of 308. -/
def isFinite (n : Numeral) : Bool :=
  let (kept, scale) := n.scaled
  kept = 0 || scale ≤ 0 ||
    (scale ≤ 308 && nearestDouble kept * nearestDouble (Nat.pow 10 scale.toNat) < infinity)

end Numeral

namespace Json

mutual

/-- Whether all numbers of a document lie within the finite doubles. -/
def isFinite : Json → Bool
  | .number literal => literal.isFinite
  | .array items => isFiniteItems items
  | .object members => isFiniteMembers members
  | .null | .bool _ | .string _ => true

/-- `isFinite` for all items of an array. -/
def isFiniteItems : List Json → Bool
  | [] => true
  | item :: rest => isFinite item && isFiniteItems rest

/-- `isFinite` for the values of all members of an object. -/
def isFiniteMembers : List (String × Json) → Bool
  | [] => true
  | (_, value) :: rest => isFinite value && isFiniteMembers rest

end

end Json

end RoomTimeline
