import RoomTimeline.Json.Value
import RoomTimeline.Json.Quoted

/-!
# Compact JSON text

The text of a document without any blank: members and items in the order of the document, one
comma between neighbours, and one colon between a key and its value. A numeral is written with
the digits it holds and an exponent, where it has one, in lower case without a plus sign.
-/

namespace RoomTimeline

/-- The text of a number literal. -/
def Numeral.print (n : Numeral) : List Char :=
  (if n.negative then ['-'] else []) ++ Nat.toDigits 10 n.whole ++
    (if n.fraction = [] then [] else '.' :: n.fraction.map fun digit => Nat.digitChar digit.val) ++
    (match n.exponent with
      | none => []
      | some e => 'e' :: (if e < 0 then ['-'] else []) ++ Nat.toDigits 10 e.natAbs)

namespace Json

/-- A string literal with its quotation marks. -/
def quote (text : String) : List Char := '"' :: Quoted.encode text.toList ++ ['"']

mutual

/-- The text of a document. -/
def print : Json → List Char
  | .null => "null".toList
  | .bool true => "true".toList
  | .bool false => "false".toList
  | .number literal => literal.print
  | .string text => quote text
  | .array [] => ['[', ']']
  | .array (item :: rest) => '[' :: print item ++ printItems rest
  | .object [] => ['\x7b', '\x7d']
  | .object ((key, value) :: rest) => '\x7b' :: quote key ++ ':' :: print value ++ printMembers rest

/-- The items after the first, each behind a comma, and the closing bracket. -/
def printItems : List Json → List Char
  | [] => [']']
  | item :: rest => ',' :: print item ++ printItems rest

/-- The members after the first, each behind a comma, and the closing brace. -/
def printMembers : List (String × Json) → List Char
  | [] => ['\x7d']
  | (key, value) :: rest => ',' :: quote key ++ ':' :: print value ++ printMembers rest

end

/-- The text of a document as a string. -/
def render (document : Json) : String := String.ofList document.print

end Json

end RoomTimeline
