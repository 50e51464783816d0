import RoomTimeline.Json.Draft
import RoomTimeline.Json.Quoted

/-!
# Reading JSON text

`Draft.scan` reads the document at the front of a text, with blanks before every token, and
yields a draft with the members of objects in order and repeated. Where the text stops being a
document the draft is broken. Nothing is refused for its size: nesting, the length of numbers
and repeated keys concern the reader of a type, not the grammar.

Every step recurses on a fuel that the length of the text bounds. A value takes at least one
character, and between two characters at most two steps are nested, so twice the length is
always enough and a draft is broken only where the text is no document.
-/

namespace RoomTimeline.Draft

/-- Drop the blanks in front of a token: space, tab, line feed and carriage return. -/
def skipBlank : List Char → List Char :=
  List.dropWhile fun c => c = ' ' ∨ c = '\t' ∨ c = '\n' ∨ c = '\r'

/-- The value of a decimal digit. -/
def digitValue (c : Char) : Fin 10 := Fin.ofNat 10 (c.toNat - '0'.toNat)

/-- The digits at the front, at least one, and what follows them. -/
def digits? (text : List Char) : Option (List Char × List Char) :=
  match text.takeWhile Char.isDigit with
  | [] => none
  | found => some (found, text.dropWhile Char.isDigit)

/-- The whole part of a number: a single zero, or digits that do not start with one. -/
def whole? : List Char → Option (Nat × List Char)
  | '0' :: rest => if rest.head?.any Char.isDigit then none else some (0, rest)
  | text => (digits? text).map fun (found, rest) => (Nat.ofDigitChars 10 found 0, rest)

/-- The digits behind a point, none if there is no point. -/
def fraction? : List Char → Option (List (Fin 10) × List Char)
  | '.' :: rest => (digits? rest).map fun (found, rest) => (found.map digitValue, rest)
  | text => some ([], text)

/-- A sign and what follows it; a number without a sign counts as positive. -/
def sign (plus : Bool) : List Char → Bool × List Char
  | '-' :: rest => (true, rest)
  | '+' :: rest => if plus then (false, rest) else (false, '+' :: rest)
  | text => (false, text)

/-- An exponent with either letter and either sign. -/
def exponent? : List Char → Option (Option Int × List Char)
  | [] => some (none, [])
  | c :: rest =>
    if c = 'e' ∨ c = 'E' then
      let (negative, rest) := sign true rest
      (digits? rest).map fun (found, rest) =>
        let size : Int := Nat.ofDigitChars 10 found 0
        (some (if negative then -size else size), rest)
    else some (none, c :: rest)

/-- A number literal and what follows it. -/
def numeral? (text : List Char) : Option (Numeral × List Char) := do
  let (negative, text) := sign false text
  let (whole, text) ← whole? text
  let (fraction, text) ← fraction? text
  let (exponent, text) ← exponent? text
  some (⟨negative, whole, fraction, exponent⟩, text)

/-- The text of a literal: none when a half of a surrogate pair has no partner. -/
def textOf (pieces : List Json.Quoted.Piece) : Option String :=
  (Json.Quoted.join pieces).map String.ofList

mutual

/-- A value with the blanks in front of it, and what follows it. -/
def value : Nat → List Char → Draft × List Char
  | 0, _ => (.broken, [])
  | fuel + 1, text =>
    match skipBlank text with
    | 'n' :: 'u' :: 'l' :: 'l' :: rest => (.null, rest)
    | 't' :: 'r' :: 'u' :: 'e' :: rest => (.bool true, rest)
    | 'f' :: 'a' :: 'l' :: 's' :: 'e' :: rest => (.bool false, rest)
    | '"' :: rest =>
      match Json.Quoted.scan rest with
      | some (pieces, rest) => (.string (textOf pieces), rest)
      | none => (.broken, [])
    | '[' :: rest =>
      match skipBlank rest with
      | ']' :: rest => (.array [], rest)
      | _ =>
        let (items, rest) := items fuel rest
        (.array items, rest)
    | '\x7b' :: rest =>
      match skipBlank rest with
      | '\x7d' :: rest => (.object [], rest)
      | _ =>
        let (members, rest) := members fuel rest
        (.object members, rest)
    | text =>
      match numeral? text with
      | some (literal, rest) => (.number literal, rest)
      | none => (.broken, [])

/-- The items of an array that is not empty, through its closing bracket. -/
def items : Nat → List Char → List Draft × List Char
  | 0, _ => ([.broken], [])
  | fuel + 1, text =>
    let (item, rest) := value fuel text
    match skipBlank rest with
    | ',' :: rest =>
      let (items, rest) := items fuel rest
      (item :: items, rest)
    | ']' :: rest => ([item], rest)
    | _ => ([item, .broken], [])

/-- The members of an object that is not empty, through its closing brace. -/
def members : Nat → List Char → List (Option String × Draft) × List Char
  | 0, _ => ([(none, .broken)], [])
  | fuel + 1, text =>
    match skipBlank text with
    | '"' :: rest =>
      match Json.Quoted.scan rest with
      | none => ([(none, .broken)], [])
      | some (key, rest) =>
        match skipBlank rest with
        | ':' :: rest =>
          let (value, rest) := value fuel rest
          match skipBlank rest with
          | ',' :: rest =>
            let (members, rest) := members fuel rest
            ((textOf key, value) :: members, rest)
          | '\x7d' :: rest => ([(textOf key, value)], rest)
          | _ => ([(textOf key, value), (none, .broken)], [])
        | _ => ([(textOf key, .broken), (none, .broken)], [])
    | _ => ([(none, .broken)], [])

end

/-- The draft at the front of a text, and what follows it. -/
def scan (text : List Char) : Draft × List Char := value (2 * text.length + 2) text

end RoomTimeline.Draft

namespace RoomTimeline.Json

/-- The document that a text consists of, with nothing but blanks around it. -/
def ofText? (text : String) : Option Json :=
  let (draft, rest) := Draft.scan text.toList
  if Draft.skipBlank rest = [] then draft.toJson? else none

end RoomTimeline.Json
