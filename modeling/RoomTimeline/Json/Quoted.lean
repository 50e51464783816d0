/-!
# String literals

`encode` writes the inside of a JSON string literal: a quotation mark, a reverse solidus and the
characters below U+0020 are escaped, everything else stands for itself. `scan` reads up to the
closing quotation mark and yields pieces, because an escape may name half of a surrogate pair;
`join` puts the halves together and fails on one that has no partner.

What is encoded reads back as the same text, and reading stops at the mark behind it
(`scan_encode`, `join_map_char`).
-/

namespace RoomTimeline.Json.Quoted

/-- The digit of a number below sixteen, letters in lower case. -/
def hexDigit (n : Nat) : Char := Nat.digitChar n

/-- The number that a hexadecimal digit of either case stands for. -/
def hexValue? (c : Char) : Option Nat :=
  if '0' ≤ c ∧ c ≤ '9' then some (c.toNat - '0'.toNat)
  else if 'a' ≤ c ∧ c ≤ 'f' then some (c.toNat - 'a'.toNat + 10)
  else if 'A' ≤ c ∧ c ≤ 'F' then some (c.toNat - 'A'.toNat + 10)
  else none

/-- How one character is written inside a literal. The short escapes come first; the other
    characters below U+0020 take four hexadecimal digits. -/
def encodeChar (c : Char) : List Char :=
  if c = '"' then ['\\', '"']
  else if c = '\\' then ['\\', '\\']
  else if c = '\x08' then ['\\', 'b']
  else if c = '\x0c' then ['\\', 'f']
  else if c = '\n' then ['\\', 'n']
  else if c = '\r' then ['\\', 'r']
  else if c = '\t' then ['\\', 't']
  else if c.toNat < 0x20 then
    ['\\', 'u', '0', '0', hexDigit (c.toNat / 16), hexDigit (c.toNat % 16)]
  else [c]

/-- The inside of the literal for a text. -/
def encode (text : List Char) : List Char := text.flatMap encodeChar

/-- One unit of a literal: a character, or an escaped half of a surrogate pair. -/
inductive Piece where
  | char (c : Char)
  | half (unit : Nat)
  deriving DecidableEq

/-- What a four-digit escape names. -/
def Piece.ofUnit (unit : Nat) : Piece :=
  if 0xD800 ≤ unit ∧ unit < 0xE000 then .half unit else .char (Char.ofNat unit)

/-- The character that a one-letter escape names. -/
def escaped? : Char → Option Char
  | '"' => some '"'
  | '\\' => some '\\'
  | '/' => some '/'
  | 'b' => some '\x08'
  | 'f' => some '\x0c'
  | 'n' => some '\n'
  | 'r' => some '\r'
  | 't' => some '\t'
  | _ => none

/-- The number of four hexadecimal digits. -/
def unit? (a b c d : Char) : Option Nat := do
  let a ← hexValue? a
  let b ← hexValue? b
  let c ← hexValue? c
  let d ← hexValue? d
  some (((a * 16 + b) * 16 + c) * 16 + d)

/-- Read the pieces of a literal up to its closing quotation mark, and what follows the mark.
    A raw character below U+0020 and an unknown escape are refused. -/
def scan : List Char → Option (List Piece × List Char)
  | [] => none
  | '"' :: rest => some ([], rest)
  | '\\' :: 'u' :: a :: b :: c :: d :: rest =>
    match unit? a b c d, scan rest with
    | some unit, some (pieces, after) => some (.ofUnit unit :: pieces, after)
    | _, _ => none
  | '\\' :: c :: rest =>
    match escaped? c, scan rest with
    | some c, some (pieces, after) => some (.char c :: pieces, after)
    | _, _ => none
  | c :: rest =>
    if c.toNat < 0x20 ∨ c = '\\' then none
    else
      match scan rest with
      | some (pieces, after) => some (.char c :: pieces, after)
      | none => none

/-- The text of a literal: a high half must be followed by a low one, and a low half must
    follow a high one. -/
def join : List Piece → Option (List Char)
  | [] => some []
  | .char c :: rest => (join rest).map (c :: ·)
  | .half high :: .half low :: rest =>
    if high < 0xDC00 ∧ 0xDC00 ≤ low then
      (join rest).map (Char.ofNat (0x10000 + (high - 0xD800) * 0x400 + (low - 0xDC00)) :: ·)
    else none
  | .half _ :: _ => none

/-! ## Reading back what is encoded -/

/-- The digit of a number reads back as the number. -/
theorem hexValue?_hexDigit {n : Nat} (small : n < 16) : hexValue? (hexDigit n) = some n := by
  have each : ∀ m : Fin 16, hexValue? (hexDigit m.val) = some m.val := by decide
  exact each ⟨n, small⟩

/-- The escape of a character below U+0020 names its number. -/
theorem unit?_of_lt {n : Nat} (small : n < 0x20) :
    unit? '0' '0' (hexDigit (n / 16)) (hexDigit (n % 16)) = some n := by
  have zero : hexValue? '0' = some 0 := by decide
  have high := hexValue?_hexDigit (n := n / 16) (by omega)
  have low := hexValue?_hexDigit (n := n % 16) (by omega)
  have whole : n / 16 * 16 + n % 16 = n := by omega
  simp [unit?, zero, high, low, whole]

/-- The number of a character below the surrogates names that character. -/
theorem Piece.ofUnit_toNat {c : Char} (small : c.toNat < 0xD800) :
    Piece.ofUnit c.toNat = .char c := by
  have whole : ¬ (0xD800 ≤ c.toNat ∧ c.toNat < 0xE000) := by omega
  simp [Piece.ofUnit, whole, Char.ofNat_toNat]

/-- The written form of one character reads back as that character, whatever follows. -/
theorem scan_encodeChar (c : Char) {rest after : List Char} {pieces : List Piece}
    (follows : scan rest = some (pieces, after)) :
    scan (encodeChar c ++ rest) = some (.char c :: pieces, after) := by
  unfold encodeChar
  by_cases mark : c = '"'
  · subst mark; simp [scan, escaped?, follows]
  by_cases solidus : c = '\\'
  · subst solidus; simp [scan, escaped?, follows]
  by_cases backspace : c = '\x08'
  · subst backspace; simp [scan, escaped?, follows]
  by_cases formFeed : c = '\x0c'
  · subst formFeed; simp [scan, escaped?, follows]
  by_cases lineFeed : c = '\n'
  · subst lineFeed; simp [scan, escaped?, follows]
  by_cases carriageReturn : c = '\r'
  · subst carriageReturn; simp [scan, escaped?, follows]
  by_cases tab : c = '\t'
  · subst tab; simp [scan, escaped?, follows]
  simp only [mark, solidus, backspace, formFeed, lineFeed, carriageReturn, tab, if_false]
  by_cases small : c.toNat < 0x20
  · have named := Piece.ofUnit_toNat (by omega : c.toNat < 0xD800)
    simp [scan, small, unit?_of_lt small, named, follows]
  · simp [scan, solidus, small, follows]

/-- An encoded text reads back up to the mark behind it. -/
theorem scan_encode (text rest : List Char) :
    scan (encode text ++ '"' :: rest) = some (text.map .char, rest) := by
  induction text with
  | nil => simp [encode, scan]
  | cons c text ih =>
    have split : encode (c :: text) = encodeChar c ++ encode text := by simp [encode]
    rw [split, List.append_assoc]
    exact scan_encodeChar c ih

/-- Characters join to their text. -/
theorem join_map_char (text : List Char) : join (text.map .char) = some text := by
  induction text with
  | nil => rfl
  | cons c text ih => simp [join, ih]

end RoomTimeline.Json.Quoted
