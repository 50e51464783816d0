import RoomTimeline.Json.Printer
import RoomTimeline.Json.Reader

/-!
# What is printed reads back

The compact text of a document reads back as that document, with nothing left over
(`Json.scan_render`). A number reads back up to whatever cannot go on with it (`Stops`), a string up
to the quotation mark behind it, and an array or object up to its closing bracket. The fuel that
`Draft.scan` grants is twice the length of the text and two more, and every value needs at most
twice the length of its own text (`Json.Reads`).
-/

namespace RoomTimeline

/-! ## Digits -/

/-- What follows does not go on with digits. -/
def NoDigit (rest : List Char) : Prop := ∀ c ∈ rest.head?, c.isDigit = false

/-- What follows does not go on with a number. -/
def Stops (rest : List Char) : Prop :=
  ∀ c ∈ rest.head?, c.isDigit = false ∧ c ≠ '.' ∧ c ≠ 'e' ∧ c ≠ 'E'

namespace Draft

/-- Digits that are followed by something else are read up to there. -/
theorem digits?_append {found rest : List Char} (some_found : found ≠ [])
    (all : ∀ c ∈ found, c.isDigit = true) (ends : NoDigit rest) :
    digits? (found ++ rest) = some (found, rest) := by
  have taken : (found ++ rest).takeWhile Char.isDigit = found := by
    rw [List.takeWhile_append_of_pos all]
    cases rest with
    | nil => simp
    | cons c rest => simp [ends c rfl]
  have left : (found ++ rest).dropWhile Char.isDigit = rest := by
    rw [List.dropWhile_append_of_pos all]
    cases rest with
    | nil => simp
    | cons c rest => simp [ends c rfl]
  unfold digits?
  rw [taken, left]
  cases found with
  | nil => exact absurd rfl some_found
  | cons c found => rfl

/-- The digits of a number are digits, and there is one at least. -/
theorem digits?_toDigits (n : Nat) {rest : List Char} (ends : NoDigit rest) :
    digits? (Nat.toDigits 10 n ++ rest) = some (Nat.toDigits 10 n, rest) :=
  digits?_append Nat.toDigits_ne_nil
    (fun _ member => Nat.isDigit_of_mem_toDigits (by decide) (by decide) member) ends

/-- Written out, a number begins with a digit, and with a zero only if it is zero. -/
theorem toDigits_eq_cons (n : Nat) :
    ∃ c more, Nat.toDigits 10 n = c :: more ∧ c.isDigit = true ∧ (0 < n → c ≠ '0') := by
  induction n using Nat.strongRecOn with
  | ind n inductionHypothesis =>
    by_cases small : n < 10
    · have each : ∀ digit : Fin 10, (Nat.digitChar digit.val).isDigit = true ∧
          (0 < digit.val → Nat.digitChar digit.val ≠ '0') := by decide
      exact ⟨_, _, Nat.toDigits_of_lt_base small, each ⟨n, small⟩⟩
    · obtain ⟨c, more, written, digit, leading⟩ := inductionHypothesis (n / 10) (by omega)
      refine ⟨c, more ++ [Nat.digitChar (n % 10)], ?_, digit, fun _ => leading (by omega)⟩
      rw [Nat.toDigits_of_base_le (by decide) (by omega), written]
      rfl

/-! ## Numbers -/

/-- A text that begins with a digit has no sign. -/
theorem sign_of_isDigit (plus : Bool) {c : Char} (digit : c.isDigit = true) (rest : List Char) :
    sign plus (c :: rest) = (false, c :: rest) := by
  unfold sign
  split
  · rename_i same
    cases same
    cases digit
  · rename_i same
    cases same
    cases digit
  · rfl

/-- The sign of a number is read in front of its digits, and none where there is none. -/
theorem sign_text (plus : Bool) (negative : Prop) [Decidable negative] (n : Nat)
    (rest : List Char) :
    sign plus ((if negative then ['-'] else []) ++ (Nat.toDigits 10 n ++ rest)) =
      (decide negative, Nat.toDigits 10 n ++ rest) := by
  by_cases minus : negative
  · rw [if_pos minus, decide_eq_true minus]
    rfl
  · obtain ⟨c, more, written, digit, -⟩ := toDigits_eq_cons n
    rw [if_neg minus, decide_eq_false minus, written]
    exact sign_of_isDigit plus digit _

/-- The digits of a number are read as its whole part, up to whatever is no digit. -/
theorem whole?_toDigits (n : Nat) {rest : List Char} (ends : NoDigit rest) :
    whole? (Nat.toDigits 10 n ++ rest) = some (n, rest) := by
  by_cases zero : n = 0
  · subst zero
    have apart : rest.head?.any Char.isDigit = false := by
      cases rest with
      | nil => rfl
      | cons c rest => exact ends c rfl
    change (if rest.head?.any Char.isDigit = true then none else some (0, rest)) = _
    rw [apart]
    rfl
  · obtain ⟨c, more, written, -, leading⟩ := toDigits_eq_cons n
    have plain := leading (Nat.pos_of_ne_zero zero)
    unfold whole?
    split
    · rename_i same
      rw [written] at same
      cases same
      exact absurd rfl plain
    · rw [digits?_toDigits n ends]
      exact congrArg (fun n => some (n, rest)) Nat.ofDigitChars_ten_toDigits

/-- How the digits behind the point are written. -/
def fractionText (fraction : List (Fin 10)) : List Char :=
  if fraction = [] then [] else '.' :: fraction.map fun digit => Nat.digitChar digit.val

/-- How an exponent is written. -/
def exponentText : Option Int → List Char
  | none => []
  | some e => 'e' :: (if e < 0 then ['-'] else []) ++ Nat.toDigits 10 e.natAbs

/-- A fraction is read from its text, up to whatever is no digit. -/
theorem fraction?_text (fraction : List (Fin 10)) {rest : List Char} (ends : NoDigit rest)
    (pointless : ∀ c ∈ rest.head?, c ≠ '.') :
    fraction? (fractionText fraction ++ rest) = some (fraction, rest) := by
  unfold fractionText
  split
  case isTrue none =>
    subst none
    rw [List.nil_append]
    unfold fraction?
    split
    · exact absurd rfl (pointless '.' rfl)
    · rfl
  case isFalse more =>
    have each : ∀ digit : Fin 10, (Nat.digitChar digit.val).isDigit = true ∧
        digitValue (Nat.digitChar digit.val) = digit := by decide
    have all : ∀ c ∈ fraction.map fun digit => Nat.digitChar digit.val, c.isDigit = true := by
      intro c member
      obtain ⟨digit, -, rfl⟩ := List.mem_map.mp member
      exact (each digit).1
    have values :
        (fraction.map fun digit => Nat.digitChar digit.val).map digitValue = fraction := by
      rw [List.map_map]
      exact (List.map_congr_left fun digit _ => (each digit).2).trans (List.map_id fraction)
    change (digits? (_ ++ rest)).map _ = _
    rw [digits?_append (by simpa using more) all ends]
    exact congrArg (fun fraction => some (fraction, rest)) values

/-- An exponent is read from its text, up to whatever cannot go on with a number. -/
theorem exponent?_text (exponent : Option Int) {rest : List Char} (stops : Stops rest) :
    exponent? (exponentText exponent ++ rest) = some (exponent, rest) := by
  have ends : NoDigit rest := fun c first => (stops c first).1
  cases exponent with
  | none =>
    cases rest with
    | nil => rfl
    | cons c rest =>
      obtain ⟨-, -, lower, upper⟩ := stops c rfl
      exact if_neg (not_or.mpr ⟨lower, upper⟩)
  | some e =>
    have text : exponentText (some e) ++ rest = 'e' ::
        ((if e < 0 then ['-'] else []) ++ (Nat.toDigits 10 e.natAbs ++ rest)) := by
      simp [exponentText]
    have value : (if decide (e < 0) = true then -(e.natAbs : Int) else e.natAbs) = e := by
      simp only [decide_eq_true_iff]
      omega
    rw [text, exponent?, if_pos (Or.inl rfl), sign_text]
    dsimp only
    rw [digits?_toDigits e.natAbs ends, Option.map_some]
    dsimp only
    rw [Nat.ofDigitChars_ten_toDigits, value]

/-- A number is written as its sign, its whole part, its fraction and its exponent. -/
theorem print_eq (n : Numeral) :
    n.print = (if n.negative then ['-'] else []) ++ (Nat.toDigits 10 n.whole ++
      (fractionText n.fraction ++ exponentText n.exponent)) := by
  unfold Numeral.print fractionText exponentText
  cases n.exponent <;> simp

/-- A number reads back up to whatever cannot go on with it. -/
theorem numeral?_print (n : Numeral) {rest : List Char} (stops : Stops rest) :
    numeral? (n.print ++ rest) = some (n, rest) := by
  have afterFraction :
      ∀ c ∈ (exponentText n.exponent ++ rest).head?, c.isDigit = false ∧ c ≠ '.' := by
    cases n.exponent with
    | none => exact fun c first => ⟨(stops c first).1, (stops c first).2.1⟩
    | some e =>
      intro c first
      cases first
      decide
  have afterWhole : NoDigit (fractionText n.fraction ++ (exponentText n.exponent ++ rest)) := by
    unfold fractionText
    split
    · exact fun c first => (afterFraction c first).1
    · intro c first
      cases first
      decide
  have fraction := fraction?_text n.fraction (fun c first => (afterFraction c first).1)
    (fun c first => (afterFraction c first).2)
  have signed : sign false (n.print ++ rest) = (n.negative, Nat.toDigits 10 n.whole ++
      (fractionText n.fraction ++ (exponentText n.exponent ++ rest))) := by
    rw [print_eq, List.append_assoc, List.append_assoc, List.append_assoc, sign_text,
      Bool.decide_eq_true]
  unfold numeral?
  simp only [signed, whole?_toDigits n.whole afterWhole, fraction, exponent?_text n.exponent stops,
    Option.bind_eq_bind, Option.bind_some]

end Draft

/-! ## Documents -/

open Draft in
/-- A document reads back from its text, up to whatever cannot go on with a number, with fuel for
twice the length of the text. -/
def Json.Reads (document : Json) : Prop :=
  ∀ (fuel : Nat) (rest : List Char), 2 * document.print.length ≤ fuel → Stops rest →
    value fuel (document.print ++ rest) = (document.draft, rest)

namespace Draft

variable {fuel : Nat} {rest : List Char}

/-- Whether a character is a blank between tokens. -/
def IsBlank (c : Char) : Prop := c = ' ' ∨ c = '\t' ∨ c = '\n' ∨ c = '\r'

instance (c : Char) : Decidable (IsBlank c) :=
  inferInstanceAs (Decidable (c = ' ' ∨ c = '\t' ∨ c = '\n' ∨ c = '\r'))

/-- What begins with no blank has none to drop. -/
theorem skipBlank_cons {c : Char} (visible : ¬ IsBlank c) (rest : List Char) :
    skipBlank (c :: rest) = c :: rest := by
  unfold skipBlank
  rw [List.dropWhile_cons_of_neg]
  simpa [IsBlank] using visible

/-- Pieces that are the characters of a text give this text. -/
theorem textOf_char (text : String) : textOf (text.toList.map .char) = some text := by
  unfold textOf
  rw [Json.Quoted.join_map_char, Option.map_some, String.ofList_toList]

/-- A quoted text is a quotation mark, the text with what has to be escaped, and a quotation mark.
-/
theorem quote_append (key : String) (text : List Char) :
    Json.quote key ++ text = '"' :: (Json.Quoted.encode key.toList ++ '"' :: text) := by
  simp [Json.quote]

/-! A value is read by what it begins with. -/

theorem value_quote (text : String) :
    value (fuel + 1) (Json.quote text ++ rest) = (.string (some text), rest) := by
  rw [quote_append, value]
  simp (disch := decide) only [skipBlank_cons, Json.Quoted.scan_encode, textOf_char]

theorem value_number {c : Char} (first : c.isDigit = true ∨ c = '-') :
    value (fuel + 1) (c :: rest) =
      match numeral? (c :: rest) with
      | some (literal, rest) => (.number literal, rest)
      | none => (.broken, []) := by
  have each : ∀ other ∈ ['n', 't', 'f', '"', '[', '\x7b', ' ', '\t', '\n', '\r'],
      other.isDigit = false ∧ other ≠ '-' := by simp
  have apart : ∀ other ∈ ['n', 't', 'f', '"', '[', '\x7b', ' ', '\t', '\n', '\r'], c ≠ other := by
    rintro other member rfl
    obtain ⟨letter, signless⟩ := each c member
    rcases first with digit | sign
    · rw [letter] at digit
      cases digit
    · exact signless sign
  have visible : ¬ IsBlank c := by
    rintro (rfl | rfl | rfl | rfl) <;> exact absurd rfl (apart _ (by decide))
  rw [value, skipBlank_cons visible]
  split
  case h_7 => rfl
  all_goals
    rename_i same
    cases same
    exact absurd rfl (apart _ (by decide))

/-- An array whose first item begins with no blank is read item by item. -/
theorem value_items {c : Char} (visible : ¬ IsBlank c) (more : c ≠ ']') :
    value (fuel + 1) ('[' :: c :: rest) =
      (.array (items fuel (c :: rest)).1, (items fuel (c :: rest)).2) := by
  have opening : ¬ IsBlank '[' := by decide
  rw [value]
  simp only [skipBlank_cons opening, skipBlank_cons visible]
  split
  · rename_i same
    cases same
    exact absurd rfl more
  · rfl

/-- An object whose first key stands right behind the brace is read member by member. -/
theorem value_members (key : String) : value (fuel + 1) ('\x7b' :: (Json.quote key ++ rest)) =
    (.object (members fuel (Json.quote key ++ rest)).1,
      (members fuel (Json.quote key ++ rest)).2) := by
  rw [quote_append]
  rfl

/-- Behind the comma after an item the next one is read. -/
theorem items_comma {item : Draft} {text : List Char}
    (read : value fuel text = (item, ',' :: rest)) :
    items (fuel + 1) text = (item :: (items fuel rest).1, (items fuel rest).2) := by
  rw [items, read]
  rfl

/-- The bracket after an item closes the array. -/
theorem items_bracket {item : Draft} {text : List Char}
    (read : value fuel text = (item, ']' :: rest)) : items (fuel + 1) text = ([item], rest) := by
  rw [items, read]
  rfl

/-- Behind the comma after a member the next one is read. -/
theorem members_comma {key : String} {item : Draft} {text : List Char}
    (read : value fuel text = (item, ',' :: rest)) :
    members (fuel + 1) (Json.quote key ++ ':' :: text) =
      ((some key, item) :: (members fuel rest).1, (members fuel rest).2) := by
  rw [quote_append, members]
  simp (disch := decide) only [skipBlank_cons, Json.Quoted.scan_encode, textOf_char, read]

/-- The brace after a member closes the object. -/
theorem members_brace {key : String} {item : Draft} {text : List Char}
    (read : value fuel text = (item, '\x7d' :: rest)) :
    members (fuel + 1) (Json.quote key ++ ':' :: text) = ([(some key, item)], rest) := by
  rw [quote_append, members]
  simp (disch := decide) only [skipBlank_cons, Json.Quoted.scan_encode, textOf_char, read]

/-- Closing characters end a number. -/
theorem stops_cons {c : Char} (closing : c = ',' ∨ c = ']' ∨ c = '\x7d') (rest : List Char) :
    Stops (c :: rest) := by
  intro first same
  cases same
  rcases closing with rfl | rfl | rfl <;> decide

/-- A number begins with a digit or a sign. -/
theorem print_eq_cons (n : Numeral) :
    ∃ c more, n.print = c :: more ∧ (c.isDigit = true ∨ c = '-') := by
  rw [print_eq]
  cases n.negative with
  | true => exact ⟨'-', _, rfl, Or.inr rfl⟩
  | false =>
    obtain ⟨c, more, written, digit, -⟩ := toDigits_eq_cons n.whole
    rw [written]
    exact ⟨c, _, rfl, Or.inl digit⟩

/-- No document begins with a blank or with the bracket that closes an array. -/
theorem exists_print_cons (document : Json) :
    ∃ c more, document.print = c :: more ∧ ¬ IsBlank c ∧ c ≠ ']' := by
  cases document with
  | null => exact ⟨'n', _, rfl, by decide⟩
  | bool value => cases value <;> exact ⟨_, _, rfl, by decide⟩
  | number literal =>
    obtain ⟨c, more, written, first⟩ := print_eq_cons literal
    refine ⟨c, more, written, ?_⟩
    constructor
    · rintro (rfl | rfl | rfl | rfl) <;> exact absurd first (by decide)
    · rintro rfl
      exact absurd first (by decide)
  | string text => exact ⟨'"', _, rfl, by decide⟩
  | array items => cases items <;> exact ⟨_, _, rfl, by decide⟩
  | object members => cases members <;> exact ⟨_, _, rfl, by decide⟩

/-- With an item that reads back, and others behind it that do, an array reads back to its end. -/
theorem items_print (fuel : Nat) (rest : List Char) {item : Json} (more : List Json)
    (first : item.Reads) (others : ∀ next ∈ more, next.Reads)
    (enough : 2 * (item.print.length + (Json.printItems more).length) ≤ fuel) :
    items fuel (item.print ++ (Json.printItems more ++ rest)) =
      (item.draft :: Json.draftItems more, rest) := by
  induction more generalizing item fuel with
  | nil =>
    cases fuel with
    | zero => simp [Json.printItems] at enough
    | succ fuel =>
      simp only [Json.printItems, List.length_singleton] at enough
      exact items_bracket (first _ _ (by omega) (stops_cons (Or.inr (Or.inl rfl)) rest))
  | cons next more inductionHypothesis =>
    obtain ⟨second, behind⟩ := List.forall_mem_cons.mp others
    cases fuel with
    | zero => simp [Json.printItems] at enough
    | succ fuel =>
      simp only [Json.printItems, List.length_append, List.length_cons] at enough
      have read := inductionHypothesis fuel second behind (by omega)
      have text : Json.printItems (next :: more) ++ rest =
          ',' :: (next.print ++ (Json.printItems more ++ rest)) := by simp [Json.printItems]
      rw [text, items_comma (first _ _ (by omega) (stops_cons (Or.inl rfl) _)), read]
      rfl

/-- With a member whose value reads back, and others behind it that do, an object reads back to its
end. -/
theorem members_print (fuel : Nat) (rest : List Char) (key : String) {item : Json}
    (more : List (String × Json)) (first : item.Reads) (others : ∀ next ∈ more, next.2.Reads)
    (enough : 2 * (item.print.length + (Json.printMembers more).length) ≤ fuel) :
    members fuel (Json.quote key ++ ':' :: (item.print ++ (Json.printMembers more ++ rest))) =
      ((some key, item.draft) :: Json.draftMembers more, rest) := by
  induction more generalizing key item fuel with
  | nil =>
    cases fuel with
    | zero => simp [Json.printMembers] at enough
    | succ fuel =>
      simp only [Json.printMembers, List.length_singleton] at enough
      exact members_brace (first _ _ (by omega) (stops_cons (Or.inr (Or.inr rfl)) rest))
  | cons next more inductionHypothesis =>
    obtain ⟨second, behind⟩ := List.forall_mem_cons.mp others
    cases fuel with
    | zero => simp [Json.printMembers] at enough
    | succ fuel =>
      simp only [Json.printMembers, List.length_append, List.length_cons] at enough
      have read := inductionHypothesis fuel next.1 second behind (by omega)
      have text : Json.printMembers (next :: more) ++ rest = ',' ::
          (Json.quote next.1 ++ ':' :: (next.2.print ++ (Json.printMembers more ++ rest))) := by
        simp [Json.printMembers]
      rw [text, members_comma (first _ _ (by omega) (stops_cons (Or.inl rfl) _))]
      change ((some key, item.draft) :: (members fuel (Json.quote next.1 ++ ':' :: _)).1, _) = _
      rw [read]
      rfl

end Draft

namespace Json

open Draft

/-- A document that is read with any fuel but none reads back, since its text is not empty and so
there is always fuel. -/
theorem Reads.of_step {document : Json}
    (read : ∀ (fuel : Nat) (rest : List Char), 2 * document.print.length ≤ fuel + 1 → Stops rest →
      value (fuel + 1) (document.print ++ rest) = (document.draft, rest)) : document.Reads := by
  intro fuel rest enough stops
  cases fuel with
  | zero =>
    obtain ⟨c, more, written, -⟩ := exists_print_cons document
    simp [written] at enough
  | succ fuel => exact read fuel rest enough stops

/-- A number reads back from its text. -/
theorem reads_number (literal : Numeral) : (Json.number literal).Reads := by
  refine .of_step ?_
  intro fuel rest _ stops
  obtain ⟨c, more, written, first⟩ := print_eq_cons literal
  have read := numeral?_print literal stops
  rw [written, List.cons_append] at read
  rw [print, written, List.cons_append, value_number first, read]
  rfl

/-- A string reads back from its text. -/
theorem reads_string (text : String) : (Json.string text).Reads :=
  .of_step fun _ _ _ _ => value_quote text

/-- An array reads back from its text if its items do. -/
theorem reads_array {items : List Json} (all : ∀ item ∈ items, item.Reads) :
    (Json.array items).Reads := by
  refine .of_step ?_
  intro fuel rest enough _
  cases items with
  | nil => rfl
  | cons item more =>
    obtain ⟨first, others⟩ := List.forall_mem_cons.mp all
    simp only [print, List.length_cons, List.length_append] at enough
    have read := items_print fuel rest more first others (by omega)
    obtain ⟨c, behind, written, visible, inside⟩ := exists_print_cons item
    have text : (Json.array (item :: more)).print ++ rest =
        '[' :: (item.print ++ (printItems more ++ rest)) := by simp [print]
    rw [written, List.cons_append] at text read
    rw [text, value_items visible inside, read]
    rfl

/-- An object reads back from its text if the values of its members do. -/
theorem reads_object {members : List (String × Json)} (all : ∀ member ∈ members, member.2.Reads) :
    (Json.object members).Reads := by
  refine .of_step ?_
  intro fuel rest enough _
  cases members with
  | nil => rfl
  | cons member more =>
    obtain ⟨first, others⟩ := List.forall_mem_cons.mp all
    simp only [print, List.length_cons, List.length_append] at enough
    have read := members_print fuel rest member.1 more first others (by omega)
    have text : (Json.object (member :: more)).print ++ rest = '\x7b' ::
        (quote member.1 ++ ':' :: (member.2.print ++ (printMembers more ++ rest))) := by
      simp [print]
    rw [text, value_members, read]
    rfl

mutual

/-- Every document reads back from its text. -/
theorem reads : (document : Json) → document.Reads
  | .null => .of_step fun _ _ _ _ => rfl
  | .bool true => .of_step fun _ _ _ _ => rfl
  | .bool false => .of_step fun _ _ _ _ => rfl
  | .number literal => reads_number literal
  | .string text => reads_string text
  | .array items => reads_array (readsItems items)
  | .object members => reads_object (readsMembers members)

/-- Every item of an array reads back from its text. -/
theorem readsItems : (items : List Json) → ∀ item ∈ items, item.Reads
  | [] => fun _ member => absurd member List.not_mem_nil
  | item :: rest => List.forall_mem_cons.mpr ⟨reads item, readsItems rest⟩

/-- The value of every member of an object reads back from its text. -/
theorem readsMembers : (members : List (String × Json)) → ∀ member ∈ members, member.2.Reads
  | [] => fun _ member => absurd member List.not_mem_nil
  | (_, value) :: rest => List.forall_mem_cons.mpr ⟨reads value, readsMembers rest⟩

end

/-- The text of a document is read as the document, and nothing is left. -/
theorem scan_render (document : Json) :
    Draft.scan document.render.toList = (document.draft, []) := by
  have read := document.reads (2 * document.print.length + 2) [] (by omega)
    (fun c first => nomatch first)
  rw [List.append_nil] at read
  unfold Draft.scan render
  rw [String.toList_ofList]
  exact read

end Json

end RoomTimeline
