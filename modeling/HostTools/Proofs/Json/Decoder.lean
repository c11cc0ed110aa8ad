import Mathlib
import HostTools.Proofs.Json.Literal

set_option autoImplicit false

namespace HostTools.Json

def digitRun (input : Bytes) : List Char × Bytes :=
  ((input.takeWhile Bytes.isDigit).map Bytes.toChar, input.dropWhile Bytes.isDigit)

def whole? : Bytes → Option (List Char × Bytes)
  | [] => none
  | byte :: rest =>
      if byte = 0x30 then some (['0'], rest)
      else if Bytes.isDigit byte then some (digitRun (byte :: rest))
      else none

def fraction? : Bytes → Option (List Char × Bytes)
  | [] => some ([], [])
  | byte :: rest =>
      if byte = 0x2e then
        if (digitRun rest).1 = [] then none else some (digitRun rest)
      else some ([], byte :: rest)

def sign : Bytes → Int × Bytes
  | [] => (1, [])
  | byte :: rest => if byte = 0x2b then (1, rest) else if byte = 0x2d then (-1, rest) else (1, byte :: rest)

def exponent? : Bytes → Option (Int × Bytes)
  | [] => some (0, [])
  | byte :: rest =>
      if byte = 0x65 ∨ byte = 0x45 then
        let (direction, after) := sign rest
        let (digits, final) := digitRun after
        if digits = [] then none else some (direction * Nat.ofDigitChars 10 digits 0, final)
      else some (0, byte :: rest)

def unsigned? (input : Bytes) : Option (ℚ × Bytes) := do
  let (whole, input) ← whole? input
  let (fraction, input) ← fraction? input
  let (exponent, rest) ← exponent? input
  some (Nat.ofDigitChars 10 (whole ++ fraction) 0 * 10 ^ (exponent - fraction.length), rest)

def number? : Bytes → Option (ℚ × Bytes)
  | [] => none
  | byte :: rest =>
      if byte = 0x2d then (unsigned? rest).map fun (value, after) => (-value, after) else unsigned? (byte :: rest)

-- A string, after its opening quote. Octets that are no UTF-8 are no string.
def quoted? (input : Bytes) : Option (String × Bytes) :=
  match literal input with
  | .ok (octets, rest) => (Utf8.strict? octets).map fun value => (value, rest)
  | .error _ => none

-- One or more items between commas, and the octet that closes them. The count bounds the items and is never
-- reached, since each item takes an octet.
def several {α : Type} (read : Bytes → Option (α × Bytes)) (close : UInt8) : Nat → Bytes → Option (List α × Bytes)
  | 0, _ => none
  | count + 1, input =>
      match read (skipBlanks input) with
      | none => none
      | some (item, after) =>
          match skipBlanks after with
          | [] => none
          | byte :: rest =>
              if byte = close then some ([item], rest)
              else if byte = 0x2c then (several read close count rest).map fun (items, final) => (item :: items, final)
              else none

def enclosed {α : Type} (read : Bytes → Option (α × Bytes)) (close : UInt8) (input : Bytes) : Option (List α × Bytes) :=
  match skipBlanks input with
  | [] => none
  | byte :: rest => if byte = close then some ([], rest) else several read close input.length input

def member? (read : Bytes → Option (Value × Bytes)) : Bytes → Option ((String × Value) × Bytes)
  | [] => none
  | byte :: rest =>
      if byte = 0x22 then
        match quoted? rest with
        | none => none
        | some (key, after) =>
            match skipBlanks after with
            | [] => none
            | mark :: rest =>
                if mark = 0x3a then (read (skipBlanks rest)).map fun (value, final) => ((key, value), final) else none
      else none

-- A value with no blanks in front. The depth bounds how far values are nested.
def value? : Nat → Bytes → Option (Value × Bytes)
  | 0, _ => none
  | _ + 1, [] => none
  | depth + 1, byte :: rest =>
      if byte = 0x6e then (restOfWord [0x75, 0x6c, 0x6c] rest).toOption.map fun final => (.null, final)
      else if byte = 0x74 then (restOfWord [0x72, 0x75, 0x65] rest).toOption.map fun final => (.bool true, final)
      else if byte = 0x66 then (restOfWord [0x61, 0x6c, 0x73, 0x65] rest).toOption.map fun final => (.bool false, final)
      else if byte = 0x22 then (quoted? rest).map fun (value, final) => (.text value, final)
      else if byte = 0x5b then (enclosed (value? depth) 0x5d rest).map fun (items, final) => (.list items, final)
      else if byte = 0x7b then
        (enclosed (member? (value? depth)) 0x7d rest).map fun (members, final) => (.object members, final)
      else (number? (byte :: rest)).map fun (value, final) => (.number value, final)

-- Values are nested less deeply than their text is long, so the depth stops no text.
def decode (input : Bytes) : Option Value :=
  match value? (input.length + 1) (skipBlanks input) with
  | some (value, rest) => if skipBlanks rest = [] then some value else none
  | none => none

-- What follows a number and is no part of it.
def Ends (rest : Bytes) : Prop :=
  ∀ byte, rest.head? = some byte → Bytes.isDigit byte = false ∧ byte ≠ 0x2e ∧ byte ≠ 0x65 ∧ byte ≠ 0x45

def Solid (rest : Bytes) : Prop := ∀ byte, rest.head? = some byte → isBlank byte = false

theorem solid_cons (byte : UInt8) (rest : Bytes) (visible : isBlank byte = false) : Solid (byte :: rest) := by
  intro first found
  cases found
  exact visible

theorem length_octets (text : List Char) : text.length ≤ (Bytes.ofChars text).length := by
  induction text with
  | nil => exact Nat.le_refl 0
  | cons c text ih =>
      have octet := String.length_utf8EncodeChar c
      have positive := Char.utf8Size_pos c
      rw [Bytes.of_chars_cons, List.length_append, List.length_cons]
      omega

theorem blank_octets (gap : List Char) (blank : Blank gap) (byte : UInt8) (member : byte ∈ Bytes.ofChars gap) :
    isBlank byte = true := by
  obtain ⟨c, inside, encoded⟩ := List.mem_flatMap.mp member
  rcases blank c inside with rfl | rfl | rfl | rfl <;> (rw [List.mem_singleton.mp encoded]; rfl)

theorem skip_blanks_gap (gap : List Char) (blank : Blank gap) (rest : Bytes) (solid : Solid rest) :
    skipBlanks (Bytes.ofChars gap ++ rest) = rest := by
  rw [skipBlanks, List.dropWhile_append_of_pos (blank_octets gap blank)]
  cases rest with
  | nil => rfl
  | cons byte rest => rw [List.dropWhile_cons_of_neg (by simp [solid byte rfl])]

theorem ends_gap (gap : List Char) (blank : Blank gap) (rest : Bytes) (ends : Ends rest) :
    Ends (Bytes.ofChars gap ++ rest) := by
  cases octets : Bytes.ofChars gap with
  | nil => exact ends
  | cons byte later =>
      intro first found
      cases found
      have white := blank_octets gap blank byte (by simp [octets])
      simp only [isBlank, Bool.or_eq_true, decide_eq_true_eq] at white
      rcases white with ((rfl | rfl) | rfl) | rfl <;> decide

theorem digit_octet (c : Char) (digit : IsDigit c) :
    ∃ byte, String.utf8EncodeChar c = [byte] ∧ Bytes.isDigit byte = true ∧ Bytes.toChar byte = c := by
  have range : 48 ≤ c.toNat ∧ c.toNat ≤ 57 := digit
  refine ⟨UInt8.ofNat c.toNat, Utf8.encode_low c (by omega), ?_, ?_⟩
  · generalize c.toNat = n at range
    obtain ⟨low, high⟩ := range
    interval_cases n <;> rfl
  · rw [Bytes.toChar, Utf8.byte_of_low c (by omega), Char.ofNat_toNat]

theorem digit_apart (byte other : UInt8) (digit : Bytes.isDigit byte = true) (no : Bytes.isDigit other = false) :
    byte ≠ other := by
  rintro rfl
  rw [digit] at no
  cases no

theorem digit_solid (byte : UInt8) (digit : Bytes.isDigit byte = true) : isBlank byte = false := by
  simp only [isBlank, Bool.or_eq_false_iff, decide_eq_false_iff_not]
  exact ⟨⟨⟨digit_apart byte 0x20 digit (by decide), digit_apart byte 0x09 digit (by decide)⟩,
    digit_apart byte 0x0a digit (by decide)⟩, digit_apart byte 0x0d digit (by decide)⟩

theorem digit_run (digits : List Char) (decimal : ∀ c ∈ digits, IsDigit c) (rest : Bytes)
    (stop : ∀ byte, rest.head? = some byte → Bytes.isDigit byte = false) :
    digitRun (Bytes.ofChars digits ++ rest) = (digits, rest) := by
  induction digits with
  | nil =>
      cases rest with
      | nil => rfl
      | cons byte rest => simp [digitRun, Bytes.ofChars, stop byte rfl]
  | cons c digits ih =>
      obtain ⟨byte, encoded, digit, same⟩ := digit_octet c (decimal c List.mem_cons_self)
      have later := ih fun d member => decimal d (List.mem_cons_of_mem c member)
      simp only [digitRun, Prod.mk.injEq] at later ⊢
      simp [Bytes.of_chars_cons, encoded, digit, same, later]

theorem whole_read (whole : List Char) (front : Whole whole) (rest : Bytes)
    (stop : ∀ byte, rest.head? = some byte → Bytes.isDigit byte = false) :
    whole? (Bytes.ofChars whole ++ rest) = some (whole, rest) := by
  cases front with
  | zero => rfl
  | @other first more lead digits =>
      have range : 49 ≤ first.toNat ∧ first.toNat ≤ 57 := lead
      have decimal : ∀ c ∈ first :: more, IsDigit c := by
        intro c member
        rcases List.mem_cons.mp member with rfl | later
        · exact (⟨by omega, range.2⟩ : 48 ≤ c.toNat ∧ c.toNat ≤ 57)
        · exact digits c later
      obtain ⟨byte, encoded, digit, same⟩ := digit_octet first (decimal first List.mem_cons_self)
      have run := digit_run (first :: more) decimal rest stop
      -- The zero is read alone, so it must not be in front here.
      have nonzero : byte ≠ 0x30 := by
        rintro rfl
        rw [← same] at range
        exact absurd range.1 (by decide)
      rw [Bytes.of_chars_cons, encoded] at run ⊢
      simp only [List.cons_append, List.nil_append] at run ⊢
      rw [whole?, if_neg nonzero, if_pos digit, run]

theorem fraction_read (fraction point : List Char) (back : Fraction fraction point) (rest : Bytes)
    (stop : ∀ byte, rest.head? = some byte → Bytes.isDigit byte = false ∧ byte ≠ 0x2e) :
    fraction? (Bytes.ofChars point ++ rest) = some (fraction, rest) := by
  cases back with
  | none =>
      cases rest with
      | nil => rfl
      | cons byte rest => exact if_neg (stop byte rfl).2
  | some present decimal =>
      have run := digit_run fraction decimal rest fun byte first => (stop byte first).1
      change (if (digitRun (Bytes.ofChars fraction ++ rest)).1 = [] then none
        else some (digitRun (Bytes.ofChars fraction ++ rest))) = _
      rw [run, if_neg present]

theorem sign_read (direction : Int) (mark digits : List Char) (signed : Sign direction mark) (present : digits ≠ [])
    (decimal : ∀ c ∈ digits, IsDigit c) (rest : Bytes) :
    sign (Bytes.ofChars mark ++ (Bytes.ofChars digits ++ rest)) = (direction, Bytes.ofChars digits ++ rest) := by
  cases signed with
  | none =>
      cases digits with
      | nil => exact absurd rfl present
      | cons c digits =>
          obtain ⟨byte, encoded, digit, -⟩ := digit_octet c (decimal c List.mem_cons_self)
          have noPlus := digit_apart byte 0x2b digit (by decide)
          have noMinus := digit_apart byte 0x2d digit (by decide)
          rw [Bytes.of_chars_cons, encoded]
          exact (if_neg noPlus).trans (if_neg noMinus)
  | plus => rfl
  | minus => rfl

theorem exponent_read (exponent : Int) (text : List Char) (scale : Exponent exponent text) (rest : Bytes)
    (ends : Ends rest) : exponent? (Bytes.ofChars text ++ rest) = some (exponent, rest) := by
  cases scale with
  | none =>
      cases rest with
      | nil => rfl
      | cons byte rest =>
          obtain ⟨-, -, noSmall, noGreat⟩ := ends byte rfl
          exact if_neg (by simp [noSmall, noGreat])
  | @some letter direction mark digits known signed present decimal =>
      have run := digit_run digits decimal rest fun byte first => (ends byte first).1
      have direct := sign_read direction mark digits signed present decimal rest
      obtain ⟨byte, encoded, marks⟩ : ∃ byte, String.utf8EncodeChar letter = [byte] ∧ (byte = 0x65 ∨ byte = 0x45) := by
        rcases known with rfl | rfl
        · exact ⟨0x65, rfl, .inl rfl⟩
        · exact ⟨0x45, rfl, .inr rfl⟩
      rw [List.cons_append, Bytes.of_chars_cons, encoded, Bytes.of_chars_append, List.append_assoc, List.append_assoc]
      simp only [List.cons_append, List.nil_append, exponent?, if_pos marks, direct, run, if_neg present]

-- A number has no end of its own: its parts stop at the first octet that starts no further part.
theorem mark_stops (exponent : Int) (text : List Char) (scale : Exponent exponent text) (rest : Bytes) (ends : Ends rest)
    (byte : UInt8) (first : (Bytes.ofChars text ++ rest).head? = some byte) :
    Bytes.isDigit byte = false ∧ byte ≠ 0x2e := by
  cases scale with
  | none => exact ⟨(ends byte first).1, (ends byte first).2.1⟩
  | some known signed present decimal => rcases known with rfl | rfl <;> cases first <;> decide

theorem point_stops (fraction text : List Char) (back : Fraction fraction text) (rest : Bytes)
    (stop : ∀ byte, rest.head? = some byte → Bytes.isDigit byte = false) (byte : UInt8)
    (first : (Bytes.ofChars text ++ rest).head? = some byte) : Bytes.isDigit byte = false := by
  cases back with
  | none => exact stop byte first
  | some present decimal =>
      cases first
      rfl

theorem unsigned_read (value : ℚ) (text : List Char) (unsigned : Unsigned value text) (rest : Bytes) (ends : Ends rest) :
    unsigned? (Bytes.ofChars text ++ rest) = some (value, rest) := by
  cases unsigned with
  | @mk whole fraction point mark exponent front back scale =>
      have stop := mark_stops exponent mark scale rest ends
      have scaled := exponent_read exponent mark scale rest ends
      have pointed := fraction_read fraction point back _ stop
      have read := whole_read whole front _ (point_stops fraction point back _ fun byte first => (stop byte first).1)
      simp only [Bytes.of_chars_append, List.append_assoc, unsigned?, read, pointed, scaled, Option.bind_eq_bind,
        Option.bind_some]

theorem unsigned_front (value : ℚ) (text : List Char) (unsigned : Unsigned value text) :
    ∃ byte rest, Bytes.ofChars text = byte :: rest ∧ Bytes.isDigit byte = true := by
  cases unsigned with
  | @mk whole fraction point mark exponent front back scale =>
      obtain ⟨c, more, rfl, digit⟩ : ∃ c more, whole = c :: more ∧ IsDigit c := by
        cases front with
        | zero => exact ⟨'0', [], rfl, by decide, by decide⟩
        | @other first more lead digits =>
            have range : 49 ≤ first.toNat ∧ first.toNat ≤ 57 := lead
            exact ⟨first, more, rfl, (⟨by omega, range.2⟩ : 48 ≤ first.toNat ∧ first.toNat ≤ 57)⟩
      obtain ⟨byte, encoded, known, -⟩ := digit_octet c digit
      exact ⟨byte, Bytes.ofChars (more ++ point ++ mark), by simp [Bytes.of_chars_cons, encoded], known⟩

theorem number_read (value : ℚ) (text : List Char) (numeral : Numeral value text) (rest : Bytes) (ends : Ends rest) :
    number? (Bytes.ofChars text ++ rest) = some (value, rest) := by
  cases numeral with
  | positive unsigned =>
      have read := unsigned_read value text unsigned rest ends
      obtain ⟨byte, more, octets, digit⟩ := unsigned_front value text unsigned
      have noMinus := digit_apart byte 0x2d digit (by decide)
      rw [octets, List.cons_append] at read ⊢
      rw [number?, if_neg noMinus, read]
  | @negative value text unsigned =>
      change (unsigned? (Bytes.ofChars text ++ rest)).map _ = _
      rw [unsigned_read value text unsigned rest ends, Option.map_some]

theorem numeral_front (value : ℚ) (text : List Char) (numeral : Numeral value text) :
    ∃ byte rest, Bytes.ofChars text = byte :: rest ∧ (byte = 0x2d ∨ Bytes.isDigit byte = true) := by
  cases numeral with
  | positive unsigned =>
      obtain ⟨byte, rest, octets, digit⟩ := unsigned_front value text unsigned
      exact ⟨byte, rest, octets, .inr digit⟩
  | negative unsigned => exact ⟨0x2d, _, rfl, .inl rfl⟩

theorem quoted_read (value : String) (text : List Char) (quotes : Quotes value text) (rest : Bytes) :
    ∃ more, Bytes.ofChars text ++ rest = 0x22 :: more ∧ quoted? more = some (value, rest) := by
  obtain ⟨body, spelled, rfl⟩ := quotes
  refine ⟨Bytes.ofChars body ++ 0x22 :: rest, ?_, ?_⟩
  · rw [Bytes.of_chars_append, List.append_assoc]
    rfl
  · simp only [quoted?, literal_body _ body spelled rest, Utf8.strict?, Utf8.strict_of_chars, Option.map_some,
      String.ofList_toList]

theorem spells_front (value : Value) (text : List Char) (spells : Spells value text) :
    ∃ byte rest, Bytes.ofChars text = byte :: rest ∧ isBlank byte = false ∧ byte ≠ 0x5d := by
  cases spells with
  | null => exact ⟨0x6e, _, rfl, by decide, by decide⟩
  | true => exact ⟨0x74, _, rfl, by decide, by decide⟩
  | false => exact ⟨0x66, _, rfl, by decide, by decide⟩
  | number numeral =>
      obtain ⟨byte, rest, octets, rfl | digit⟩ := numeral_front _ text numeral
      · exact ⟨0x2d, rest, octets, by decide, by decide⟩
      · exact ⟨byte, rest, octets, digit_solid byte digit, digit_apart byte 0x5d digit (by decide)⟩
  | text quotes =>
      obtain ⟨body, -, rfl⟩ := quotes
      exact ⟨0x22, _, rfl, by decide, by decide⟩
  | emptyList blank => exact ⟨0x5b, _, rfl, by decide, by decide⟩
  | list several => exact ⟨0x5b, _, rfl, by decide, by decide⟩
  | emptyObject blank => exact ⟨0x7b, _, rfl, by decide, by decide⟩
  | object several => exact ⟨0x7b, _, rfl, by decide, by decide⟩

def Reads (read : Bytes → Option (Value × Bytes)) (bound : Nat) : Prop :=
  ∀ value text, Spells value text → text.length < bound → ∀ rest, Ends rest →
    read (Bytes.ofChars text ++ rest) = some (value, rest)

theorem several_last {α : Type} (read : Bytes → Option (α × Bytes)) (close : UInt8) (count : Nat)
    (input after rest : Bytes) (item : α) (found : read (skipBlanks input) = some (item, after))
    (closed : skipBlanks after = close :: rest) : several read close (count + 1) input = some ([item], rest) := by
  simp only [several, found, closed, if_true]

theorem several_more {α : Type} (read : Bytes → Option (α × Bytes)) (close : UInt8) (count : Nat)
    (input after rest final : Bytes) (item : α) (items : List α) (found : read (skipBlanks input) = some (item, after))
    (comma : skipBlanks after = 0x2c :: rest) (other : 0x2c ≠ close)
    (later : several read close count rest = some (items, final)) :
    several read close (count + 1) input = some (item :: items, final) := by
  simp only [several, found, comma, if_neg other, if_true, later, Option.map_some]

-- The octets after a value inside a list or an object.
theorem separator_ends (mark : UInt8) (known : mark = 0x2c ∨ mark = 0x5d ∨ mark = 0x7d) (rest : Bytes) :
    Ends (mark :: rest) ∧ Solid (mark :: rest) := by
  constructor
  · intro byte first
    cases first
    rcases known with rfl | rfl | rfl <;> decide
  · rcases known with rfl | rfl | rfl <;> exact solid_cons _ rest rfl

theorem spells_solid (value : Value) (text : List Char) (spells : Spells value text) (rest : Bytes) :
    Solid (Bytes.ofChars text ++ rest) := by
  obtain ⟨byte, more, octets, visible, -⟩ := spells_front value text spells
  rw [octets]
  exact solid_cons byte (more ++ rest) visible

theorem item_read (read : Bytes → Option (Value × Bytes)) (bound : Nat) (reads : Reads read bound) (value : Value)
    (before text : List Char) (front : Blank before) (item : Spells value text) (small : text.length < bound)
    (rest : Bytes) (ends : Ends rest) :
    read (skipBlanks (Bytes.ofChars before ++ (Bytes.ofChars text ++ rest))) = some (value, rest) := by
  rw [skip_blanks_gap before front _ (spells_solid value text item rest)]
  exact reads value text item small rest ends

theorem member_read (read : Bytes → Option (Value × Bytes)) (bound : Nat) (reads : Reads read bound) (key : String)
    (value : Value) (before name between gap text : List Char) (front : Blank before) (quotes : Quotes key name)
    (left : Blank between) (right : Blank gap) (item : Spells value text) (small : text.length < bound) (rest : Bytes)
    (ends : Ends rest) :
    member? read (skipBlanks (Bytes.ofChars before ++ (Bytes.ofChars name ++
      (Bytes.ofChars between ++ 0x3a :: (Bytes.ofChars gap ++ (Bytes.ofChars text ++ rest)))))) =
      some ((key, value), rest) := by
  obtain ⟨more, opened, quoted⟩ := quoted_read key name quotes
    (Bytes.ofChars between ++ 0x3a :: (Bytes.ofChars gap ++ (Bytes.ofChars text ++ rest)))
  rw [opened, skip_blanks_gap before front _ (solid_cons 0x22 more rfl), member?, if_pos rfl]
  simp only [quoted, skip_blanks_gap between left _ (solid_cons 0x3a _ rfl), if_true,
    item_read read bound reads value gap text right item small rest ends, Option.map_some]

theorem items_read (read : Bytes → Option (Value × Bytes)) (bound : Nat) (reads : Reads read bound) (count : Nat)
    (items : List Value) (text : List Char) (derived : Items items text) (short : text.length < count)
    (small : text.length < bound) (rest : Bytes) :
    several read 0x5d count (Bytes.ofChars text ++ 0x5d :: rest) = some (items, rest) := by
  induction count generalizing items text with
  | zero => exact absurd short (Nat.not_lt_zero _)
  | succ count ih =>
      cases derived with
      | @last value before text after front item back =>
          obtain ⟨ends, solid⟩ := separator_ends 0x5d (by decide) rest
          simp only [List.length_append] at short small
          have found := item_read read bound reads value before text front item (by omega) _ (ends_gap after back _ ends)
          simp only [Bytes.of_chars_append, List.append_assoc]
          exact several_last read 0x5d count _ _ rest value found (skip_blanks_gap after back _ solid)
      | @more value items before text after later front item back others =>
          obtain ⟨ends, solid⟩ := separator_ends 0x2c (by decide) (Bytes.ofChars later ++ 0x5d :: rest)
          simp only [List.length_append, List.length_cons] at short small
          have found := item_read read bound reads value before text front item (by omega) _ (ends_gap after back _ ends)
          simp only [Bytes.of_chars_append, List.append_assoc]
          exact several_more read 0x5d count _ _ _ rest value items found (skip_blanks_gap after back _ solid) (by decide)
            (ih items later others (by omega) (by omega))

theorem members_read (read : Bytes → Option (Value × Bytes)) (bound : Nat) (reads : Reads read bound) (count : Nat)
    (members : List (String × Value)) (text : List Char) (derived : Members members text)
    (short : text.length < count) (small : text.length < bound) (rest : Bytes) :
    several (member? read) 0x7d count (Bytes.ofChars text ++ 0x7d :: rest) = some (members, rest) := by
  induction count generalizing members text with
  | zero => exact absurd short (Nat.not_lt_zero _)
  | succ count ih =>
      cases derived with
      | @last key value before name between gap text after front quotes left right item back =>
          obtain ⟨ends, solid⟩ := separator_ends 0x7d (by decide) rest
          simp only [List.length_append, List.length_cons] at short small
          have found := member_read read bound reads key value before name between gap text front quotes left right item
            (by omega) _ (ends_gap after back _ ends)
          simp only [Bytes.of_chars_append, List.append_assoc]
          exact several_last (member? read) 0x7d count _ _ rest (key, value) found (skip_blanks_gap after back _ solid)
      | @more key value members before name between gap text after later front quotes left right item back others =>
          obtain ⟨ends, solid⟩ := separator_ends 0x2c (by decide) (Bytes.ofChars later ++ 0x7d :: rest)
          simp only [List.length_append, List.length_cons] at short small
          have found := member_read read bound reads key value before name between gap text front quotes left right item
            (by omega) _ (ends_gap after back _ ends)
          simp only [Bytes.of_chars_append, List.append_assoc]
          exact several_more (member? read) 0x7d count _ _ _ rest (key, value) members found
            (skip_blanks_gap after back _ solid) (by decide) (ih members later others (by omega) (by omega))

theorem enclosed_empty {α : Type} (read : Bytes → Option (α × Bytes)) (close : UInt8) (gap : List Char) (blank : Blank gap)
    (rest : Bytes) (solid : Solid (close :: rest)) :
    enclosed read close (Bytes.ofChars gap ++ close :: rest) = some ([], rest) := by
  rw [enclosed, skip_blanks_gap gap blank _ solid]
  exact if_pos rfl

-- Before the first item there is no closing octet, so the items are read.
theorem enclosed_several {α : Type} (read : Bytes → Option (α × Bytes)) (close byte : UInt8) (input rest : Bytes)
    (first : skipBlanks input = byte :: rest) (other : byte ≠ close) :
    enclosed read close input = several read close input.length input := by
  rw [enclosed, first]
  exact if_neg other

theorem items_first (items : List Value) (text : List Char) (derived : Items items text) :
    ∃ value before inner tail, Blank before ∧ Spells value inner ∧ text = before ++ (inner ++ tail) := by
  cases derived with
  | last front item back => exact ⟨_, _, _, _, front, item, List.append_assoc _ _ _⟩
  | more front item back others => exact ⟨_, _, _, _, front, item, by simp only [List.append_assoc]; rfl⟩

theorem members_first (members : List (String × Value)) (text : List Char) (derived : Members members text) :
    ∃ key before name tail, Blank before ∧ Quotes key name ∧ text = before ++ (name ++ tail) := by
  cases derived with
  | last front quotes left right item back => exact ⟨_, _, _, _, front, quotes, by simp only [List.append_assoc]; rfl⟩
  | more front quotes left right item back others =>
      exact ⟨_, _, _, _, front, quotes, by simp only [List.append_assoc]; rfl⟩

theorem list_read (read : Bytes → Option (Value × Bytes)) (bound : Nat) (reads : Reads read bound) (items : List Value)
    (text : List Char) (derived : Items items text) (small : text.length < bound) (rest : Bytes) :
    enclosed read 0x5d (Bytes.ofChars text ++ 0x5d :: rest) = some (items, rest) := by
  obtain ⟨value, before, inner, tail, front, item, shape⟩ := items_first items text derived
  obtain ⟨byte, more, octets, -, other⟩ := spells_front value inner item
  have first : skipBlanks (Bytes.ofChars text ++ 0x5d :: rest) =
      byte :: (more ++ (Bytes.ofChars tail ++ 0x5d :: rest)) := by
    simp only [shape, Bytes.of_chars_append, List.append_assoc]
    rw [skip_blanks_gap before front _ (spells_solid value inner item _), octets, List.cons_append]
  -- The bound on the items is the number of octets, and each item has some.
  have enough : text.length < (Bytes.ofChars text ++ 0x5d :: rest).length := by
    have octets := length_octets text
    simp only [List.length_append, List.length_cons]
    omega
  rw [enclosed_several read 0x5d byte _ _ first other]
  exact items_read read bound reads _ items text derived enough small rest

theorem object_read (read : Bytes → Option (Value × Bytes)) (bound : Nat) (reads : Reads read bound)
    (members : List (String × Value)) (text : List Char) (derived : Members members text) (small : text.length < bound)
    (rest : Bytes) : enclosed (member? read) 0x7d (Bytes.ofChars text ++ 0x7d :: rest) = some (members, rest) := by
  obtain ⟨key, before, name, tail, front, quotes, shape⟩ := members_first members text derived
  obtain ⟨more, opened, -⟩ := quoted_read key name quotes (Bytes.ofChars tail ++ 0x7d :: rest)
  have first : skipBlanks (Bytes.ofChars text ++ 0x7d :: rest) = 0x22 :: more := by
    simp only [shape, Bytes.of_chars_append, List.append_assoc]
    rw [opened, skip_blanks_gap before front _ (solid_cons 0x22 more rfl)]
  have enough : text.length < (Bytes.ofChars text ++ 0x7d :: rest).length := by
    have octets := length_octets text
    simp only [List.length_append, List.length_cons]
    omega
  rw [enclosed_several (member? read) 0x7d 0x22 _ more first (by decide)]
  exact members_read read bound reads _ members text derived enough small rest

theorem value_number (depth : Nat) (value : ℚ) (text : List Char) (numeral : Numeral value text) (rest : Bytes)
    (ends : Ends rest) : value? (depth + 1) (Bytes.ofChars text ++ rest) = some (.number value, rest) := by
  have read := number_read value text numeral rest ends
  obtain ⟨byte, more, octets, front⟩ := numeral_front value text numeral
  have apart : ∀ other, Bytes.isDigit other = false → other ≠ 0x2d → byte ≠ other := by
    intro other no noMinus
    rcases front with rfl | digit
    · exact noMinus.symm
    · exact digit_apart byte other digit no
  rw [octets, List.cons_append] at read ⊢
  rw [value?, if_neg (apart _ (by decide) (by decide)), if_neg (apart _ (by decide) (by decide)),
    if_neg (apart _ (by decide) (by decide)), if_neg (apart _ (by decide) (by decide)),
    if_neg (apart _ (by decide) (by decide)), if_neg (apart _ (by decide) (by decide)), read, Option.map_some]

theorem value_list (depth : Nat) (inner : List Char) (rest : Bytes) :
    value? (depth + 1) (Bytes.ofChars ('[' :: inner ++ [']']) ++ rest) =
      (enclosed (value? depth) 0x5d (Bytes.ofChars inner ++ 0x5d :: rest)).map fun (items, final) =>
        (.list items, final) := by
  rw [Bytes.of_chars_append, List.append_assoc]
  rfl

theorem value_object (depth : Nat) (inner : List Char) (rest : Bytes) :
    value? (depth + 1) (Bytes.ofChars ('\x7b' :: inner ++ ['\x7d']) ++ rest) =
      (enclosed (member? (value? depth)) 0x7d (Bytes.ofChars inner ++ 0x7d :: rest)).map fun (members, final) =>
        (.object members, final) := by
  rw [Bytes.of_chars_append, List.append_assoc]
  rfl

-- Induction on the depth: what stands inside brackets is shorter than the text with them.
theorem value_read (depth : Nat) : Reads (value? depth) depth := by
  induction depth with
  | zero =>
      intro value text spells small
      exact absurd small (Nat.not_lt_zero _)
  | succ depth ih =>
      intro value text spells small rest ends
      -- Both brackets go, and the depth falls by one only.
      have inside : ∀ inner : List Char, ∀ opening closing, text = opening :: inner ++ [closing] → inner.length < depth := by
        rintro inner opening closing rfl
        simp only [List.length_append, List.length_cons, List.length_nil] at small
        omega
      cases spells with
      | null => rfl
      | true => rfl
      | false => rfl
      | number numeral => exact value_number depth _ text numeral rest ends
      | text quotes =>
          obtain ⟨more, opened, read⟩ := quoted_read _ text quotes rest
          rw [opened]
          change (quoted? more).map _ = _
          rw [read, Option.map_some]
      | @emptyList gap blank =>
          rw [value_list, enclosed_empty _ 0x5d gap blank rest (solid_cons 0x5d rest rfl), Option.map_some]
      | @list items inner several =>
          rw [value_list, list_read _ depth ih items inner several (inside inner _ _ rfl) rest, Option.map_some]
      | @emptyObject gap blank =>
          rw [value_object, enclosed_empty _ 0x7d gap blank rest (solid_cons 0x7d rest rfl), Option.map_some]
      | @object members inner several =>
          rw [value_object, object_read _ depth ih members inner several (inside inner _ _ rfl) rest, Option.map_some]

theorem decode_text (value : Value) (text : List Char) (formed : IsText value text) :
    decode (Bytes.ofChars text) = some value := by
  obtain ⟨before, inner, after, front, spells, back, rfl⟩ := formed
  have ends := ends_gap after back [] fun byte none => by cases none
  have skipped := skip_blanks_gap after back [] fun byte none => by cases none
  rw [List.append_nil] at ends skipped
  have enough : inner.length < (Bytes.ofChars (before ++ inner ++ after)).length + 1 := by
    have octets := length_octets (before ++ inner ++ after)
    simp only [List.length_append] at octets
    omega
  have read := value_read _ value inner spells enough (Bytes.ofChars after) ends
  have start : skipBlanks (Bytes.ofChars (before ++ inner ++ after)) = Bytes.ofChars inner ++ Bytes.ofChars after := by
    rw [Bytes.of_chars_append, Bytes.of_chars_append, List.append_assoc]
    exact skip_blanks_gap before front _ (spells_solid value inner spells _)
  rw [decode, start, read]
  exact if_pos skipped

theorem text_unique (first second : Value) (text : List Char) (left : IsText first text) (right : IsText second text) :
    first = second := by
  have same := decode_text first text left
  rw [decode_text second text right] at same
  exact (Option.some.inj same).symm

end HostTools.Json
