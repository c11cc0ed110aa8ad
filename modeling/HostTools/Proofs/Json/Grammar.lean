import Mathlib
import HostTools.Json.Printer
import HostTools.Proofs.Address.Ipv4

set_option autoImplicit false

namespace HostTools.Json

-- Numbers are exact, and members keep their order.
inductive Value where
  | null
  | bool (value : Bool)
  | number (value : ℚ)
  | text (value : String)
  | list (items : List Value)
  | object (members : List (String × Value))

def Blank (text : List Char) : Prop := ∀ c ∈ text, c = ' ' ∨ c = '\t' ∨ c = '\n' ∨ c = '\r'

def IsDigit (c : Char) : Prop := '0' ≤ c ∧ c ≤ '9'

-- A zero in front stands alone.
inductive Whole : List Char → Prop
  | zero : Whole ['0']
  | other {first : Char} {rest : List Char} (lead : '1' ≤ first ∧ first ≤ '9') (digits : ∀ c ∈ rest, IsDigit c) :
      Whole (first :: rest)

inductive Fraction : List Char → List Char → Prop
  | none : Fraction [] []
  | some {digits : List Char} (present : digits ≠ []) (decimal : ∀ c ∈ digits, IsDigit c) :
      Fraction digits ('.' :: digits)

inductive Sign : Int → List Char → Prop
  | none : Sign 1 []
  | plus : Sign 1 ['+']
  | minus : Sign (-1) ['-']

inductive Exponent : Int → List Char → Prop
  | none : Exponent 0 []
  | some {letter : Char} {sign : Int} {mark digits : List Char} (known : letter = 'e' ∨ letter = 'E')
      (signed : Sign sign mark) (present : digits ≠ []) (decimal : ∀ c ∈ digits, IsDigit c) :
      Exponent (sign * Nat.ofDigitChars 10 digits 0) (letter :: mark ++ digits)

inductive Unsigned : ℚ → List Char → Prop
  | mk {whole fraction point mark : List Char} {exponent : Int} (front : Whole whole) (back : Fraction fraction point)
      (scale : Exponent exponent mark) :
      Unsigned (Nat.ofDigitChars 10 (whole ++ fraction) 0 * 10 ^ (exponent - fraction.length)) (whole ++ point ++ mark)

inductive Numeral : ℚ → List Char → Prop
  | positive {value : ℚ} {text : List Char} (unsigned : Unsigned value text) : Numeral value text
  | negative {value : ℚ} {text : List Char} (unsigned : Unsigned value text) : Numeral (-value) ('-' :: text)

def letters : List (Char × Char) :=
  [('"', '"'), ('\\', '\\'), ('/', '/'), ('b', '\x08'), ('f', '\x0c'), ('n', '\n'), ('r', '\r'), ('t', '\t')]

def HexUnit (number : Nat) (digits : List Char) : Prop := digits.length = 4 ∧ Digits.read? 16 digits = some number

-- The grammar is that of RFC 8259. An escape of half a surrogate pair stands for no character and is left out.
inductive Spelling : Char → List Char → Prop
  | plain {c : Char} (high : 0x20 ≤ c.toNat) (noQuote : c ≠ '"') (noBackslash : c ≠ '\\') : Spelling c [c]
  | letter {letter c : Char} (known : (letter, c) ∈ letters) : Spelling c ['\\', letter]
  | unit {number : Nat} {digits : List Char} (four : HexUnit number digits) (whole : number < 0xd800 ∨ 0xdfff < number) :
      Spelling (Char.ofNat number) ('\\' :: 'u' :: digits)
  | pair {high low : Nat} {front back : List Char} (first : HexUnit high front) (second : HexUnit low back)
      (leading : 0xd800 ≤ high ∧ high ≤ 0xdbff) (trailing : 0xdc00 ≤ low ∧ low ≤ 0xdfff) :
      Spelling (Char.ofNat ((high - 0xd800) * 0x400 + (low - 0xdc00) + 0x10000))
        ('\\' :: 'u' :: front ++ '\\' :: 'u' :: back)

inductive Body : List Char → List Char → Prop
  | nil : Body [] []
  | cons {c : Char} {chars front text : List Char} (first : Spelling c front) (rest : Body chars text) :
      Body (c :: chars) (front ++ text)

def Quotes (value : String) (text : List Char) : Prop := ∃ body, Body value.toList body ∧ text = '"' :: body ++ ['"']

mutual

-- A text of a value with no blanks around.
inductive Spells : Value → List Char → Prop
  | null : Spells .null ['n', 'u', 'l', 'l']
  | true : Spells (.bool true) ['t', 'r', 'u', 'e']
  | false : Spells (.bool false) ['f', 'a', 'l', 's', 'e']
  | number {value : ℚ} {text : List Char} (numeral : Numeral value text) : Spells (.number value) text
  | text {value : String} {text : List Char} (quotes : Quotes value text) : Spells (.text value) text
  | emptyList {gap : List Char} (blank : Blank gap) : Spells (.list []) ('[' :: gap ++ [']'])
  | list {items : List Value} {text : List Char} (several : Items items text) : Spells (.list items) ('[' :: text ++ [']'])
  | emptyObject {gap : List Char} (blank : Blank gap) : Spells (.object []) ('\x7b' :: gap ++ ['\x7d'])
  | object {members : List (String × Value)} {text : List Char} (several : Members members text) :
      Spells (.object members) ('\x7b' :: text ++ ['\x7d'])

inductive Items : List Value → List Char → Prop
  | last {value : Value} {before text after : List Char} (front : Blank before) (item : Spells value text)
      (back : Blank after) : Items [value] (before ++ text ++ after)
  | more {value : Value} {items : List Value} {before text after rest : List Char} (front : Blank before)
      (item : Spells value text) (back : Blank after) (others : Items items rest) :
      Items (value :: items) (before ++ text ++ after ++ ',' :: rest)

inductive Members : List (String × Value) → List Char → Prop
  | last {key : String} {value : Value} {before name between gap text after : List Char} (front : Blank before)
      (quotes : Quotes key name) (left : Blank between) (right : Blank gap) (item : Spells value text)
      (back : Blank after) : Members [(key, value)] (before ++ name ++ between ++ ':' :: gap ++ text ++ after)
  | more {key : String} {value : Value} {members : List (String × Value)}
      {before name between gap text after rest : List Char} (front : Blank before) (quotes : Quotes key name)
      (left : Blank between) (right : Blank gap) (item : Spells value text) (back : Blank after)
      (others : Members members rest) :
      Members ((key, value) :: members) (before ++ name ++ between ++ ':' :: gap ++ text ++ after ++ ',' :: rest)

end

def IsText (value : Value) (text : List Char) : Prop :=
  ∃ before inner after, Blank before ∧ Spells value inner ∧ Blank after ∧ text = before ++ inner ++ after

mutual

def meaning : Json → Value
  | .null => .null
  | .bool value => .bool value
  | .number value => .number value
  | .text value => .text value
  | .list items => .list (meanings items)
  | .object members => .object (memberMeanings members)

def meanings : List Json → List Value
  | [] => []
  | item :: more => meaning item :: meanings more

def memberMeanings : List (String × Json) → List (String × Value)
  | [] => []
  | (key, value) :: more => (key, meaning value) :: memberMeanings more

end

theorem meanings_eq (items : List Json) : meanings items = items.map meaning := by
  induction items with
  | nil => rfl
  | cons item more ih => rw [meanings, ih, List.map_cons]

theorem decimal_whole (n : Nat) : Whole (Digits.decimal n) := by
  have digits := Digits.decimal_char n
  have plain := Ipv4.decimal_plain n
  cases shape : Digits.decimal n with
  | nil => exact absurd shape (Digits.decimal_nonempty n)
  | cons first rest =>
      rw [shape] at digits plain
      have range := digits first List.mem_cons_self
      by_cases zero : first = '0'
      · have alone : rest = [] := by simpa [zero] using plain
        rw [zero, alone]
        exact .zero
      · have other : first.toNat ≠ 48 := fun same => zero (Char.toNat_inj.mp same)
        have lead : 49 ≤ first.toNat ∧ first.toNat ≤ 57 := by omega
        exact .other lead fun c member => digits c (List.mem_cons_of_mem first member)

theorem decimal_unsigned (n : Nat) : Unsigned n (Digits.decimal n) := by
  have spelled := Unsigned.mk (decimal_whole n) .none .none
  simpa [Digits.decimal, Nat.ofDigitChars_ten_toDigits] using spelled

theorem signed_numeral (n : Int) : Numeral n (Digits.signed n) := by
  cases n with
  | ofNat n =>
      have spelled := Numeral.positive (decimal_unsigned n)
      rwa [← Int.cast_natCast] at spelled
  | negSucc n => simpa [Digits.signed, Int.negSucc_eq] using Numeral.negative (decimal_unsigned (n + 1))

theorem control_unit (c : Char) (control : c.toNat < 0x20) :
    HexUnit c.toNat ['0', '0', escapeDigit (c.toNat / 16), escapeDigit (c.toNat % 16)] := by
  refine ⟨rfl, ?_⟩
  generalize c.toNat = n at control
  interval_cases n <;> rfl

theorem char_spelling (c : Char) : Spelling c (char c) := by
  unfold char
  -- Seven characters have a letter.
  iterate 7
    split
    · rename_i same
      exact .letter (by rw [same]; decide)
  split
  · rename_i control
    have spelled := Spelling.unit (control_unit c control) (.inl (by omega))
    rwa [Char.ofNat_toNat] at spelled
  · rename_i noQuote noBackslash _ _ _ _ _ high
    exact .plain (by omega) noQuote noBackslash

theorem flat_map_body (chars : List Char) : Body chars (chars.flatMap char) := by
  induction chars with
  | nil => exact .nil
  | cons c rest ih => exact .cons (char_spelling c) ih

theorem string_quotes (value : String) : Quotes value (string value) :=
  ⟨value.toList.flatMap char, flat_map_body value.toList, rfl⟩

theorem line_blank (depth : Nat) : Blank (line depth) := by
  intro c member
  rcases List.mem_cons.mp member with rfl | later
  · simp
  · exact .inl (List.eq_of_mem_replicate later)

theorem blank_nil : Blank [] := by
  intro c member
  simp at member

theorem blank_one : Blank [' '] := by
  intro c member
  exact .inl (List.mem_singleton.mp member)

theorem spells_text (value : Value) (text after : List Char) (spells : Spells value text) (back : Blank after) :
    IsText value (text ++ after) :=
  ⟨[], text, after, blank_nil, spells, back, rfl⟩

mutual

theorem wide_spells (depth : Nat) (json : Json) : Spells json.meaning (wide depth json).flatten := by
  cases json with
  | null => exact .null
  | bool value =>
      cases value with
      | true => exact .true
      | false => exact .false
  | number value => simpa [wide, meaning] using Spells.number (signed_numeral value)
  | text value => simpa [wide, meaning] using Spells.text (string_quotes value)
  | list items =>
      cases items with
      | nil => exact .emptyList blank_nil
      | cons item more =>
          have items := items_spell (depth + 1) more item.meaning _ (wide_spells (depth + 1) item) (line depth)
            (line_blank depth)
          simpa [wide, meaning, meanings] using Spells.list items
  | object members =>
      cases members with
      | nil => exact .emptyObject blank_nil
      | cons member more =>
          obtain ⟨key, value⟩ := member
          have members := members_spell (depth + 1) more key value.meaning _ (wide_spells (depth + 1) value) (line depth)
            (line_blank depth)
          simpa [wide, meaning, memberMeanings] using Spells.object members

theorem items_spell (depth : Nat) (more : List Json) (value : Value) (text : List Char) (item : Spells value text)
    (closing : List Char) (blank : Blank closing) :
    Items (value :: meanings more) (line depth ++ text ++ (wideItems depth more).flatten ++ closing) := by
  cases more with
  | nil => simpa [wideItems, meanings] using Items.last (line_blank depth) item blank
  | cons next later =>
      have others := items_spell depth later next.meaning _ (wide_spells depth next) closing blank
      simpa [wideItems, meanings] using Items.more (line_blank depth) item blank_nil others

theorem members_spell (depth : Nat) (more : List (String × Json)) (key : String) (value : Value) (text : List Char)
    (item : Spells value text) (closing : List Char) (blank : Blank closing) :
    Members ((key, value) :: memberMeanings more)
      (line depth ++ string key ++ ':' :: ' ' :: text ++ (wideMembers depth more).flatten ++ closing) := by
  cases more with
  | nil =>
      simpa [wideMembers, memberMeanings] using
        Members.last (line_blank depth) (string_quotes key) blank_nil blank_one item blank
  | cons next later =>
      obtain ⟨nextKey, nextValue⟩ := next
      have others := members_spell depth later nextKey nextValue.meaning _ (wide_spells depth nextValue) closing blank
      simpa [wideMembers, memberMeanings] using
        Members.more (line_blank depth) (string_quotes key) blank_nil blank_one item blank_nil others

end

end HostTools.Json
