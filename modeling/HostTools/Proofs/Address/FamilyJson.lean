import Mathlib
import HostTools.Address.FamilyJson
import HostTools.Proofs.Json.Decoder
import HostTools.Proofs.Json.Spelled

set_option autoImplicit false

namespace HostTools

namespace Json

theorem blank_first (c : Char) (text : List Char) (byte : UInt8) (rest : Bytes)
    (shape : Bytes.ofChars (c :: text) = byte :: rest) (white : isBlank byte = true) : Blank [c] := by
  simp only [isBlank, Bool.or_eq_true, decide_eq_true_eq] at white
  have low : byte.toNat < 0x80 := by rcases white with ((rfl | rfl) | rfl) | rfl <;> decide
  obtain ⟨tail, same, -⟩ := of_chars_ascii (c :: text) byte rest low shape
  intro d member
  rw [List.mem_singleton.mp member, (List.cons.inj same).1]
  rcases white with ((rfl | rfl) | rfl) | rfl
  · exact .inl rfl
  · exact .inr (.inl rfl)
  · exact .inr (.inr (.inl rfl))
  · exact .inr (.inr (.inr rfl))

theorem skip_blanks_text (text : List Char) :
    ∃ gap tail, Blank gap ∧ text = gap ++ tail ∧ skipBlanks (Bytes.ofChars text) = Bytes.ofChars tail := by
  induction text with
  | nil => exact ⟨[], [], blank_nil, rfl, rfl⟩
  | cons c text ih =>
      -- A blank is one octet, and no other character starts with that octet.
      by_cases blank : Blank [c]
      · obtain ⟨gap, tail, blanks, rfl, skipped⟩ := ih
        refine ⟨c :: gap, tail, ?_, rfl, ?_⟩
        · intro d member
          rcases List.mem_cons.mp member with rfl | later
          · exact blank d List.mem_cons_self
          · exact blanks d later
        · rw [← List.singleton_append, Bytes.of_chars_append, skipBlanks,
            List.dropWhile_append_of_pos (blank_octets [c] blank)]
          exact skipped
      · refine ⟨[], c :: text, blank_nil, rfl, ?_⟩
        cases shape : Bytes.ofChars (c :: text) with
        | nil => rfl
        | cons byte rest =>
            exact List.dropWhile_cons_of_neg fun white => blank (blank_first c text byte rest shape white)

theorem skip_to (word text : List Char) (rest : Bytes) (solid : Solid (Bytes.ofChars word ++ rest)) :
    skipBlanks (Bytes.ofChars text) = Bytes.ofChars word ++ rest ↔
      ∃ gap tail, Blank gap ∧ text = gap ++ word ++ tail ∧ rest = Bytes.ofChars tail := by
  constructor
  · intro found
    obtain ⟨gap, later, blank, rfl, skipped⟩ := skip_blanks_text text
    obtain ⟨tail, rfl, after⟩ := Utf8.of_chars_front word later rest (skipped.symm.trans found)
    exact ⟨gap, tail, blank, (List.append_assoc gap word tail).symm, after⟩
  · rintro ⟨gap, tail, blank, rfl, rfl⟩
    rw [List.append_assoc, Bytes.of_chars_append, Bytes.of_chars_append, skip_blanks_gap gap blank _ solid]

theorem skip_to_end (text : List Char) : skipBlanks (Bytes.ofChars text) = [] ↔ Blank text := by
  constructor
  · intro ended
    obtain ⟨gap, tail, blank, rfl, skipped⟩ := skip_blanks_text text
    have empty : tail.length ≤ 0 := by
      have bound := length_octets tail
      rwa [← skipped, ended] at bound
    rw [List.length_eq_zero_iff.mp (Nat.le_zero.mp empty), List.append_nil]
    exact blank
  · intro blank
    have skipped := skip_blanks_gap text blank [] (by intro byte found; cases found)
    rwa [List.append_nil] at skipped

theorem rest_of_word_iff (letters input rest : Bytes) :
    restOfWord letters input = .ok rest ↔ input = letters ++ rest := by
  induction letters generalizing input with
  | nil =>
      rw [restOfWord, Except.ok.injEq]
      rfl
  | cons letter letters ih =>
      cases input with
      | nil => simp [restOfWord]
      | cons byte input =>
          by_cases same : byte = letter
          · rw [restOfWord, if_pos same, ih, same, List.cons_append, List.cons.injEq]
            simp
          · simp [restOfWord, same]

end Json

namespace FamilyJson

open Json (Blank Body Quotes Members Spells IsText Solid)

theorem of_name_iff (value : Bytes) (family : Family) :
    ofName? value = some family ↔ value = Bytes.ofText family.name := by
  have apart : Bytes.ofText "ipv4" ≠ Bytes.ofText "ipv6" := by decide
  by_cases four : value = Bytes.ofText "ipv4"
  · cases family <;> simp [ofName?, four, Family.name, apart]
  · by_cases six : value = Bytes.ofText "ipv6"
    · cases family <;> simp [ofName?, six, Family.name, Ne.symm apart]
    · cases family <;> simp [ofName?, four, six, Family.name]

theorem name_iff (text : List Char) (family : Family) (rest : Bytes) :
    name (Bytes.ofChars text) = .ok (family, rest) ↔
      ∃ body tail, Body family.name.toList body ∧ text = body ++ '"' :: tail ∧ rest = Bytes.ofChars tail := by
  constructor
  · intro read
    unfold name at read
    split at read
    · cases read
    · rename_i value after literal
      obtain ⟨chars, body, tail, spelled, shape, value_eq, after_eq⟩ := Json.literal_spelled text value after literal
      split at read
      · rename_i found known
        cases read
        have same : Bytes.ofChars chars = Bytes.ofChars family.name.toList :=
          value_eq.symm.trans ((of_name_iff value family).mp known)
        -- Equal octets are equal texts.
        have chars_eq := Utf8.strict_of_chars chars
        rw [same, Utf8.strict_of_chars, Option.some.injEq] at chars_eq
        exact ⟨body, tail, chars_eq ▸ spelled, shape, after_eq⟩
      · cases read
  · rintro ⟨body, tail, spelled, rfl, rfl⟩
    have literal := Json.literal_body _ body spelled (Bytes.ofChars tail)
    have octets : Bytes.ofChars (body ++ '"' :: tail) = Bytes.ofChars body ++ 0x22 :: Bytes.ofChars tail :=
      Bytes.of_chars_append body ('"' :: tail)
    have known : ofName? (Bytes.ofChars family.name.toList) = some family := (of_name_iff _ family).mpr rfl
    simp only [name, octets, literal, known]

-- Each token is looked for after blanks, so each part of an object is a part of the text with blanks in front.
theorem quoted_name_iff (text : List Char) (family : Family) (rest : Bytes) :
    (∃ after, Json.skipBlanks (Bytes.ofChars text) = 0x22 :: after ∧ name after = .ok (family, rest)) ↔
      ∃ gap quoted tail, Blank gap ∧ Quotes family.name quoted ∧ text = gap ++ quoted ++ tail ∧
        rest = Bytes.ofChars tail := by
  have quote (after : Bytes) : Json.skipBlanks (Bytes.ofChars text) = 0x22 :: after ↔ _ :=
    Json.skip_to ['"'] text after (Json.solid_cons 0x22 after rfl)
  constructor
  · rintro ⟨after, skipped, read⟩
    obtain ⟨gap, later, blank, rfl, rfl⟩ := (quote after).mp skipped
    obtain ⟨body, tail, spelled, rfl, rfl⟩ := (name_iff later family rest).mp read
    exact ⟨gap, '"' :: body ++ ['"'], tail, blank, ⟨body, spelled, rfl⟩, by simp, rfl⟩
  · rintro ⟨gap, quoted, tail, blank, ⟨body, spelled, rfl⟩, rfl, rfl⟩
    refine ⟨Bytes.ofChars (body ++ '"' :: tail), (quote _).mpr ?_, ?_⟩
    · exact ⟨gap, body ++ '"' :: tail, blank, by simp, rfl⟩
    · exact (name_iff _ family _).mpr ⟨body, tail, spelled, rfl, rfl⟩

theorem key_iff (text : List Char) (family : Family) (rest : Bytes) :
    key (Bytes.ofChars text) = .ok (family, rest) ↔
      ∃ gap quoted tail, Blank gap ∧ Quotes family.name quoted ∧ text = gap ++ quoted ++ tail ∧
        rest = Bytes.ofChars tail := by
  rw [← quoted_name_iff]
  unfold key
  cases Json.skipBlanks (Bytes.ofChars text) with
  | nil => simp
  | cons byte after =>
      by_cases quote : byte = 0x22
      · simp [quote]
      · by_cases brace : byte = 0x7d <;> simp [quote, brace]

theorem mark_iff (symbol : Char) (wanted : UInt8) (ended other : Bytes → Json.Fault) (text : List Char) (rest : Bytes)
    (octet : Bytes.ofChars [symbol] = [wanted]) (solid : Json.isBlank wanted = false) :
    mark wanted ended other (Bytes.ofChars text) = .ok rest ↔
      ∃ gap tail, Blank gap ∧ text = gap ++ [symbol] ++ tail ∧ rest = Bytes.ofChars tail := by
  have found := Json.skip_to [symbol] text rest (octet ▸ Json.solid_cons wanted rest solid)
  rw [octet, List.singleton_append] at found
  rw [← found]
  unfold mark
  cases Json.skipBlanks (Bytes.ofChars text) with
  | nil => simp
  | cons byte after => by_cases own : byte = wanted <;> simp [own]

theorem colon_iff (text : List Char) (rest : Bytes) :
    colon (Bytes.ofChars text) = .ok rest ↔
      ∃ gap tail, Blank gap ∧ text = gap ++ [':'] ++ tail ∧ rest = Bytes.ofChars tail :=
  mark_iff ':' 0x3a _ _ text rest rfl rfl

theorem closing_iff (text : List Char) (rest : Bytes) :
    closing (Bytes.ofChars text) = .ok rest ↔
      ∃ gap tail, Blank gap ∧ text = gap ++ ['\x7d'] ++ tail ∧ rest = Bytes.ofChars tail :=
  mark_iff '\x7d' 0x7d _ _ text rest rfl rfl

theorem null_iff (text : List Char) (rest : Bytes) :
    null (Bytes.ofChars text) = .ok rest ↔
      ∃ gap tail, Blank gap ∧ text = gap ++ ['n', 'u', 'l', 'l'] ++ tail ∧ rest = Bytes.ofChars tail := by
  rw [← Json.skip_to ['n', 'u', 'l', 'l'] text rest (Json.solid_cons 0x6e _ rfl)]
  change _ ↔ _ = 0x6e :: ([0x75, 0x6c, 0x6c] ++ rest)
  unfold null
  cases Json.skipBlanks (Bytes.ofChars text) with
  | nil => simp
  | cons byte after => by_cases letter : byte = 0x6e <;> simp [letter, Json.rest_of_word_iff]

theorem member_parts (input : Bytes) (family : Family) (rest : Bytes) :
    member input = .ok (family, rest) ↔
      ∃ named marked valued, key input = .ok (family, named) ∧ colon named = .ok marked ∧ null marked = .ok valued ∧
        closing valued = .ok rest := by
  simp only [member, Json.bind_ok_iff, Prod.exists, Except.ok.injEq, Prod.mk.injEq]
  constructor
  · rintro ⟨family, named, keyed, marked, separated, valued, nulled, rest, closed, rfl, rfl⟩
    exact ⟨named, marked, valued, keyed, separated, nulled, closed⟩
  · rintro ⟨named, marked, valued, keyed, separated, nulled, closed⟩
    exact ⟨family, named, keyed, marked, separated, valued, nulled, rest, closed, rfl, rfl⟩

theorem single_member (key : String) (inner : List Char) :
    Members [(key, .null)] inner ↔
      ∃ before quoted between gap after, Blank before ∧ Quotes key quoted ∧ Blank between ∧ Blank gap ∧ Blank after ∧
        inner = before ++ quoted ++ between ++ ':' :: gap ++ ['n', 'u', 'l', 'l'] ++ after := by
  constructor
  · intro members
    cases members with
    | last front quotes left right item back =>
        cases item
        exact ⟨_, _, _, _, _, front, quotes, left, right, back, rfl⟩
    | more front quotes left right item back others => cases others
  · rintro ⟨before, quoted, between, gap, after, front, quotes, left, right, back, rfl⟩
    exact .last front quotes left right .null back

theorem member_iff (text : List Char) (family : Family) (rest : Bytes) :
    member (Bytes.ofChars text) = .ok (family, rest) ↔
      ∃ inner tail, Members [(family.name, .null)] inner ∧ text = inner ++ '\x7d' :: tail ∧
        rest = Bytes.ofChars tail := by
  rw [member_parts]
  constructor
  · rintro ⟨named, marked, valued, keyed, separated, nulled, closed⟩
    obtain ⟨before, quoted, named, front, quotes, rfl, rfl⟩ := (key_iff text family named).mp keyed
    obtain ⟨between, marked, left, rfl, rfl⟩ := (colon_iff named marked).mp separated
    obtain ⟨gap, valued, right, rfl, rfl⟩ := (null_iff marked valued).mp nulled
    obtain ⟨after, tail, back, rfl, rfl⟩ := (closing_iff valued rest).mp closed
    exact ⟨_, tail, .last front quotes left right .null back, by simp, rfl⟩
  · rintro ⟨inner, tail, members, rfl, rfl⟩
    obtain ⟨before, quoted, between, gap, after, front, quotes, left, right, back, rfl⟩ :=
      (single_member family.name inner).mp members
    -- What is left of the text after each token.
    let valued := after ++ ['\x7d'] ++ tail
    let marked := gap ++ ['n', 'u', 'l', 'l'] ++ valued
    let named := between ++ [':'] ++ marked
    refine ⟨Bytes.ofChars named, Bytes.ofChars marked, Bytes.ofChars valued, ?_, ?_, ?_, ?_⟩
    · exact (key_iff _ family _).mpr ⟨before, quoted, named, front, quotes, by simp [named, marked, valued], rfl⟩
    · exact (colon_iff named _).mpr ⟨between, marked, left, rfl, rfl⟩
    · exact (null_iff marked _).mpr ⟨gap, valued, right, rfl, rfl⟩
    · exact (closing_iff valued _).mpr ⟨after, tail, back, rfl, rfl⟩

theorem braced_member_iff (text : List Char) (family : Family) (rest : Bytes) :
    (∃ after, Json.skipBlanks (Bytes.ofChars text) = 0x7b :: after ∧ member after = .ok (family, rest)) ↔
      ∃ gap inner tail, Blank gap ∧ Members [(family.name, .null)] inner ∧
        text = gap ++ ('\x7b' :: inner ++ ['\x7d']) ++ tail ∧ rest = Bytes.ofChars tail := by
  have brace (after : Bytes) : Json.skipBlanks (Bytes.ofChars text) = 0x7b :: after ↔ _ :=
    Json.skip_to ['\x7b'] text after (Json.solid_cons 0x7b after rfl)
  constructor
  · rintro ⟨after, skipped, read⟩
    obtain ⟨gap, later, blank, rfl, rfl⟩ := (brace after).mp skipped
    obtain ⟨inner, tail, members, rfl, rfl⟩ := (member_iff later family rest).mp read
    exact ⟨gap, inner, tail, blank, members, by simp, rfl⟩
  · rintro ⟨gap, inner, tail, blank, members, rfl, rfl⟩
    refine ⟨Bytes.ofChars (inner ++ '\x7d' :: tail), (brace _).mpr ?_, ?_⟩
    · exact ⟨gap, inner ++ '\x7d' :: tail, blank, by simp, rfl⟩
    · exact (member_iff _ family _).mpr ⟨inner, tail, members, rfl, rfl⟩

theorem value_cases (input : Bytes) (family : Family) (rest : Bytes) :
    value input = .ok (family, rest) ↔
      (∃ after, Json.skipBlanks input = 0x22 :: after ∧ name after = .ok (family, rest)) ∨
        ∃ after, Json.skipBlanks input = 0x7b :: after ∧ member after = .ok (family, rest) := by
  unfold value
  cases Json.skipBlanks input with
  | nil => simp
  | cons byte after =>
      by_cases brace : byte = 0x7b
      · simp [brace]
      · by_cases quote : byte = 0x22 <;> simp [brace, quote]

theorem value_iff (text : List Char) (family : Family) (rest : Bytes) :
    value (Bytes.ofChars text) = .ok (family, rest) ↔
      ∃ gap inner tail, Blank gap ∧ (Spells (.text family.name) inner ∨ Spells (.object [(family.name, .null)]) inner) ∧
        text = gap ++ inner ++ tail ∧ rest = Bytes.ofChars tail := by
  rw [value_cases, quoted_name_iff, braced_member_iff]
  constructor
  · rintro (⟨gap, quoted, tail, blank, quotes, shape, after⟩ | ⟨gap, inner, tail, blank, members, shape, after⟩)
    · exact ⟨gap, quoted, tail, blank, .inl (.text quotes), shape, after⟩
    · exact ⟨gap, _, tail, blank, .inr (.object members), shape, after⟩
  · rintro ⟨gap, inner, tail, blank, string | object, shape, after⟩
    · cases string with
      | text quotes => exact .inl ⟨gap, inner, tail, blank, quotes, shape, after⟩
    · cases object with
      | object members => exact .inr ⟨gap, _, tail, blank, members, shape, after⟩

theorem read_iff (input : Bytes) (family : Family) :
    read input = .ok family ↔ ∃ rest, value input = .ok (family, rest) ∧ Json.skipBlanks rest = [] := by
  unfold read
  cases value input with
  | error fault => simp
  | ok pair =>
      obtain ⟨found, rest⟩ := pair
      cases ended : Json.skipBlanks rest with
      | nil => simp [ended]
      | cons byte more => simp [ended]

theorem read_text_iff (text : List Char) (family : Family) :
    read (Bytes.ofChars text) = .ok family ↔
      IsText (.text family.name) text ∨ IsText (.object [(family.name, .null)]) text := by
  rw [read_iff]
  constructor
  · rintro ⟨rest, found, ended⟩
    obtain ⟨before, inner, after, front, spells, rfl, rfl⟩ := (value_iff text family rest).mp found
    have back := (Json.skip_to_end after).mp ended
    rcases spells with string | object
    · exact .inl ⟨before, inner, after, front, string, back, rfl⟩
    · exact .inr ⟨before, inner, after, front, object, back, rfl⟩
  · rintro (⟨before, inner, after, front, string, back, rfl⟩ | ⟨before, inner, after, front, object, back, rfl⟩)
    · exact ⟨Bytes.ofChars after, (value_iff _ family _).mpr ⟨before, inner, after, front, .inl string, rfl, rfl⟩,
        (Json.skip_to_end after).mpr back⟩
    · exact ⟨Bytes.ofChars after, (value_iff _ family _).mpr ⟨before, inner, after, front, .inr object, rfl, rfl⟩,
        (Json.skip_to_end after).mpr back⟩

theorem read_family_iff (text : String) (family : Family) :
    (read (Bytes.ofText text) = .ok family ↔
      IsText (.text family.name) text.toList ∨ IsText (.object [(family.name, .null)]) text.toList) ∧
    ∀ before after, Blank before → Blank after →
      read (Bytes.ofChars (before ++ Json.compact (.text family.name) ++ after)) = .ok family := by
  refine ⟨read_text_iff text.toList family, ?_⟩
  intro before after front back
  have spelled : Spells (.text family.name) (Json.compact (.text family.name)) := .text (Json.string_quotes family.name)
  exact (read_text_iff _ family).mpr (.inl ⟨before, _, after, front, spelled, back, rfl⟩)

end FamilyJson

end HostTools
