import Mathlib
import HostTools.Proofs.Json.Literal

set_option autoImplicit false

namespace HostTools.Json

theorem bind_ok_iff {α β : Type} (read : Except Fault α) (next : α → Except Fault β) (final : β) :
    read >>= next = .ok final ↔ ∃ value, read = .ok value ∧ next value = .ok final := by
  cases read with
  | error fault => simp [bind, Except.bind]
  | ok value => simp [bind, Except.bind]

theorem hex_digit_char (byte : UInt8) (value : Nat) (known : Bytes.hexDigit? byte = some value) :
    byte.toNat < 0x80 ∧ Digits.inBase? 16 (Char.ofNat byte.toNat) = some value := by
  revert value
  apply Bytes.each_octet (fun byte => ∀ value, Bytes.hexDigit? byte = some value →
    byte.toNat < 0x80 ∧ Digits.inBase? 16 (Char.ofNat byte.toNat) = some value)
  intro n small
  interval_cases n <;> rintro value ⟨⟩ <;> exact ⟨by decide, rfl⟩

theorem letter_char (byte : UInt8) (c : Char) (known : ofLetter? byte = some c) :
    byte.toNat < 0x80 ∧ (Char.ofNat byte.toNat, c) ∈ letters := by
  revert c
  apply Bytes.each_octet (fun byte => ∀ c, ofLetter? byte = some c →
    byte.toNat < 0x80 ∧ (Char.ofNat byte.toNat, c) ∈ letters)
  intro n small
  interval_cases n <;> rintro c ⟨⟩ <;> decide

theorem of_chars_ascii (text : List Char) (byte : UInt8) (rest : Bytes) (low : byte.toNat < 0x80)
    (shape : Bytes.ofChars text = byte :: rest) :
    ∃ tail, text = Char.ofNat byte.toNat :: tail ∧ rest = Bytes.ofChars tail := by
  have single : Bytes.ofChars [Char.ofNat byte.toNat] = [byte] := by
    rw [Bytes.of_chars_cons, Utf8.encode_byte byte low]
    rfl
  exact Utf8.of_chars_front [_] text rest (by rw [single, shape]; rfl)

theorem of_chars_digit (text : List Char) (byte : UInt8) (rest : Bytes) (value : Nat)
    (shape : Bytes.ofChars text = byte :: rest) (known : Bytes.hexDigit? byte = some value) :
    ∃ c tail, text = c :: tail ∧ Digits.inBase? 16 c = some value ∧ rest = Bytes.ofChars tail := by
  obtain ⟨low, digit⟩ := hex_digit_char byte value known
  obtain ⟨tail, rfl, after⟩ := of_chars_ascii text byte rest low shape
  exact ⟨_, tail, rfl, digit, after⟩

theorem four_digits_spelled (text : List Char) (number : Nat) (rest : Bytes)
    (read : fourDigits (Bytes.ofChars text) = .ok (number, rest)) :
    ∃ digits tail, HexUnit number digits ∧ text = digits ++ tail ∧ rest = Bytes.ofChars tail := by
  unfold fourDigits at read
  split at read
  · rename_i first second third fourth after shape
    split at read
    · rename_i a b c d firstDigit secondDigit thirdDigit fourthDigit
      obtain ⟨p, text, rfl, one, shape⟩ := of_chars_digit text first _ a shape firstDigit
      obtain ⟨q, text, rfl, two, shape⟩ := of_chars_digit text second _ b shape.symm secondDigit
      obtain ⟨r, text, rfl, three, shape⟩ := of_chars_digit text third _ c shape.symm thirdDigit
      obtain ⟨s, text, rfl, four, shape⟩ := of_chars_digit text fourth _ d shape.symm fourthDigit
      cases read
      exact ⟨[p, q, r, s], text, ⟨rfl, by simp [Digits.read?, Digits.readOnto, one, two, three, four]⟩, rfl, shape⟩
    · cases read
  · cases read

theorem next_in_escape_spelled (wanted : Char) (text : List Char) (rest : Bytes) (low : wanted.toNat < 0x80)
    (read : nextInEscape (UInt8.ofNat wanted.toNat) (Bytes.ofChars text) = .ok rest) :
    ∃ tail, text = wanted :: tail ∧ rest = Bytes.ofChars tail := by
  unfold nextInEscape at read
  split at read
  · cases read
  · rename_i byte after shape
    split at read
    · rename_i same
      cases read
      exact Utf8.of_chars_front [wanted] text _ (by rw [shape, Utf8.of_chars_low _ (by simpa using low), same]; rfl)
    · cases read

theorem second_surrogate_spelled (text : List Char) (number : Nat) (rest : Bytes)
    (read : secondSurrogate (Bytes.ofChars text) = .ok (number, rest)) :
    ∃ digits tail, HexUnit number digits ∧ (0xdc00 ≤ number ∧ number ≤ 0xdfff) ∧
      text = '\\' :: 'u' :: digits ++ tail ∧ rest = Bytes.ofChars tail := by
  simp only [secondSurrogate, bind_ok_iff, Prod.exists] at read
  obtain ⟨after, backslash, later, letter, unit, final, four, read⟩ := read
  obtain ⟨text, rfl, rfl⟩ := next_in_escape_spelled '\\' text after (by decide) backslash
  obtain ⟨text, rfl, rfl⟩ := next_in_escape_spelled 'u' text later (by decide) letter
  obtain ⟨digits, tail, spelled, rfl, shape⟩ := four_digits_spelled text unit final four
  split at read
  · rename_i trailing
    cases read
    exact ⟨digits, tail, spelled, trailing, rfl, shape⟩
  · cases read

theorem numbered_spelled (text : List Char) (c : Char) (rest : Bytes)
    (read : numbered (Bytes.ofChars text) = .ok (c, rest)) :
    ∃ front tail, Spelling c ('\\' :: 'u' :: front) ∧ text = front ++ tail ∧ rest = Bytes.ofChars tail := by
  simp only [numbered, bind_ok_iff, Prod.exists] at read
  obtain ⟨high, after, digits, read⟩ := read
  obtain ⟨front, tail, unit, rfl, rfl⟩ := four_digits_spelled text high after digits
  split at read
  · cases read
  · rename_i noTrailing
    split at read
    · rename_i whole
      cases read
      exact ⟨front, tail, .unit unit (by omega), rfl, rfl⟩
    -- The first half of a pair, so that the second has to follow.
    · rename_i leading
      simp only [bind_ok_iff, Prod.exists, Except.ok.injEq, Prod.mk.injEq] at read
      obtain ⟨low, final, pair, char, rfl⟩ := read
      obtain ⟨back, tail, second, trailing, rfl, shape⟩ := second_surrogate_spelled tail low final pair
      refine ⟨front ++ '\\' :: 'u' :: back, tail, ?_, by simp, shape⟩
      rw [← char]
      exact .pair unit second (by omega) trailing

theorem escape_spelled (text : List Char) (c : Char) (rest : Bytes)
    (read : escape (Bytes.ofChars text) = .ok (c, rest)) :
    ∃ front tail, Spelling c ('\\' :: front) ∧ text = front ++ tail ∧ rest = Bytes.ofChars tail := by
  unfold escape at read
  split at read
  · cases read
  · rename_i letter after shape
    by_cases number : letter = 0x75
    · rw [if_pos number] at read
      obtain ⟨text, rfl, rfl⟩ := Utf8.of_chars_front ['u'] text after (by rw [shape, number]; rfl)
      obtain ⟨front, tail, spelling, rfl, rest_eq⟩ := numbered_spelled text c rest read
      exact ⟨'u' :: front, tail, spelling, rfl, rest_eq⟩
    · rw [if_neg number] at read
      split at read
      · rename_i char known
        cases read
        obtain ⟨low, inside⟩ := letter_char letter c known
        obtain ⟨tail, rfl, rest_eq⟩ := of_chars_ascii text letter _ low shape
        exact ⟨[_], tail, .letter inside, rfl, rest_eq⟩
      · cases read

theorem literal_escaped (rest value final : Bytes) (read : literal (0x5c :: rest) = .ok (value, final)) :
    ∃ c after later, escape rest = .ok (c, after) ∧ literal after = .ok (later, final) ∧
      value = String.utf8EncodeChar c ++ later := by
  rw [literal, if_neg (by decide), if_pos rfl] at read
  split at read
  · cases read
  · rename_i c after escaped
    split at read
    · cases read
    · rename_i later final' found
      cases read
      exact ⟨c, after, later, escaped, found, rfl⟩

theorem literal_plain (bytes rest value final : Bytes)
    (plain : ∀ byte ∈ bytes, byte ≠ 0x22 ∧ byte ≠ 0x5c ∧ 0x20 ≤ byte.toNat)
    (read : literal (bytes ++ rest) = .ok (value, final)) :
    ∃ later, literal rest = .ok (later, final) ∧ value = bytes ++ later := by
  induction bytes generalizing value with
  | nil => exact ⟨value, read, rfl⟩
  | cons byte bytes ih =>
      obtain ⟨noQuote, noBackslash, high⟩ := plain byte List.mem_cons_self
      have printing : ¬ byte < 0x20 := by
        rw [UInt8.lt_iff_toNat_lt]
        exact Nat.not_lt.mpr high
      rw [List.cons_append, literal, if_neg noQuote, if_neg noBackslash, if_neg printing] at read
      split at read
      · cases read
      · rename_i inner final' found
        cases read
        obtain ⟨later, tail, rfl⟩ := ih inner (fun other member => plain other (List.mem_cons_of_mem byte member)) found
        exact ⟨later, tail, rfl⟩

theorem literal_control (c : Char) (rest : Bytes) (control : c.toNat < 0x20) :
    literal (String.utf8EncodeChar c ++ rest) = .error (.after .controlCharacter rest) := by
  have number := Utf8.byte_of_low c (by omega)
  have low : UInt8.ofNat c.toNat < 0x20 := by
    rw [UInt8.lt_iff_toNat_lt, number]
    exact control
  have noQuote : UInt8.ofNat c.toNat ≠ 0x22 := fun same => absurd (same ▸ low) (by decide)
  have noBackslash : UInt8.ofNat c.toNat ≠ 0x5c := fun same => absurd (same ▸ low) (by decide)
  rw [Utf8.encode_low c (by omega), List.singleton_append, literal, if_neg noQuote, if_neg noBackslash, if_pos low]

-- The induction is on the length, since an escape takes several characters of the text at once.
theorem literal_spelled (text : List Char) (value rest : Bytes)
    (read : literal (Bytes.ofChars text) = .ok (value, rest)) :
    ∃ chars body tail, Body chars body ∧ text = body ++ '"' :: tail ∧ value = Bytes.ofChars chars ∧
      rest = Bytes.ofChars tail := by
  induction length : text.length using Nat.strongRecOn generalizing text value with
  | ind n ih =>
      cases text with
      | nil =>
          rw [show Bytes.ofChars [] = [] from rfl, literal] at read
          cases read
      | cons c text =>
          rw [Bytes.of_chars_cons] at read
          rw [List.length_cons] at length
          by_cases quote : c = '"'
          · rw [quote, show String.utf8EncodeChar '"' ++ Bytes.ofChars text = 0x22 :: Bytes.ofChars text from rfl,
              literal_quote] at read
            cases read
            exact ⟨[], [], text, .nil, by rw [quote]; rfl, rfl, rfl⟩
          · by_cases backslash : c = '\\'
            · rw [backslash] at read
              obtain ⟨char, after, later, escaped, found, rfl⟩ := literal_escaped _ value rest read
              obtain ⟨front, tail, spelling, rfl, rfl⟩ := escape_spelled text char after escaped
              rw [List.length_append] at length
              obtain ⟨chars, body, tail, spelled, rfl, rfl, final⟩ := ih tail.length (by omega) tail later found rfl
              exact ⟨char :: chars, '\\' :: front ++ body, tail, .cons spelling spelled, by simp [backslash],
                (Bytes.of_chars_cons char chars).symm, final⟩
            · by_cases control : c.toNat < 0x20
              · rw [literal_control c _ control] at read
                cases read
              · obtain ⟨later, found, rfl⟩ :=
                  literal_plain _ _ value rest (plain_bytes c (by omega) quote backslash) read
                obtain ⟨chars, body, tail, spelled, rfl, rfl, final⟩ := ih text.length (by omega) text later found rfl
                exact ⟨c :: chars, [c] ++ body, tail, .cons (.plain (by omega) quote backslash) spelled, rfl,
                  (Bytes.of_chars_cons c chars).symm, final⟩

end HostTools.Json
