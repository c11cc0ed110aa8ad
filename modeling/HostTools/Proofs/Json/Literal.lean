import Mathlib
import HostTools.Json.Literal
import HostTools.Proofs.Json.Grammar
import HostTools.Proofs.Text.Encoding

set_option autoImplicit false

namespace HostTools.Json

theorem literal_quote (rest : Bytes) : literal (0x22 :: rest) = .ok ([], rest) := by
  rw [literal, if_pos rfl]

theorem literal_escape (rest after value final : Bytes) (char : Char) (read : escape rest = .ok (char, after))
    (later : literal after = .ok (value, final)) :
    literal (0x5c :: rest) = .ok (String.utf8EncodeChar char ++ value, final) := by
  rw [literal, if_neg (by decide), if_pos rfl]
  split
  · rename_i fault failed
    rw [read] at failed
    cases failed
  · rename_i found after' found_eq
    rw [read] at found_eq
    cases found_eq
    simp only [later]

theorem literal_byte (byte : UInt8) (rest value final : Bytes) (noQuote : byte ≠ 0x22) (noBackslash : byte ≠ 0x5c)
    (high : 0x20 ≤ byte.toNat) (later : literal rest = .ok (value, final)) :
    literal (byte :: rest) = .ok (byte :: value, final) := by
  have printing : ¬ byte < 0x20 := by
    rw [UInt8.lt_iff_toNat_lt]
    exact Nat.not_lt.mpr high
  rw [literal, if_neg noQuote, if_neg noBackslash, if_neg printing, later]

theorem literal_bytes (bytes rest value final : Bytes)
    (plain : ∀ byte ∈ bytes, byte ≠ 0x22 ∧ byte ≠ 0x5c ∧ 0x20 ≤ byte.toNat)
    (later : literal rest = .ok (value, final)) : literal (bytes ++ rest) = .ok (bytes ++ value, final) := by
  induction bytes with
  | nil => exact later
  | cons byte bytes ih =>
      obtain ⟨noQuote, noBackslash, high⟩ := plain byte List.mem_cons_self
      exact literal_byte byte _ _ final noQuote noBackslash high
        (ih fun other member => plain other (List.mem_cons_of_mem byte member))

-- Octets of characters outside ASCII are no quotes, no backslashes and no controls.
theorem plain_bytes (c : Char) (high : 0x20 ≤ c.toNat) (noQuote : c ≠ '"') (noBackslash : c ≠ '\\') (byte : UInt8)
    (member : byte ∈ String.utf8EncodeChar c) : byte ≠ 0x22 ∧ byte ≠ 0x5c ∧ 0x20 ≤ byte.toNat := by
  by_cases low : c.toNat < 0x80
  · rw [Utf8.encode_low c low, List.mem_singleton] at member
    have number : byte.toNat = c.toNat := by rw [member, Utf8.byte_of_low c low]
    refine ⟨?_, ?_, by omega⟩
    · rintro rfl
      exact noQuote (Char.toNat_inj.mp number.symm)
    · rintro rfl
      exact noBackslash (Char.toNat_inj.mp number.symm)
  · have above := Utf8.encode_high c (by omega) byte member
    refine ⟨?_, ?_, by omega⟩
    · rintro rfl
      exact absurd above (by decide)
    · rintro rfl
      exact absurd above (by decide)

theorem hex_digit_byte (c : Char) (value : Nat) (known : Digits.inBase? 16 c = some value) :
    ∃ byte, String.utf8EncodeChar c = [byte] ∧ Bytes.hexDigit? byte = some value := by
  have range := Digits.hex_digit c (by simp [known])
  refine ⟨UInt8.ofNat c.toNat, Utf8.encode_low c (by omega), ?_⟩
  rw [← Char.ofNat_toNat c] at known
  rw [← known]
  generalize c.toNat = n at range
  rcases range with ⟨low, high⟩ | ⟨low, high⟩ | ⟨low, high⟩ <;> interval_cases n <;> rfl

theorem read_onto_cons (soFar value : Nat) (c : Char) (rest : List Char)
    (known : Digits.readOnto 16 soFar (c :: rest) = some value) :
    ∃ byte digit, String.utf8EncodeChar c = [byte] ∧ Bytes.hexDigit? byte = some digit ∧
      Digits.readOnto 16 (soFar * 16 + digit) rest = some value := by
  rw [Digits.readOnto] at known
  split at known
  · rename_i digit found
    obtain ⟨byte, encoded, same⟩ := hex_digit_byte c digit found
    exact ⟨byte, digit, encoded, same, known⟩
  · cases known

theorem four_digits_unit (number : Nat) (digits : List Char) (four : HexUnit number digits) (rest : Bytes) :
    fourDigits (Bytes.ofChars digits ++ rest) = .ok (number, rest) := by
  obtain ⟨count, read⟩ := four
  obtain ⟨a, b, c, d, rfl⟩ := List.length_eq_four.mp count
  obtain ⟨first, high, firstOctet, firstDigit, read⟩ := read_onto_cons 0 number a [b, c, d] read
  obtain ⟨second, upper, secondOctet, secondDigit, read⟩ := read_onto_cons _ number b [c, d] read
  obtain ⟨third, lower, thirdOctet, thirdDigit, read⟩ := read_onto_cons _ number c [d] read
  obtain ⟨fourth, low, fourthOctet, fourthDigit, read⟩ := read_onto_cons _ number d [] read
  have value := Option.some.inj read
  have octets : Bytes.ofChars [a, b, c, d] = [first, second, third, fourth] := by
    simp [Bytes.ofChars, firstOctet, secondOctet, thirdOctet, fourthOctet]
  simp only [octets, List.cons_append, List.nil_append, fourDigits, firstDigit, secondDigit, thirdDigit, fourthDigit]
  rw [← value, Nat.zero_mul, Nat.zero_add]

theorem numbered_unit (number : Nat) (digits : List Char) (four : HexUnit number digits)
    (whole : number < 0xd800 ∨ 0xdfff < number) (rest : Bytes) :
    numbered (Bytes.ofChars digits ++ rest) = .ok (Char.ofNat number, rest) := by
  simp only [numbered, four_digits_unit number digits four rest, bind, Except.bind]
  rw [if_neg (by omega), if_pos (by omega)]

theorem second_surrogate_unit (number : Nat) (digits : List Char) (four : HexUnit number digits)
    (trailing : 0xdc00 ≤ number ∧ number ≤ 0xdfff) (rest : Bytes) :
    secondSurrogate (0x5c :: 0x75 :: (Bytes.ofChars digits ++ rest)) = .ok (number, rest) := by
  simp only [secondSurrogate, nextInEscape, if_true, four_digits_unit number digits four rest, bind, Except.bind]
  rw [if_pos trailing]

theorem numbered_pair (high low : Nat) (front back : List Char) (first : HexUnit high front)
    (second : HexUnit low back) (leading : 0xd800 ≤ high ∧ high ≤ 0xdbff) (trailing : 0xdc00 ≤ low ∧ low ≤ 0xdfff)
    (rest : Bytes) :
    numbered (Bytes.ofChars front ++ 0x5c :: 0x75 :: (Bytes.ofChars back ++ rest)) =
      .ok (Char.ofNat ((high - 0xd800) * 0x400 + (low - 0xdc00) + 0x10000), rest) := by
  simp only [numbered, four_digits_unit high front first, second_surrogate_unit low back second trailing rest, bind,
    Except.bind]
  rw [if_neg (by omega), if_neg (by omega)]

theorem escape_letter (letter c : Char) (known : (letter, c) ∈ letters) (rest : Bytes) :
    escape (Bytes.ofChars [letter] ++ rest) = .ok (c, rest) := by
  simp only [letters, List.mem_cons, Prod.mk.injEq, List.not_mem_nil, or_false] at known
  rcases known with ⟨rfl, rfl⟩ | ⟨rfl, rfl⟩ | ⟨rfl, rfl⟩ | ⟨rfl, rfl⟩ | ⟨rfl, rfl⟩ | ⟨rfl, rfl⟩ | ⟨rfl, rfl⟩ |
    ⟨rfl, rfl⟩ <;> rfl

theorem literal_spelling (c : Char) (front : List Char) (spelling : Spelling c front) (rest value final : Bytes)
    (later : literal rest = .ok (value, final)) :
    literal (Bytes.ofChars front ++ rest) = .ok (String.utf8EncodeChar c ++ value, final) := by
  cases spelling with
  | plain high noQuote noBackslash =>
      have single : Bytes.ofChars [c] = String.utf8EncodeChar c := by simp [Bytes.ofChars]
      rw [single]
      exact literal_bytes _ rest value final (plain_bytes c high noQuote noBackslash) later
  | letter known => exact literal_escape _ rest value final c (escape_letter _ c known rest) later
  | unit four whole => exact literal_escape _ rest value final _ (numbered_unit _ _ four whole rest) later
  | pair first second leading trailing =>
      rw [Bytes.of_chars_append, List.append_assoc]
      exact literal_escape _ rest value final _ (numbered_pair _ _ _ _ first second leading trailing rest) later

theorem literal_body (chars text : List Char) (body : Body chars text) (rest : Bytes) :
    literal (Bytes.ofChars text ++ 0x22 :: rest) = .ok (Bytes.ofChars chars, rest) := by
  induction body with
  | nil => exact literal_quote rest
  | cons first _ ih =>
      rw [Bytes.of_chars_append, List.append_assoc, Bytes.of_chars_cons]
      exact literal_spelling _ _ first _ _ rest ih

end HostTools.Json
