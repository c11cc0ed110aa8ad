import Mathlib
import HostTools.Text.Digits

set_option autoImplicit false

namespace HostTools.Digits

theorem value_of_digit_char (digit : Nat) (small : digit < 16) : value? (Nat.digitChar digit) = some digit := by
  interval_cases digit <;> decide

theorem in_base_digit_char (base digit : Nat) (small : digit < base) (bounded : base ≤ 16) :
    inBase? base (Nat.digitChar digit) = some digit := by
  simp [inBase?, value_of_digit_char digit (by omega), small]

theorem in_base_bound (base digit : Nat) (c : Char) (known : inBase? base c = some digit) : digit < base := by
  simp only [inBase?, Option.filter_eq_some_iff, decide_eq_true_eq] at known
  exact known.2

theorem read_onto_append (base soFar : Nat) (front back : List Char) :
    readOnto base soFar (front ++ back) = (readOnto base soFar front).bind fun value => readOnto base value back := by
  induction front generalizing soFar with
  | nil => rfl
  | cons c front ih =>
      cases known : inBase? base c with
      | none => simp [readOnto, known]
      | some digit => simp [readOnto, known, ih]

theorem read_onto_to_digits (base n : Nat) (several : 1 < base) (bounded : base ≤ 16) :
    readOnto base 0 (Nat.toDigits base n) = some n := by
  induction n using Nat.strongRecOn with
  | ind n ih =>
      by_cases small : n < base
      · simp [Nat.toDigits_of_lt_base small, readOnto, in_base_digit_char base n small bounded]
      · have large : base ≤ n := Nat.le_of_not_lt small
        have quotient : n / base < n := Nat.div_lt_self (by omega) several
        have remainder : n % base < base := Nat.mod_lt n (by omega)
        rw [Nat.toDigits_of_base_le several large, read_onto_append, ih (n / base) quotient]
        simp [readOnto, in_base_digit_char base _ remainder bounded, Nat.div_add_mod']

theorem read_to_digits (base n : Nat) (several : 1 < base) (bounded : base ≤ 16) :
    read? base (Nat.toDigits base n) = some n := by
  have whole := read_onto_to_digits base n several bounded
  cases known : Nat.toDigits base n with
  | nil => exact absurd known Nat.toDigits_ne_nil
  | cons c rest => simpa [read?, known] using whole

theorem to_digits_injective (base m n : Nat) (several : 1 < base) (bounded : base ≤ 16)
    (same : Nat.toDigits base m = Nat.toDigits base n) : m = n := by
  have read := read_to_digits base n several bounded
  rw [← same, read_to_digits base m several bounded] at read
  exact Option.some.inj read

theorem read_onto_grows (base soFar value : Nat) (digits : List Char) (positive : 0 < base)
    (known : readOnto base soFar digits = some value) : soFar ≤ value := by
  induction digits generalizing soFar with
  | nil => exact Nat.le_of_eq (Option.some.inj known)
  | cons c rest ih =>
      cases found : inBase? base c with
      | none => simp [readOnto, found] at known
      | some digit =>
          have further : soFar * base + digit ≤ value := ih _ (by simpa only [readOnto, found] using known)
          have scaled : soFar ≤ soFar * base := Nat.le_mul_of_pos_right soFar positive
          omega

theorem read_onto_digit (base soFar value : Nat) (digits : List Char)
    (known : readOnto base soFar digits = some value) (c : Char) (member : c ∈ digits) : (inBase? base c).isSome := by
  induction digits generalizing soFar with
  | nil => simp at member
  | cons d rest ih =>
      cases found : inBase? base d with
      | none => simp [readOnto, found] at known
      | some digit =>
          rw [readOnto, found] at known
          rcases List.mem_cons.mp member with rfl | later
          · simp [found]
          · exact ih _ known later

theorem read_digit (base value : Nat) (digits : List Char) (known : read? base digits = some value) (c : Char)
    (member : c ∈ digits) : (inBase? base c).isSome := by
  cases digits with
  | nil => simp at member
  | cons d rest => exact read_onto_digit base 0 value (d :: rest) known c member

theorem decimal_digit (c : Char) (digit : Nat) (known : inBase? 10 c = some digit) :
    48 ≤ c.toNat ∧ c.toNat ≤ 57 ∧ digit = c.toNat - 48 := by
  simp only [inBase?, Option.filter_eq_some_iff, decide_eq_true_eq] at known
  obtain ⟨value, small⟩ := known
  unfold value? at value
  split at value
  · rename_i range
    have bounds : 48 ≤ c.toNat ∧ c.toNat ≤ 57 := range
    simp only [Option.some.injEq] at value
    omega
  · split at value
    · simp only [Option.some.injEq] at value
      omega
    · split at value
      · simp only [Option.some.injEq] at value
        omega
      · simp at value

theorem hex_digit (c : Char) (known : (inBase? 16 c).isSome) :
    48 ≤ c.toNat ∧ c.toNat ≤ 57 ∨ 97 ≤ c.toNat ∧ c.toNat ≤ 102 ∨ 65 ≤ c.toNat ∧ c.toNat ≤ 70 := by
  obtain ⟨digit, found⟩ := Option.isSome_iff_exists.mp known
  simp only [inBase?, Option.filter_eq_some_iff, decide_eq_true_eq] at found
  obtain ⟨value, -⟩ := found
  unfold value? at value
  split at value
  · rename_i range
    exact .inl range
  · split at value
    · rename_i range
      exact .inr (.inl range)
    · split at value
      · rename_i range
        exact .inr (.inr range)
      · simp at value

theorem hex_of_decimal (c : Char) (range : 48 ≤ c.toNat ∧ c.toNat ≤ 57) : (inBase? 16 c).isSome := by
  have digit : '0' ≤ c ∧ c ≤ '9' := range
  have small : c.toNat - 48 < 16 := by omega
  simp [inBase?, value?, digit, small]

theorem decimal_nonempty (n : Nat) : decimal n ≠ [] := Nat.toDigits_ne_nil

theorem decimal_char (n : Nat) (c : Char) (member : c ∈ decimal n) : 48 ≤ c.toNat ∧ c.toNat ≤ 57 := by
  have known := read_digit 10 n _ (read_to_digits 10 n (by decide) (by decide)) c member
  obtain ⟨digit, found⟩ := Option.isSome_iff_exists.mp known
  exact ⟨(decimal_digit c digit found).1, (decimal_digit c digit found).2.1⟩

theorem hex_char (n : Nat) (c : Char) (member : c ∈ hex n) : (inBase? 16 c).isSome :=
  read_digit 16 n _ (read_to_digits 16 n (by decide) (by decide)) c member

theorem digit_char_of_decimal (c : Char) (digit : Nat) (known : inBase? 10 c = some digit) :
    Nat.digitChar digit = c := by
  obtain ⟨low, high, value⟩ := decimal_digit c digit known
  apply Char.toNat_inj.mp
  rw [Nat.toNat_digitChar_of_lt_ten (by omega)]
  omega

theorem to_digits_snoc (soFar digit : Nat) (c : Char) (positive : 0 < soFar) (known : inBase? 10 c = some digit) :
    Nat.toDigits 10 soFar ++ [c] = Nat.toDigits 10 (soFar * 10 + digit) := by
  have small := in_base_bound 10 digit c known
  have joined := Nat.toDigits_append_toDigits (by decide : 1 < 10) positive small
  rwa [Nat.toDigits_of_lt_base small, digit_char_of_decimal c digit known, Nat.mul_comm] at joined

theorem read_onto_canonical (soFar n : Nat) (digits : List Char) (positive : 0 < soFar)
    (known : readOnto 10 soFar digits = some n) : Nat.toDigits 10 soFar ++ digits = Nat.toDigits 10 n := by
  induction digits generalizing soFar with
  | nil =>
      simp only [readOnto, Option.some.injEq] at known
      simp [known]
  | cons c rest ih =>
      cases found : inBase? 10 c with
      | none => simp [readOnto, found] at known
      | some digit =>
          rw [readOnto, found] at known
          -- Without a zero in front, a digit that is read is a digit at the end of the text.
          calc
            Nat.toDigits 10 soFar ++ c :: rest = (Nat.toDigits 10 soFar ++ [c]) ++ rest := by simp
            _ = Nat.toDigits 10 (soFar * 10 + digit) ++ rest := by rw [to_digits_snoc soFar digit c positive found]
            _ = Nat.toDigits 10 n := ih _ (by omega) known

-- A leading zero is the only freedom that decimal text has.
theorem read_canonical (n : Nat) (digits : List Char) (known : read? 10 digits = some n)
    (plain : digits.head? ≠ some '0' ∨ digits.length = 1) : digits = decimal n := by
  cases digits with
  | nil => simp [read?] at known
  | cons c rest =>
      cases found : inBase? 10 c with
      | none => simp [read?, readOnto, found] at known
      | some digit =>
          have small := in_base_bound 10 digit c found
          have first := digit_char_of_decimal c digit found
          have tail : readOnto 10 digit rest = some n := by simpa [read?, readOnto, found] using known
          by_cases zero : digit = 0
          · have head : c = '0' := by rw [← first, zero]; rfl
            have alone : rest = [] := by
              rcases plain with different | single
              · simp [head] at different
              · simpa using single
            subst alone
            simp only [readOnto, Option.some.injEq] at tail
            simp [decimal, ← tail, Nat.toDigits_of_lt_base small, first]
          · have joined := read_onto_canonical digit n rest (by omega) tail
            rw [Nat.toDigits_of_lt_base small, first] at joined
            simpa [decimal] using joined

end HostTools.Digits
