import Mathlib
import HostTools.Address.Basic
import HostTools.Proofs.Text.Digits
import HostTools.Proofs.Text.Pieces

set_option autoImplicit false

namespace HostTools.Ipv4

theorem decimal_short (byte : UInt8) : (Digits.decimal byte.toNat).length ≤ 3 := by
  have bound := byte.toNat_lt
  exact Nat.toDigits_length 10 byte.toNat 3 (by decide) (by omega)

theorem decimal_no_dot (n : Nat) : '.' ∉ Digits.decimal n := by
  intro member
  exact absurd (Digits.decimal_char n '.' member) (by decide)

-- A zero in front is written for the number zero only.
theorem decimal_plain (n : Nat) : (Digits.decimal n).head? ≠ some '0' ∨ (Digits.decimal n).length = 1 := by
  by_cases zero : n = 0
  · exact .inr (by rw [zero]; rfl)
  · left
    induction n using Nat.strongRecOn with
    | ind n ih =>
        by_cases small : n < 10
        · rw [Digits.decimal, Nat.toDigits_of_lt_base small]
          interval_cases n
          · exact absurd rfl zero
          all_goals decide
        · have quotient : n / 10 < n := Nat.div_lt_self (by omega) (by decide)
          have front := ih (n / 10) quotient (by omega)
          rw [Digits.decimal, Nat.toDigits_of_base_le (by decide) (by omega), List.head?_append]
          rw [Digits.decimal] at front
          cases known : (Nat.toDigits 10 (n / 10)).head? with
          | none => exact absurd (List.head?_eq_none_iff.mp known) Nat.toDigits_ne_nil
          | some c => simpa [known] using front

theorem octet_iff (text : List Char) (byte : UInt8) : octet? text = some byte ↔ text = Digits.decimal byte.toNat := by
  have bound := byte.toNat_lt
  constructor
  · intro known
    unfold octet? at known
    split at known
    · rename_i plain
      split at known
      · rename_i value found
        split at known
        · rename_i small
          have same : byte.toNat = value := by
            rw [← Option.some.inj known]
            exact UInt8.toNat_ofNat_of_lt' (by simp only [UInt8.size]; omega)
          rw [same]
          exact Digits.read_canonical value text found plain.2
        · simp at known
      · simp at known
    · simp at known
  · rintro rfl
    have read : Digits.read? 10 (Digits.decimal byte.toNat) = some byte.toNat :=
      Digits.read_to_digits 10 byte.toNat (by decide) (by decide)
    rw [octet?, if_pos ⟨decimal_short byte, decimal_plain byte.toNat⟩, read]
    simp only [if_pos (show byte.toNat ≤ 255 by omega), UInt8.ofNat_toNat]

def pieces (address : Ipv4) : List (List Char) :=
  [address.a, address.b, address.c, address.d].map fun byte => Digits.decimal byte.toNat

theorem render_eq (address : Ipv4) : address.render = List.intercalate ['.'] address.pieces := by
  simp [render, pieces, List.intercalate]

theorem split_render (address : Ipv4) : Pieces.split '.' address.render = address.pieces := by
  rw [render_eq]
  apply Pieces.split_intercalate
  · simp [pieces]
  · intro piece member
    obtain ⟨byte, -, rfl⟩ := List.mem_map.mp member
    exact decimal_no_dot byte.toNat

theorem parse_iff (text : List Char) (address : Ipv4) : parse? text = some address ↔ text = address.render := by
  constructor
  · intro known
    unfold parse? at known
    split at known
    · rename_i a b c d found
      have address_eq : address = ⟨a, b, c, d⟩ := (Option.some.inj known).symm
      have texts : List.Forall₂ (fun piece byte => piece = Digits.decimal byte.toNat) (Pieces.split '.' text)
          [a, b, c, d] := by
        simpa only [octet_iff] using (Pieces.all_read_iff _ _ _).mp found
      have split : Pieces.split '.' text = address.pieces := by
        rw [address_eq, pieces, ← List.forall₂_eq_eq_eq, List.forall₂_map_right_iff]
        exact texts
      rw [render_eq, ← split, Pieces.intercalate_split]
    · simp at known
  · rintro rfl
    have octets : (Pieces.split '.' address.render).mapM octet? = some [address.a, address.b, address.c, address.d] := by
      rw [Pieces.all_read_iff, split_render, pieces, List.forall₂_map_left_iff, List.forall₂_same]
      exact fun byte _ => (octet_iff _ byte).mpr rfl
    simp [parse?, octets]

theorem render_char (address : Ipv4) (c : Char) (member : c ∈ address.render) :
    c = '.' ∨ 48 ≤ c.toNat ∧ c.toNat ≤ 57 := by
  by_cases dot : c = '.'
  · exact .inl dot
  · obtain ⟨piece, inside, found⟩ := Pieces.mem_split '.' c _ member dot
    rw [split_render] at inside
    obtain ⟨byte, -, rfl⟩ := List.mem_map.mp inside
    exact .inr (Digits.decimal_char _ c found)

end HostTools.Ipv4
