import Mathlib
import HostTools.Url.Host
import HostTools.Proofs.Address.Ipv4
import HostTools.Proofs.Address.Ipv6
import HostTools.Proofs.Domain.Ascii
import HostTools.Proofs.Url.Literal

set_option autoImplicit false

namespace HostTools

namespace Ipv4

theorem of_nat_to_nat (address : Ipv4) : ofNat address.toNat = address := by
  rcases address with ⟨a, b, c, d⟩
  have aBound := a.toNat_lt
  have bBound := b.toNat_lt
  have cBound := c.toNat_lt
  have dBound := d.toNat_lt
  simp only [ofNat, toNat, mk.injEq, ← UInt8.toNat_inj, UInt8.toNat_ofNat', Nat.pow_eq]
  omega

end Ipv4

namespace Host

theorem part_decimal (byte : UInt8) : part (Digits.decimal byte.toNat) = .value byte.toNat := by
  have bound := byte.toNat_lt
  have base : partDigits (Digits.decimal byte.toNat) = (10, Digits.decimal byte.toNat) := by
    have plain := Ipv4.decimal_plain byte.toNat
    unfold partDigits
    split <;> simp_all
  have read : Digits.readOnto 10 0 (Digits.decimal byte.toNat) = some byte.toNat :=
    Digits.read_onto_to_digits 10 byte.toNat (by decide) (by decide)
  rw [part, if_neg (Digits.decimal_nonempty _), base]
  simp only [read]
  rw [if_pos (Nat.lt_trans bound (by decide))]

theorem labels_render (address : Ipv4) : labels address.render = address.pieces := by
  have last : address.pieces.getLast? ≠ some [] := by
    intro empty
    exact absurd (Option.some.inj empty) (Digits.decimal_nonempty _)
  simp only [labels, Ipv4.split_render, if_neg last]

theorem ends_in_number_render (address : Ipv4) : endsInNumber address.render = true := by
  have last : address.pieces.getLast? = some (Digits.decimal address.d.toNat) := rfl
  simp only [endsInNumber, labels_render, last, part_decimal]
  simp

theorem ipv4_render (address : Ipv4) : ipv4? address.render = some address := by
  have values : values? (address.pieces.map part) =
      some [address.a.toNat, address.b.toNat, address.c.toNat, address.d.toNat] := by
    simp only [Ipv4.pieces, List.map_cons, List.map_nil, part_decimal, values?, Option.map_some]
  have combined : combine? 4 [address.a.toNat, address.b.toNat, address.c.toNat, address.d.toNat] =
      some address.toNat := by
    have small : ∀ byte : UInt8, byte.toNat ≤ 255 := fun byte => Nat.le_of_lt_succ byte.toNat_lt
    simp only [combine?, small, if_true, if_pos (show address.d.toNat < Nat.pow 256 (4 - 1 - 1 - 1) from address.d.toNat_lt),
      Option.map_some, Ipv4.toNat, Option.some.injEq, Nat.pow_eq]
    omega
  rw [ipv4?, labels_render, if_neg (by simp [Ipv4.pieces]), values]
  simp only [combined, Option.map_some, Ipv4.of_nat_to_nat]

theorem domain_render (address : Ipv4) : domain? address.render = some address.render := by
  have digit : ∀ c : Char, 48 ≤ c.toNat ∧ c.toNat ≤ 57 → Domain.IsPlain c := by
    rintro c ⟨lower, upper⟩
    rw [← Char.ofNat_toNat c]
    generalize c.toNat = n at lower upper
    interval_cases n <;> exact ⟨by decide, by decide, by decide⟩
  apply domain_plain
  · intro c member
    rcases Ipv4.render_char address c member with rfl | range
    · exact ⟨by decide, by decide, by decide⟩
    · exact digit c range
  · intro label member
    rw [Ipv4.split_render] at member
    obtain ⟨byte, -, rfl⟩ := List.mem_map.mp member
    obtain ⟨c, rest, shape⟩ := List.exists_cons_of_ne_nil (Digits.decimal_nonempty byte.toNat)
    have other : c ≠ 'x' := by
      rintro rfl
      exact absurd (Digits.decimal_char byte.toNat 'x' (by simp [shape])) (by decide)
    simp [shape, Label.mark, List.isPrefixOf, Ne.symm other]

theorem parse_ipv4 (address : Ipv4) : parse address.render = .ok (.ipv4 address) := by
  have present : address.render ≠ [] := by simp [Ipv4.render]
  unfold parse
  split
  · rename_i inner shape
    have range := Ipv4.render_char address '[' (by simp [shape])
    exact absurd range (by decide)
  · rw [domain_render]
    obtain ⟨c, rest, shape⟩ := List.exists_cons_of_ne_nil present
    simp only [shape]
    rw [← shape, if_pos (ends_in_number_render address), ipv4_render]

theorem parse_ipv6 (text : List Char) (address : Ipv6) (known : Ipv6.parse? text = some address) :
    parse ('[' :: text ++ [']']) = .ok (.ipv6 address) := by
  have inside : bracketed? (text ++ [']']) = some address := by
    rw [bracketed?, if_pos (by simp), List.dropLast_concat, Literal.parse_eq, known]
  simp only [parse, List.cons_append, inside]

def family? : Host → Option Family
  | .domain _ => none
  | .ipv4 _ => some .ipv4
  | .ipv6 _ => some .ipv6

def bare (host : Host) : String := String.ofList (host.render.filter fun c => c ≠ '[' && c ≠ ']')

end Host

namespace Address

def host? (text : String) : Option Host :=
  match Ipv4.parse? text.toList with
  | some address => some (.ipv4 address)
  | none => (Ipv6.parse? text.toList).map .ipv6

theorem classify_eq (text : String) : classify text = (host? text).bind Host.family? := by
  cases four : Ipv4.parse? text.toList with
  | some address => simp [classify, host?, four, Host.family?]
  | none => cases six : Ipv6.parse? text.toList <;> simp [classify, host?, four, six, Host.family?]

theorem host_cases (text : String) (host : Host) (denotes : host? text = some host) :
    (∃ address, host = .ipv4 address ∧ text.toList = address.render) ∨
      ∃ address, host = .ipv6 address ∧ Ipv6.parse? text.toList = some address := by
  cases four : Ipv4.parse? text.toList with
  | some address =>
      simp only [host?, four, Option.some.injEq] at denotes
      exact .inl ⟨address, denotes.symm, (Ipv4.parse_iff _ address).mp four⟩
  | none =>
      simp only [host?, four] at denotes
      obtain ⟨address, six, same⟩ := Option.map_eq_some_iff.mp denotes
      exact .inr ⟨address, same.symm, six⟩

def IsWritten (c : Char) : Prop := c = ':' ∨ c = '.' ∨ (Digits.inBase? 16 c).isSome

instance : DecidablePred IsWritten := fun c => inferInstanceAs (Decidable (c = ':' ∨ c = '.' ∨ _))

theorem written_ipv4 (address : Ipv4) (c : Char) (member : c ∈ address.render) : IsWritten c :=
  .inr ((Ipv4.render_char address c member).imp_right (Digits.hex_of_decimal c))

theorem host_written (text : String) (host : Host) (denotes : host? text = some host) (c : Char)
    (member : c ∈ text.toList) : IsWritten c := by
  rcases host_cases text host denotes with ⟨address, -, shape⟩ | ⟨address, -, six⟩
  · exact written_ipv4 address c (shape ▸ member)
  · exact Ipv6.parse_char _ address six c member

theorem written_filter (text : List Char) (written : ∀ c ∈ text, IsWritten c) :
    text.filter (fun c => c ≠ '[' && c ≠ ']') = text := by
  apply List.filter_eq_self.mpr
  intro c member
  have noOpening : c ≠ '[' := fun same => absurd (same ▸ written c member) (by decide)
  have noClosing : c ≠ ']' := fun same => absurd (same ▸ written c member) (by decide)
  simp [noOpening, noClosing]

theorem bare_ipv4 (address : Ipv4) : (Host.ipv4 address).bare = String.ofList address.render := by
  rw [Host.bare, Host.render, written_filter _ (written_ipv4 address)]

theorem bare_ipv6 (address : Ipv6) : (Host.ipv6 address).bare = String.ofList address.render := by
  have inside := written_filter _ (Ipv6.parse_char _ address (Ipv6.parse_render address))
  rw [Host.bare, Host.render, List.filter_append, List.filter_cons_of_neg (by decide), inside]
  simp

-- The text of an IPv6 address has a colon, so it is none of an IPv4 address.
theorem host_bare (text : String) (host : Host) (denotes : host? text = some host) : host? host.bare = some host := by
  rcases host_cases text host denotes with ⟨address, rfl, -⟩ | ⟨address, rfl, -⟩
  · have four : Ipv4.parse? address.render = some address := (Ipv4.parse_iff _ address).mpr rfl
    simp [host?, bare_ipv4, four]
  · have four : Ipv4.parse? address.render = none :=
      Literal.parse_other _ ':' (Ipv6.colon_mem_render address) (by decide) (by decide)
    simp [host?, bare_ipv6, four, Ipv6.parse_render]

end Address

end HostTools
