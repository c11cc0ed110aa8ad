import Mathlib
import HostTools.Proofs.Address.Ipv4

set_option autoImplicit false

namespace HostTools.Ipv6

theorem hex_short (group : UInt16) : (Digits.hex group.toNat).length ≤ 4 :=
  Nat.toDigits_length 16 group.toNat 4 (by decide) group.toNat_lt

theorem hex_no_colon (n : Nat) : ':' ∉ Digits.hex n := by
  intro member
  exact absurd (Digits.hex_char n ':' member) (by decide)

theorem group_hex (group : UInt16) : group? (Digits.hex group.toNat) = some group := by
  have read : Digits.read? 16 (Digits.hex group.toNat) = some group.toNat :=
    Digits.read_to_digits 16 group.toNat (by decide) (by decide)
  simp [group?, hex_short group, read]

theorem group_char (text : List Char) (group : UInt16) (known : group? text = some group) (c : Char)
    (member : c ∈ text) : (Digits.inBase? 16 c).isSome := by
  unfold group? at known
  split at known
  · obtain ⟨value, read, -⟩ := Option.map_eq_some_iff.mp known
    exact Digits.read_digit 16 value text read c member
  · simp at known

theorem hex_solid (groups : List UInt16) : Pieces.Solid ':' (groups.map fun group => Digits.hex group.toNat) := by
  intro piece member
  obtain ⟨group, -, rfl⟩ := List.mem_map.mp member
  exact ⟨Nat.toDigits_ne_nil, hex_no_colon group.toNat⟩

theorem split_colons (groups : List UInt16) (several : groups ≠ []) :
    Pieces.split ':' (colons groups) = groups.map fun group => Digits.hex group.toNat :=
  Pieces.split_intercalate ':' _ (by simpa using several) fun piece member => (hex_solid groups piece member).2

theorem cut_colons (groups : List UInt16) (back : List Char) :
    Pieces.cutDouble ':' (colons groups ++ ':' :: ':' :: back) = some (colons groups, back) :=
  Pieces.cut_double_joined ':' _ back (hex_solid groups)

theorem cut_colons_none (groups : List UInt16) : Pieces.cutDouble ':' (colons groups) = none :=
  Pieces.cut_double_none ':' _ (hex_solid groups)

theorem with_tail_hex (groups : List UInt16) :
    withTail? (groups.map fun group => Digits.hex group.toNat) = some groups := by
  induction groups with
  | nil => rfl
  | cons group groups ih =>
      cases groups with
      | nil => simp [withTail?, group_hex]
      | cons next groups =>
          rw [List.map_cons] at ih
          rw [List.map_cons, List.map_cons, withTail?, group_hex, ih]
          · rfl
          · simp

theorem colons_empty (groups : List UInt16) : colons groups = [] ↔ groups = [] := by
  constructor
  · intro empty
    by_contra several
    have split := split_colons groups several
    rw [empty] at split
    obtain ⟨group, more, rfl⟩ := List.exists_cons_of_ne_nil several
    have first : [] = Digits.hex group.toNat := (List.cons.inj split).1
    exact Nat.toDigits_ne_nil first.symm
  · rintro rfl
    rfl

theorem front_colons (groups : List UInt16) : front? (colons groups) = some groups := by
  by_cases several : groups = []
  · rw [several]
    rfl
  · rw [front?, split_colons groups several, Pieces.all_read_iff, List.forall₂_map_left_iff, List.forall₂_same]
    · exact fun group _ => group_hex group
    · simpa [colons_empty] using several

theorem back_colons (groups : List UInt16) : back? (colons groups) = some groups := by
  by_cases several : groups = []
  · rw [several]
    rfl
  · rw [back?, split_colons groups several, with_tail_hex]
    simpa [colons_empty] using several

theorem zeros_head (groups : List UInt16) : groups.take (zeros groups) = List.replicate (zeros groups) 0 := by
  induction groups with
  | nil => rfl
  | cons group rest ih =>
      by_cases zero : group = 0
      · simp [zeros, zero, ih, List.replicate_succ]
      · simp [zeros, zero]

theorem zeros_bound (groups : List UInt16) : zeros groups ≤ groups.length := by
  induction groups with
  | nil => rfl
  | cons group rest ih =>
      by_cases zero : group = 0
      · simpa [zeros, zero] using ih
      · simp [zeros, zero]

theorem longest_run_zeros (groups : List UInt16) :
    (longestRun groups).1 + (longestRun groups).2 ≤ groups.length ∧
      (groups.drop (longestRun groups).1).take (longestRun groups).2 = List.replicate (longestRun groups).2 0 := by
  induction groups with
  | nil => exact ⟨Nat.le_refl 0, rfl⟩
  | cons group rest ih =>
      by_cases longer : (longestRun rest).2 ≤ zeros (group :: rest)
      · simp only [longestRun, if_pos longer]
        exact ⟨by simpa using zeros_bound (group :: rest), zeros_head (group :: rest)⟩
      · simp only [longestRun, if_neg longer]
        refine ⟨?_, by simpa using ih.2⟩
        have bound := ih.1
        simp only [List.length_cons]
        omega

theorem longest_run_split (groups : List UInt16) :
    groups.take (longestRun groups).1 ++ List.replicate (longestRun groups).2 0 ++
      groups.drop ((longestRun groups).1 + (longestRun groups).2) = groups := by
  obtain ⟨-, zeros⟩ := longest_run_zeros groups
  rw [← zeros, ← List.drop_drop, List.append_assoc, List.take_append_drop, List.take_append_drop]

theorem of_groups_own (address : Ipv6) : ofGroups? address.groups = some address := by
  rw [ofGroups?, dif_pos address.eight]

theorem parse_render (address : Ipv6) : parse? address.render = some address := by
  obtain ⟨bound, -⟩ := longest_run_zeros address.groups
  have whole := longest_run_split address.groups
  have eight := address.eight
  unfold render
  dsimp only
  split
  · rename_i run
    -- Two colons stand for the longest run: what is written around them leaves room for just as many zeros.
    have front : (address.groups.take (longestRun address.groups).1).length = (longestRun address.groups).1 := by
      rw [List.length_take]
      omega
    have back : (address.groups.drop ((longestRun address.groups).1 + (longestRun address.groups).2)).length =
        8 - ((longestRun address.groups).1 + (longestRun address.groups).2) := by
      rw [List.length_drop, eight]
    have gap : 8 - ((longestRun address.groups).1 +
        (8 - ((longestRun address.groups).1 + (longestRun address.groups).2))) = (longestRun address.groups).2 := by
      omega
    simp only [parse?, cut_colons, front_colons, back_colons, front, back, gap, whole, of_groups_own]
    rw [if_pos (by omega)]
  · have several : address.groups ≠ [] := by
      intro empty
      simp [empty] at eight
    simp only [parse?, cut_colons_none, split_colons _ several, with_tail_hex, of_groups_own]

theorem colon_mem_render (address : Ipv6) : ':' ∈ address.render := by
  unfold render
  dsimp only
  split
  · simp
  · obtain ⟨a, b, rest, groups⟩ : ∃ a b rest, address.groups = a :: b :: rest := by
      have eight := address.eight
      match address.groups, eight with
      | a :: b :: rest, _ => exact ⟨a, b, rest, rfl⟩
    rw [groups, colons, List.map_cons, List.map_cons, Pieces.intercalate_cons _ _ _ (by simp)]
    simp

theorem with_tail_char (pieces : List (List Char)) (groups : List UInt16) (known : withTail? pieces = some groups)
    (piece : List Char) (member : piece ∈ pieces) (c : Char) (inside : c ∈ piece) :
    c = '.' ∨ (Digits.inBase? 16 c).isSome := by
  fun_induction withTail? pieces generalizing groups with
  | case1 => simp at member
  | case2 last group found =>
      rw [List.mem_singleton.mp member] at inside
      exact .inr (group_char last group found c inside)
  | case3 last missing =>
      obtain ⟨address, found, -⟩ := Option.map_eq_some_iff.mp known
      rw [List.mem_singleton.mp member, (Ipv4.parse_iff last address).mp found] at inside
      exact (Ipv4.render_char address c inside).imp_right (Digits.hex_of_decimal c)
  | case4 first more several group found ih =>
      obtain ⟨rest, read, -⟩ := Option.map_eq_some_iff.mp known
      rcases List.mem_cons.mp member with rfl | later
      · exact .inr (group_char piece group found c inside)
      · exact ih rest read later
  | case5 => simp at known

theorem front_char (text : List Char) (groups : List UInt16) (known : front? text = some groups) (c : Char)
    (member : c ∈ text) (other : c ≠ ':') : (Digits.inBase? 16 c).isSome := by
  obtain ⟨piece, found, inside⟩ := Pieces.mem_split ':' c text member other
  rw [front?] at known
  · obtain ⟨group, -, read⟩ := Pieces.all_read_item group? _ groups piece known found
    exact group_char piece group read c inside
  · exact List.ne_nil_of_mem member

theorem back_char (text : List Char) (groups : List UInt16) (known : back? text = some groups) (c : Char)
    (member : c ∈ text) (other : c ≠ ':') : c = '.' ∨ (Digits.inBase? 16 c).isSome := by
  obtain ⟨piece, found, inside⟩ := Pieces.mem_split ':' c text member other
  rw [back?] at known
  · exact with_tail_char _ groups known piece found c inside
  · exact List.ne_nil_of_mem member

theorem parse_char (text : List Char) (address : Ipv6) (known : parse? text = some address) (c : Char)
    (member : c ∈ text) : c = ':' ∨ c = '.' ∨ (Digits.inBase? 16 c).isSome := by
  by_cases colon : c = ':'
  · exact .inl colon
  · right
    unfold parse? at known
    split at known
    · split at known
      · rename_i groups read
        obtain ⟨piece, found, inside⟩ := Pieces.mem_split ':' c text member colon
        exact with_tail_char _ groups read piece found c inside
      · simp at known
    · rename_i left right cut
      split at known
      · rename_i front back frontRead backRead
        rw [Pieces.cut_double_text ':' text left right cut] at member
        simp only [List.mem_append, List.mem_cons, colon, false_or] at member
        rcases member with before | after
        · exact .inr (front_char left front frontRead c before colon)
        · exact back_char right back backRead c after colon
      · simp at known

end HostTools.Ipv6
