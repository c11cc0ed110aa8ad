import Mathlib
import HostTools.Proofs.Address.Ipv6

set_option autoImplicit false

namespace HostTools

namespace Digits

theorem in_base_ten (c : Char) (digit : '0' ≤ c ∧ c ≤ '9') : inBase? 10 c = some (c.toNat - '0'.toNat) := by
  have high : c.toNat ≤ 57 := digit.2
  have zero : '0'.toNat = 48 := rfl
  have small : c.toNat - 48 < 10 := by omega
  simp [inBase?, value?, digit, zero, small]

theorem read_onto_decimal (soFar : Nat) (text : List Char) (digits : ∀ c ∈ text, '0' ≤ c ∧ c ≤ '9') :
    readOnto 10 soFar text = some (Nat.ofDigitChars 10 text soFar) := by
  induction text generalizing soFar with
  | nil => rfl
  | cons c rest ih =>
      rw [readOnto, in_base_ten c (digits c List.mem_cons_self), Nat.ofDigitChars_cons, Nat.mul_comm]
      exact ih _ fun d member => digits d (List.mem_cons_of_mem c member)

theorem read_decimal (text : List Char) (present : text ≠ []) (digits : ∀ c ∈ text, '0' ≤ c ∧ c ≤ '9') :
    read? 10 text = some (Nat.ofDigitChars 10 text 0) := by
  rw [read?]
  · exact read_onto_decimal 0 text digits
  · exact present

theorem read_onto_some (base soFar : Nat) (text : List Char) (digits : ∀ c ∈ text, (inBase? base c).isSome = true) :
    ∃ value, readOnto base soFar text = some value := by
  induction text generalizing soFar with
  | nil => exact ⟨soFar, rfl⟩
  | cons c rest ih =>
      obtain ⟨digit, known⟩ := Option.isSome_iff_exists.mp (digits c List.mem_cons_self)
      obtain ⟨value, read⟩ := ih (soFar * base + digit) fun d member => digits d (List.mem_cons_of_mem c member)
      exact ⟨value, by simp [readOnto, known, read]⟩

end Digits

namespace Ipv4

structure IsOctet (text : List Char) : Prop where
  present : 1 ≤ text.length
  short : text.length ≤ 3
  digits : ∀ c ∈ text, '0' ≤ c ∧ c ≤ '9'
  plain : text.head? = some '0' → text = ['0']
  small : Nat.ofDigitChars 10 text 0 ≤ 255

def Dotted (text : List Char) : Prop :=
  ∃ a b c d, IsOctet a ∧ IsOctet b ∧ IsOctet c ∧ IsOctet d ∧ text = a ++ '.' :: b ++ '.' :: c ++ '.' :: d

theorem decimal_is_octet (byte : UInt8) : IsOctet (Digits.decimal byte.toNat) := by
  have bound := byte.toNat_lt
  refine ⟨?_, decimal_short byte, Digits.decimal_char byte.toNat, ?_, ?_⟩
  · exact List.length_pos_iff.mpr (Digits.decimal_nonempty byte.toNat)
  · intro zero
    rcases decimal_plain byte.toNat with other | single
    · exact absurd zero other
    · obtain ⟨c, shape⟩ := List.length_eq_one_iff.mp single
      rw [shape] at zero ⊢
      simpa using zero
  · rw [Digits.decimal, Nat.ofDigitChars_ten_toDigits]
    omega

theorem octet_written (text : List Char) (octet : IsOctet text) :
    ∃ byte : UInt8, text = Digits.decimal byte.toNat := by
  have present : text ≠ [] := List.length_pos_iff.mp octet.present
  have plain : text.head? ≠ some '0' ∨ text.length = 1 := by
    by_cases zero : text.head? = some '0'
    · exact .inr (by rw [octet.plain zero]; rfl)
    · exact .inl zero
  refine ⟨UInt8.ofNat (Nat.ofDigitChars 10 text 0), (octet_iff text _).mp ?_⟩
  simp only [octet?, if_pos (And.intro octet.short plain), Digits.read_decimal text present octet.digits,
    if_pos octet.small]

theorem parse_dotted (text : List Char) : (parse? text).isSome = true ↔ Dotted text := by
  constructor
  · intro known
    obtain ⟨address, read⟩ := Option.isSome_iff_exists.mp known
    exact ⟨_, _, _, _, decimal_is_octet address.a, decimal_is_octet address.b, decimal_is_octet address.c,
      decimal_is_octet address.d, (parse_iff text address).mp read⟩
  · rintro ⟨_, _, _, _, first, second, third, fourth, rfl⟩
    obtain ⟨a, rfl⟩ := octet_written _ first
    obtain ⟨b, rfl⟩ := octet_written _ second
    obtain ⟨c, rfl⟩ := octet_written _ third
    obtain ⟨d, rfl⟩ := octet_written _ fourth
    exact Option.isSome_iff_exists.mpr ⟨⟨a, b, c, d⟩, (parse_iff _ _).mpr rfl⟩

theorem dotted_char (text : List Char) (dotted : Dotted text) (c : Char) (member : c ∈ text) :
    c = '.' ∨ 48 ≤ c.toNat ∧ c.toNat ≤ 57 := by
  obtain ⟨address, read⟩ := Option.isSome_iff_exists.mp ((parse_dotted text).mpr dotted)
  rw [(parse_iff text address).mp read] at member
  exact render_char address c member

theorem dotted_no_colon (text : List Char) (dotted : Dotted text) : ':' ∉ text := by
  intro member
  exact absurd (dotted_char text dotted ':' member) (by decide)

theorem dotted_dot (text : List Char) (dotted : Dotted text) : '.' ∈ text := by
  obtain ⟨a, b, c, d, -, -, -, -, rfl⟩ := dotted
  simp

end Ipv4

namespace Ipv6

def IsHexDigit (c : Char) : Prop := '0' ≤ c ∧ c ≤ '9' ∨ 'a' ≤ c ∧ c ≤ 'f' ∨ 'A' ≤ c ∧ c ≤ 'F'

structure IsGroup (text : List Char) : Prop where
  present : 1 ≤ text.length
  short : text.length ≤ 4
  digits : ∀ c ∈ text, IsHexDigit c

-- Where a tail is allowed, a dotted text may end the groups and counts for two.
inductive Groups (tail : Bool) : Nat → List Char → Prop
  | group {text : List Char} (last : IsGroup text) : Groups tail 1 text
  | dotted {text : List Char} (allowed : tail = true) (last : Ipv4.Dotted text) : Groups tail 2 text
  | more {count : Nat} {first rest : List Char} (group : IsGroup first) (others : Groups tail count rest) :
      Groups tail (count + 1) (first ++ ':' :: rest)

def Side (tail : Bool) (count : Nat) (text : List Char) : Prop := count = 0 ∧ text = [] ∨ Groups tail count text

def doubles (text : List Char) : Nat := (text.zip text.tail).count (':', ':')

-- Eight groups, or at most seven around the only double colon. A dotted tail stands at the very end.
def Coloned (text : List Char) : Prop :=
  Groups true 8 text ∨
    doubles text = 1 ∧ ∃ before after left right, before + after ≤ 7 ∧ Side false before left ∧
      Side true after right ∧ text = left ++ ':' :: ':' :: right

theorem hex_digit_iff (c : Char) : (Digits.inBase? 16 c).isSome = true ↔ IsHexDigit c := by
  constructor
  · exact Digits.hex_digit c
  · rintro (decimal | lower | upper)
    · exact Digits.hex_of_decimal c decimal
    · have bounds : 97 ≤ c.toNat ∧ c.toNat ≤ 102 := lower
      have other : ¬ ('0' ≤ c ∧ c ≤ '9') := by
        rintro ⟨-, high⟩
        have high : c.toNat ≤ 57 := high
        omega
      have small : c.toNat - 97 + 10 < 16 := by omega
      simp [Digits.inBase?, Digits.value?, other, lower, small]
    · have bounds : 65 ≤ c.toNat ∧ c.toNat ≤ 70 := upper
      have other : ¬ ('0' ≤ c ∧ c ≤ '9') := by
        rintro ⟨-, high⟩
        have high : c.toNat ≤ 57 := high
        omega
      have another : ¬ ('a' ≤ c ∧ c ≤ 'f') := by
        rintro ⟨low, -⟩
        have low : 97 ≤ c.toNat := low
        omega
      have small : c.toNat - 65 + 10 < 16 := by omega
      simp [Digits.inBase?, Digits.value?, other, another, upper, small]

theorem group_grammar (text : List Char) : (∃ group, group? text = some group) ↔ IsGroup text := by
  constructor
  · rintro ⟨group, known⟩
    have digits := group_char text group known
    unfold group? at known
    split at known
    · rename_i short
      refine ⟨?_, short, fun c member => (hex_digit_iff c).mp (digits c member)⟩
      cases text with
      | nil => simp [Digits.read?] at known
      | cons c rest => simp
    · simp at known
  · rintro ⟨present, short, digits⟩
    obtain ⟨value, read⟩ := Digits.read_onto_some 16 0 text fun c member => (hex_digit_iff c).mpr (digits c member)
    refine ⟨UInt16.ofNat value, ?_⟩
    rw [group?, if_pos short, Digits.read?, read]
    · rfl
    · exact List.length_pos_iff.mp present

theorem hex_digit_apart (c : Char) (digit : IsHexDigit c) : c ≠ ':' ∧ c ≠ '.' := by
  constructor <;> rintro rfl <;> exact absurd digit (by unfold IsHexDigit; decide)

theorem group_no_colon (text : List Char) (group : IsGroup text) : ':' ∉ text :=
  fun member => (hex_digit_apart ':' (group.digits ':' member)).1 rfl

-- The dot keeps the two readings of the last piece apart.
theorem dotted_no_group (text : List Char) (dotted : Ipv4.Dotted text) : group? text = none := by
  cases known : group? text with
  | none => rfl
  | some group =>
      have digits := ((group_grammar text).mp ⟨group, known⟩).digits
      exact absurd rfl (hex_digit_apart '.' (digits '.' (Ipv4.dotted_dot text dotted))).2

theorem groups_present (tail : Bool) (count : Nat) (text : List Char) (groups : Groups tail count text) :
    text ≠ [] := by
  cases groups with
  | group last => exact List.length_pos_iff.mp last.present
  | dotted _ last => exact List.ne_nil_of_mem (Ipv4.dotted_dot text last)
  | more => simp

theorem groups_head (tail : Bool) (count : Nat) (text : List Char) (groups : Groups tail count text) :
    text.head? ≠ some ':' := by
  have ahead : ∀ front rest : List Char, front ≠ [] → ':' ∉ front → (front ++ rest).head? ≠ some ':' := by
    intro front rest present absent
    obtain ⟨c, more, rfl⟩ := List.exists_cons_of_ne_nil present
    simpa using Ne.symm (List.ne_and_not_mem_of_not_mem_cons absent).1
  cases groups with
  | group last =>
      simpa using ahead text [] (List.length_pos_iff.mp last.present) (group_no_colon text last)
  | dotted _ last =>
      simpa using ahead text [] (List.ne_nil_of_mem (Ipv4.dotted_dot text last)) (Ipv4.dotted_no_colon text last)
  | more group others => exact ahead _ _ (List.length_pos_iff.mp group.present) (group_no_colon _ group)

theorem groups_solid (tail : Bool) (count : Nat) (text : List Char) (groups : Groups tail count text) :
    Pieces.Solid ':' (Pieces.split ':' text) := by
  induction groups with
  | group last =>
      rw [Pieces.split_whole _ _ (group_no_colon _ last)]
      simpa [Pieces.Solid] using And.intro (List.length_pos_iff.mp last.present) (group_no_colon _ last)
  | dotted _ last =>
      have absent := Ipv4.dotted_no_colon _ last
      rw [Pieces.split_whole _ _ absent]
      simpa [Pieces.Solid] using And.intro (List.ne_nil_of_mem (Ipv4.dotted_dot _ last)) absent
  | more group _ ih =>
      have absent := group_no_colon _ group
      rw [Pieces.split_append _ _ _ absent]
      intro piece member
      rcases List.mem_cons.mp member with rfl | later
      · exact ⟨List.length_pos_iff.mp group.present, absent⟩
      · exact ih piece later

theorem with_tail_joined (pieces : List (List Char)) (groups : List UInt16) (several : pieces ≠ [])
    (known : withTail? pieces = some groups) : Groups true groups.length (List.intercalate [':'] pieces) := by
  fun_induction withTail? pieces generalizing groups with
  | case1 => exact absurd rfl several
  | case2 last group found =>
      obtain rfl := Option.some.inj known
      simpa [List.intercalate] using Groups.group ((group_grammar last).mp ⟨group, found⟩)
  | case3 last missing =>
      obtain ⟨address, found, rfl⟩ := Option.map_eq_some_iff.mp known
      have dotted : Ipv4.Dotted last := (Ipv4.parse_dotted last).mp (by simp [found])
      simpa [List.intercalate, Ipv4.groups] using Groups.dotted rfl dotted
  | case4 first more later group found ih =>
      obtain ⟨rest, read, rfl⟩ := Option.map_eq_some_iff.mp known
      rw [Pieces.intercalate_cons _ _ _ later]
      exact .more ((group_grammar first).mp ⟨group, found⟩) (ih rest later read)
  | case5 => simp at known

theorem groups_joined (pieces : List (List Char)) (groups : List UInt16) (several : pieces ≠ [])
    (known : pieces.mapM group? = some groups) : Groups false groups.length (List.intercalate [':'] pieces) := by
  induction (Pieces.all_read_iff group? pieces groups).mp known with
  | nil => exact absurd rfl several
  | @cons first group more others found rest ih =>
      have here := (group_grammar first).mp ⟨group, found⟩
      cases rest with
      | nil => simpa [List.intercalate] using (Groups.group here : Groups false 1 first)
      | cons next later =>
          rw [Pieces.intercalate_cons _ _ _ (by simp)]
          exact .more here (ih (by simp) ((Pieces.all_read_iff group? _ _).mpr (.cons next later)))

theorem with_tail_grammar (count : Nat) (text : List Char) :
    (∃ groups, withTail? (Pieces.split ':' text) = some groups ∧ groups.length = count) ↔ Groups true count text := by
  constructor
  · rintro ⟨groups, known, rfl⟩
    have joined := with_tail_joined _ groups (Pieces.split_nonempty ':' text) known
    rwa [Pieces.intercalate_split] at joined
  · intro grammar
    -- Reading splits at every colon, the grammar at the first, so the induction is on the grammar.
    induction grammar with
    | group last =>
        obtain ⟨group, known⟩ := (group_grammar _).mpr last
        rw [Pieces.split_whole _ _ (group_no_colon _ last)]
        exact ⟨[group], by simp [withTail?, known], rfl⟩
    | dotted _ last =>
        obtain ⟨address, known⟩ := Option.isSome_iff_exists.mp ((Ipv4.parse_dotted _).mpr last)
        rw [Pieces.split_whole _ _ (Ipv4.dotted_no_colon _ last)]
        exact ⟨address.groups, by simp [withTail?, dotted_no_group _ last, known], rfl⟩
    | more group _ ih =>
        obtain ⟨value, known⟩ := (group_grammar _).mpr group
        obtain ⟨groups, read, rfl⟩ := ih
        refine ⟨value :: groups, ?_, rfl⟩
        rw [Pieces.split_append _ _ _ (group_no_colon _ group), withTail?, known, read]
        · rfl
        · exact Pieces.split_nonempty ':' _

theorem groups_grammar (count : Nat) (text : List Char) :
    (∃ groups, (Pieces.split ':' text).mapM group? = some groups ∧ groups.length = count) ↔
      Groups false count text := by
  constructor
  · rintro ⟨groups, known, rfl⟩
    have joined := groups_joined _ groups (Pieces.split_nonempty ':' text) known
    rwa [Pieces.intercalate_split] at joined
  · intro grammar
    induction grammar with
    | group last =>
        obtain ⟨group, known⟩ := (group_grammar _).mpr last
        rw [Pieces.split_whole _ _ (group_no_colon _ last)]
        exact ⟨[group], by simp [known], rfl⟩
    | dotted allowed => simp at allowed
    | more group _ ih =>
        obtain ⟨value, known⟩ := (group_grammar _).mpr group
        obtain ⟨groups, read, rfl⟩ := ih
        refine ⟨value :: groups, ?_, rfl⟩
        rw [Pieces.split_append _ _ _ (group_no_colon _ group), List.mapM_cons, known, read]
        rfl

theorem front_grammar (count : Nat) (text : List Char) :
    (∃ groups, front? text = some groups ∧ groups.length = count) ↔ Side false count text := by
  cases text with
  | nil =>
      have absent : ¬ Groups false count [] := fun groups => groups_present _ _ _ groups rfl
      simp [front?, Side, absent, eq_comm]
  | cons c rest => simpa [front?, Side] using groups_grammar count (c :: rest)

theorem back_grammar (count : Nat) (text : List Char) :
    (∃ groups, back? text = some groups ∧ groups.length = count) ↔ Side true count text := by
  cases text with
  | nil =>
      have absent : ¬ Groups true count [] := fun groups => groups_present _ _ _ groups rfl
      simp [back?, Side, absent, eq_comm]
  | cons c rest => simpa [back?, Side] using with_tail_grammar count (c :: rest)

theorem doubles_other (c : Char) (text : List Char) (other : c ≠ ':') : doubles (c :: text) = doubles text := by
  cases text with
  | nil => rfl
  | cons d rest => simp [doubles, other]

theorem doubles_single (text : List Char) (single : text.head? ≠ some ':') : doubles (':' :: text) = doubles text := by
  cases text with
  | nil => rfl
  | cons d rest =>
      have other : d ≠ ':' := by simpa using single
      simp [doubles, other]

theorem doubles_piece (piece text : List Char) (absent : ':' ∉ piece) : doubles (piece ++ text) = doubles text := by
  induction piece with
  | nil => rfl
  | cons c rest ih =>
      obtain ⟨different, later⟩ := List.ne_and_not_mem_of_not_mem_cons absent
      rw [List.cons_append, doubles_other _ _ (Ne.symm different), ih later]

-- No group is empty, so neither inside nor at an end of groups is there a double colon.
theorem doubles_groups (tail : Bool) (count : Nat) (text after : List Char) (groups : Groups tail count text) :
    doubles (text ++ after) = doubles after := by
  induction groups with
  | group last => exact doubles_piece _ _ (group_no_colon _ last)
  | dotted _ last => exact doubles_piece _ _ (Ipv4.dotted_no_colon _ last)
  | @more count first rest group others ih =>
      have head : (rest ++ after).head? ≠ some ':' := by
        have own := groups_head _ _ _ others
        obtain ⟨c, more, rfl⟩ := List.exists_cons_of_ne_nil (groups_present _ _ _ others)
        simpa using own
      rw [List.append_assoc, List.cons_append, doubles_piece _ _ (group_no_colon _ group), doubles_single _ head, ih]

theorem doubles_gap (before after : Nat) (left right : List Char) (front : Side false before left)
    (back : Side true after right) : doubles (left ++ ':' :: ':' :: right) = 1 := by
  have pair : doubles (':' :: ':' :: right) = doubles (':' :: right) + 1 := by simp [doubles]
  have single : doubles (':' :: right) = 0 := by
    rcases back with ⟨-, rfl⟩ | groups
    · rfl
    · rw [doubles_single _ (groups_head _ _ _ groups)]
      simpa [doubles] using doubles_groups _ _ _ [] groups
  rcases front with ⟨-, rfl⟩ | groups
  · rw [List.nil_append, pair, single]
  · rw [doubles_groups _ _ _ _ groups, pair, single]

theorem cut_side (count : Nat) (left right : List Char) (front : Side false count left) :
    Pieces.cutDouble ':' (left ++ ':' :: ':' :: right) = some (left, right) := by
  rcases front with ⟨-, rfl⟩ | groups
  · exact Pieces.cut_double_here ':' [] right (by simp)
  · have joined := Pieces.cut_double_joined ':' _ right (groups_solid _ _ _ groups)
    rwa [Pieces.intercalate_split] at joined

theorem cut_groups (count : Nat) (text : List Char) (groups : Groups true count text) :
    Pieces.cutDouble ':' text = none := by
  have joined := Pieces.cut_double_none ':' _ (groups_solid _ _ _ groups)
  rwa [Pieces.intercalate_split] at joined

theorem of_groups_some (groups : List UInt16) : (ofGroups? groups).isSome = true ↔ groups.length = 8 := by
  unfold ofGroups?
  split <;> simp_all

theorem parse_coloned (text : List Char) : (parse? text).isSome = true ↔ Coloned text := by
  constructor
  · intro known
    unfold parse? at known
    -- Eight groups without two colons in a row, at most seven around them.
    split at known
    · split at known
      · rename_i groups read
        exact .inl ((with_tail_grammar 8 text).mp ⟨groups, read, (of_groups_some groups).mp known⟩)
      · simp at known
    · rename_i left right cut
      split at known
      · rename_i front back frontRead backRead
        have before : Side false front.length left := (front_grammar _ left).mp ⟨front, frontRead, rfl⟩
        have after : Side true back.length right := (back_grammar _ right).mp ⟨back, backRead, rfl⟩
        have shape := Pieces.cut_double_text ':' text left right cut
        split at known
        · rename_i room
          exact .inr ⟨shape ▸ doubles_gap _ _ _ _ before after, _, _, left, right, room, before, after, shape⟩
        · simp at known
      · simp at known
  · rintro (eight | ⟨-, before, after, left, right, room, front, back, rfl⟩)
    · obtain ⟨groups, read, length⟩ := (with_tail_grammar 8 text).mpr eight
      simp only [parse?, cut_groups 8 text eight, read]
      exact (of_groups_some groups).mpr length
    · obtain ⟨frontGroups, frontRead, rfl⟩ := (front_grammar _ left).mpr front
      obtain ⟨backGroups, backRead, rfl⟩ := (back_grammar _ right).mpr back
      simp only [parse?, cut_side _ left right front, frontRead, backRead, if_pos room]
      apply (of_groups_some _).mpr
      simp only [List.length_append, List.length_replicate]
      omega

theorem coloned_colon (text : List Char) (coloned : Coloned text) : ':' ∈ text := by
  rcases coloned with eight | ⟨-, _, _, left, right, -, -, -, rfl⟩
  · cases eight
    simp
  · simp

end Ipv6

namespace Address

-- The colon tells the two grammars apart.
theorem dotted_not_coloned (text : List Char) (dotted : Ipv4.Dotted text) : ¬ Ipv6.Coloned text :=
  fun coloned => Ipv4.dotted_no_colon text dotted (Ipv6.coloned_colon text coloned)

theorem classify_grammar (text : String) :
    (classify text = some .ipv4 ↔ Ipv4.Dotted text.toList) ∧ (classify text = some .ipv6 ↔ Ipv6.Coloned text.toList) ∧
      (classify text = none ↔ ¬ Ipv4.Dotted text.toList ∧ ¬ Ipv6.Coloned text.toList) ∧
      ¬ (Ipv4.Dotted text.toList ∧ Ipv6.Coloned text.toList) ∧
      classify text =
        if (Ipv6.parse? text.toList).isSome then some .ipv6
        else if (Ipv4.parse? text.toList).isSome then some .ipv4
        else none := by
  have apart := dotted_not_coloned text.toList
  simp only [← Ipv4.parse_dotted, ← Ipv6.parse_coloned] at apart ⊢
  unfold classify
  by_cases four : (Ipv4.parse? text.toList).isSome = true
  · simp [four, apart four]
  · by_cases six : (Ipv6.parse? text.toList).isSome = true <;> simp [four, six]

end Address

end HostTools
