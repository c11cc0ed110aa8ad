import Mathlib
import HostTools.Url.Literal
import HostTools.Proofs.Address.Ipv6

set_option autoImplicit false

namespace HostTools.Literal

theorem octet_stop (value : Nat) (rest : List Char) (stop : ∀ c ∈ rest.head?, Digits.inBase? 10 c = none) :
    octet (some value) rest = some (value, rest) := by
  cases rest with
  | nil => rfl
  | cons c rest => simp [octet, stop c rfl]

theorem octet_more (soFar value : Nat) (digits rest : List Char) (positive : 0 < soFar) (bounded : value ≤ 255)
    (known : Digits.readOnto 10 soFar digits = some value) (stop : ∀ c ∈ rest.head?, Digits.inBase? 10 c = none) :
    octet (some soFar) (digits ++ rest) = some (value, rest) := by
  induction digits generalizing soFar with
  | nil =>
      rw [← Option.some.inj known]
      exact octet_stop soFar rest stop
  | cons c digits ih =>
      cases found : Digits.inBase? 10 c with
      | none => simp [Digits.readOnto, found] at known
      | some digit =>
          have further : Digits.readOnto 10 (soFar * 10 + digit) digits = some value := by
            simpa only [Digits.readOnto, found] using known
          have small := Digits.read_onto_grows 10 _ value digits (by decide) further
          obtain ⟨before, rfl⟩ : ∃ before, soFar = before + 1 := ⟨soFar - 1, by omega⟩
          simp only [List.cons_append, octet, found, if_pos (Nat.le_trans small bounded)]
          exact ih _ (by omega) further

theorem octet_decimal (value : Nat) (rest : List Char) (bounded : value ≤ 255)
    (stop : ∀ c ∈ rest.head?, Digits.inBase? 10 c = none) :
    octet none (Digits.decimal value ++ rest) = some (value, rest) := by
  have read := Digits.read_onto_to_digits 10 value (by decide) (by decide)
  have plain := Ipv4.decimal_plain value
  rw [← Digits.decimal] at read
  cases known : Digits.decimal value with
  | nil => exact absurd known Nat.toDigits_ne_nil
  | cons c digits =>
      rw [known] at read plain
      cases found : Digits.inBase? 10 c with
      | none => simp [Digits.readOnto, found] at read
      | some digit =>
          have further : Digits.readOnto 10 digit digits = some value := by
            simpa [Digits.readOnto, found] using read
          simp only [List.cons_append, octet, found]
          -- After a zero no further digit is admitted, and decimal text has none there.
          by_cases zero : digit = 0
          · have head : c = '0' := by rw [← Digits.digit_char_of_decimal c digit found, zero]; rfl
            have alone : digits = [] := by simpa [head] using plain
            rw [alone, Digits.readOnto, Option.some.injEq] at further
            rw [alone, ← further]
            exact octet_stop digit rest stop
          · exact octet_more digit value digits rest (by omega) bounded further stop

theorem octet_some_text (soFar value : Nat) (text rest : List Char) (positive : 0 < soFar) (small : soFar ≤ 255)
    (known : octet (some soFar) text = some (value, rest)) :
    value ≤ 255 ∧ Nat.toDigits 10 soFar ++ text = Nat.toDigits 10 value ++ rest := by
  induction text generalizing soFar with
  | nil =>
      simp only [octet, Option.map_some, Option.some.injEq, Prod.mk.injEq] at known
      obtain ⟨rfl, rfl⟩ := known
      exact ⟨small, rfl⟩
  | cons c text ih =>
      cases found : Digits.inBase? 10 c with
      | none =>
          simp only [octet, found, Option.map_some, Option.some.injEq, Prod.mk.injEq] at known
          obtain ⟨rfl, rfl⟩ := known
          exact ⟨small, rfl⟩
      | some digit =>
          obtain ⟨before, rfl⟩ : ∃ before, soFar = before + 1 := ⟨soFar - 1, by omega⟩
          simp only [octet, found] at known
          split at known
          · rename_i fits
            obtain ⟨bounded, texts⟩ := ih _ (by omega) fits known
            refine ⟨bounded, ?_⟩
            rw [← texts, ← Digits.to_digits_snoc (before + 1) digit c positive found, List.append_assoc]
            rfl
          · simp at known

theorem octet_text (value : Nat) (text rest : List Char) (known : octet none text = some (value, rest)) :
    value ≤ 255 ∧ text = Digits.decimal value ++ rest := by
  cases text with
  | nil => simp [octet] at known
  | cons c text =>
      cases found : Digits.inBase? 10 c with
      | none => simp [octet, found] at known
      | some digit =>
          have digitSmall := Digits.in_base_bound 10 digit c found
          have first := Digits.digit_char_of_decimal c digit found
          simp only [octet, found] at known
          -- A zero is the whole octet: a digit after it is refused.
          by_cases zero : digit = 0
          · rw [zero] at known
            have stopped : value = 0 ∧ rest = text := by
              cases text with
              | nil => simpa [octet, eq_comm] using known
              | cons d text =>
                  cases next : Digits.inBase? 10 d with
                  | none => simpa [octet, next, eq_comm] using known
                  | some further => simp [octet, next] at known
            rw [stopped.1, stopped.2, ← first, zero]
            exact ⟨by decide, rfl⟩
          · obtain ⟨bounded, texts⟩ := octet_some_text digit value text rest (by omega) (by omega) known
            rw [Nat.toDigits_of_lt_base digitSmall, first] at texts
            exact ⟨bounded, texts⟩

theorem octets_text (owed : Nat) (text : List Char) (values : List Nat) (known : octets owed text = some values) :
    values.length = owed + 1 ∧ (∀ value ∈ values, value ≤ 255) ∧
      text = List.intercalate ['.'] (values.map Digits.decimal) := by
  induction owed generalizing text values with
  | zero =>
      rw [octets] at known
      split at known
      · rename_i value found
        obtain ⟨bounded, shape⟩ := octet_text value text [] found
        rw [← Option.some.inj known]
        exact ⟨rfl, by simpa using bounded, by simpa [List.intercalate] using shape⟩
      · simp at known
  | succ owed ih =>
      rw [octets] at known
      split at known
      · rename_i value more found
        obtain ⟨bounded, shape⟩ := octet_text value text ('.' :: more) found
        obtain ⟨others, later, rfl⟩ := Option.map_eq_some_iff.mp known
        obtain ⟨length, small, rest⟩ := ih more others later
        have several : others.map Digits.decimal ≠ [] := by
          rw [← List.length_pos_iff, List.length_map, length]
          omega
        refine ⟨by simp [length], by simpa using ⟨bounded, small⟩, ?_⟩
        rw [List.map_cons, Pieces.intercalate_cons _ _ _ several, ← rest, shape]
      · simp at known

theorem octets_decimal (value : Nat) (values : List Nat) (small : ∀ other ∈ value :: values, other ≤ 255) :
    octets values.length (List.intercalate ['.'] ((value :: values).map Digits.decimal)) = some (value :: values) := by
  have bounded := small value List.mem_cons_self
  induction values generalizing value with
  | nil =>
      have first := octet_decimal value [] bounded (by simp)
      rw [List.append_nil] at first
      simp [octets, List.intercalate, first]
  | cons next values ih =>
      have later : ∀ other ∈ next :: values, other ≤ 255 :=
        fun other member => small other (List.mem_cons_of_mem value member)
      rw [List.map_cons, Pieces.intercalate_cons _ _ _ (by simp), List.length_cons, octets,
        octet_decimal value _ bounded (by simpa using by decide)]
      simp only [ih next later (later next List.mem_cons_self), Option.map_some]

theorem group_pair (high low : UInt8) :
    UInt16.ofNat (high.toNat * 256 + low.toNat) = high.toUInt16 * 256 + low.toUInt16 := by
  apply UInt16.toNat_inj.mp
  simp

theorem tail_eq (text : List Char) : tail? text = (Ipv4.parse? text).map Ipv4.groups := by
  cases known : Ipv4.parse? text with
  | some address =>
      have shape : text = List.intercalate ['.']
          ([address.a.toNat, address.b.toNat, address.c.toNat, address.d.toNat].map Digits.decimal) := by
        rw [(Ipv4.parse_iff text address).mp known, Ipv4.render_eq]
        rfl
      have octets := octets_decimal address.a.toNat [address.b.toNat, address.c.toNat, address.d.toNat] (by
        intro other member
        simp only [List.mem_cons, List.not_mem_nil, or_false] at member
        rcases member with rfl | rfl | rfl | rfl <;> exact Nat.le_of_lt_succ (UInt8.toNat_lt _))
      rw [tail?, shape]
      simp only [List.length_cons, List.length_nil] at octets
      simp only [octets, Option.map_some, Ipv4.groups, group_pair]
  | none =>
      unfold tail?
      split
      · rename_i a b c d found
        obtain ⟨-, small, shape⟩ := octets_text 3 text _ found
        have byte : ∀ value ∈ [a, b, c, d], (UInt8.ofNat value).toNat = value := fun value member =>
          UInt8.toNat_ofNat_of_lt' (Nat.lt_succ_of_le (small value member))
        -- Four octets that were read are the text of an address, which would have been parsed.
        have rendered : text = (⟨UInt8.ofNat a, UInt8.ofNat b, UInt8.ofNat c, UInt8.ofNat d⟩ : Ipv4).render := by
          rw [Ipv4.render_eq, Ipv4.pieces, shape]
          simp [byte]
        rw [(Ipv4.parse_iff _ _).mpr rendered] at known
        simp at known
      · rfl

def Reading.extend? (reading : Reading) (more : List UInt16) : Option Reading :=
  if reading.groups.length + more.length ≤ 8 then some { reading with groups := reading.groups ++ more } else none

theorem hex_apart (c : Char) (digit : Nat) (known : Digits.inBase? 16 c = some digit) : c ≠ ':' ∧ c ≠ '.' := by
  have range := Digits.hex_digit c (by simp [known])
  constructor
  · rintro rfl
    exact absurd range (by decide)
  · rintro rfl
    exact absurd range (by decide)

theorem read_digits (reading : Reading) (start digits rest : List Char) (count soFar value : Nat)
    (room : reading.groups.length < 8) (known : Digits.readOnto 16 soFar digits = some value)
    (short : count + digits.length ≤ 4) :
    read reading start count soFar (digits ++ rest) = read reading start (count + digits.length) value rest := by
  induction digits generalizing count soFar with
  | nil =>
      rw [← Option.some.inj known]
      rfl
  | cons c digits ih =>
      cases found : Digits.inBase? 16 c with
      | none => simp [Digits.readOnto, found] at known
      | some digit =>
          obtain ⟨noColon, noDot⟩ := hex_apart c digit found
          have further : Digits.readOnto 16 (soFar * 16 + digit) digits = some value := by
            simpa only [Digits.readOnto, found] using known
          rw [List.length_cons] at short
          rw [List.cons_append, read, if_neg (by omega), if_neg noColon, if_neg noDot, found]
          simp only [if_neg (show count ≠ 4 by omega)]
          rw [ih (count + 1) _ further (by omega), List.length_cons, Nat.add_assoc, Nat.add_comm 1]

theorem group_read (piece : List Char) (group : UInt16) (known : Ipv6.group? piece = some group) :
    ∃ value, Digits.readOnto 16 0 piece = some value ∧ group = UInt16.ofNat value ∧ piece.length ≤ 4 ∧ piece ≠ [] := by
  unfold Ipv6.group? at known
  split at known
  · rename_i short
    obtain ⟨value, read, rfl⟩ := Option.map_eq_some_iff.mp known
    cases piece with
    | nil => simp [Digits.read?] at read
    | cons c rest => exact ⟨value, read, rfl, short, by simp⟩
  · simp at known

theorem read_group (reading : Reading) (piece rest : List Char) (group : UInt16) (room : reading.groups.length < 8)
    (known : Ipv6.group? piece = some group) :
    read reading piece 0 0 piece = some { reading with groups := reading.groups ++ [group] } ∧
      read reading (piece ++ ':' :: rest) 0 0 (piece ++ ':' :: rest) =
        if rest = [] then none else read { reading with groups := reading.groups ++ [group] } rest 0 0 rest := by
  obtain ⟨value, readOnto, rfl, short, present⟩ := group_read piece group known
  have counted : 0 + piece.length ≠ 0 := by simpa using present
  constructor
  · have digits := read_digits reading piece piece [] 0 0 value room readOnto (by omega)
    rw [List.append_nil] at digits
    rw [digits, read, if_neg counted]
  · rw [read_digits reading _ piece (':' :: rest) 0 0 value room readOnto (by omega), read, if_neg (by omega),
      if_pos rfl, if_neg counted]

theorem parse_other (text : List Char) (c : Char) (member : c ∈ text) (noDot : c ≠ '.')
    (noDigit : Digits.inBase? 16 c = none) : Ipv4.parse? text = none := by
  cases known : Ipv4.parse? text with
  | none => rfl
  | some address =>
      rw [(Ipv4.parse_iff text address).mp known] at member
      rcases Ipv4.render_char address c member with dot | digit
      · exact absurd dot noDot
      · simpa [noDigit] using Digits.hex_of_decimal c digit

theorem parse_long (digits rest : List Char) (long : 4 ≤ digits.length) (absent : '.' ∉ digits) :
    Ipv4.parse? (digits ++ rest) = none := by
  cases known : Ipv4.parse? (digits ++ rest) with
  | none => rfl
  | some address =>
      have shape := (Ipv4.parse_iff _ address).mp known
      have short := Ipv4.decimal_short address.a
      have early : '.' ∈ (digits ++ rest).take 4 := by
        rw [shape, Ipv4.render_eq, Ipv4.pieces, List.map_cons, Pieces.intercalate_cons _ _ _ (by simp), List.take_append]
        apply List.mem_append_right
        obtain ⟨before, count⟩ : ∃ before, 4 - (Digits.decimal address.a.toNat).length = before + 1 :=
          ⟨3 - (Digits.decimal address.a.toNat).length, by omega⟩
        rw [count, List.take_succ_cons]
        exact List.mem_cons_self
      rw [List.take_append_of_le_length long] at early
      exact absurd (List.mem_of_mem_take early) absent

-- A text without a group at its head is an IPv4 address from there on, or no address at all.
theorem read_no_group (reading : Reading) (digits more after : List Char) (value : Nat)
    (room : reading.groups.length < 8) (read16 : Digits.readOnto 16 0 digits = some value) (short : digits.length ≤ 4)
    (absent : ':' ∉ more) (present : digits ++ more ≠ []) (noGroup : Ipv6.group? (digits ++ more) = none) :
    read reading (digits ++ more ++ after) digits.length value (more ++ after) =
      if 6 < reading.groups.length then none
      else (Ipv4.parse? (digits ++ more ++ after)).map fun address =>
        { reading with groups := reading.groups ++ address.groups } := by
  induction more generalizing digits value with
  | nil =>
      rw [List.append_nil] at noGroup present
      have read : Digits.read? 16 digits = some value := by
        cases digits with
        | nil => exact absurd rfl present
        | cons c rest => exact read16
      simp [Ipv6.group?, short, read] at noGroup
  | cons c more ih =>
      obtain ⟨noColon, absentMore⟩ := List.ne_and_not_mem_of_not_mem_cons absent
      have inside : c ∈ digits ++ c :: more ++ after := by simp
      rw [List.cons_append, read, if_neg (by omega), if_neg (Ne.symm noColon)]
      by_cases dot : c = '.'
      · rw [if_pos dot, tail_eq, Option.map_map]
        rfl
      · rw [if_neg dot]
        cases found : Digits.inBase? 16 c with
        | none => rw [parse_other _ c inside dot found, Option.map_none, ite_self]
        | some digit =>
            by_cases full : digits.length = 4
            · have refused : Ipv4.parse? (digits ++ c :: more ++ after) = none := by
                rw [List.append_assoc]
                apply parse_long digits _ (by omega)
                exact fun member => absurd (Digits.read_onto_digit 16 0 value digits read16 '.' member) (by decide)
              rw [refused, Option.map_none, ite_self]
              simp [full]
            · have further : Digits.readOnto 16 0 (digits ++ [c]) = some (value * 16 + digit) := by
                rw [Digits.read_onto_append, read16]
                simp [Digits.readOnto, found]
              have longer := ih (digits ++ [c]) _ further (by simp; omega) absentMore (by simp) (by simpa using noGroup)
              simpa [full] using longer

theorem with_tail_more (piece : List Char) (more : List (List Char)) (several : more ≠ []) :
    Ipv6.withTail? (piece :: more) =
      (Ipv6.group? piece).bind fun group => (Ipv6.withTail? more).map (group :: ·) := by
  rw [Ipv6.withTail?]
  · cases Ipv6.group? piece <;> rfl
  · exact several

theorem read_full (reading : Reading) (text : List Char) (full : 8 ≤ reading.groups.length) (present : text ≠ []) :
    read reading text 0 0 text = none := by
  obtain ⟨c, rest, rfl⟩ := List.exists_cons_of_ne_nil present
  rw [read, if_pos full]

theorem with_tail_present (pieces : List (List Char)) (groups : List UInt16) (several : pieces ≠ [])
    (known : Ipv6.withTail? pieces = some groups) : groups ≠ [] := by
  obtain ⟨piece, more, rfl⟩ := List.exists_cons_of_ne_nil several
  rintro rfl
  cases more with
  | nil =>
      cases group : Ipv6.group? piece with
      | none => simp [Ipv6.withTail?, group, Ipv4.groups] at known
      | some value => simp [Ipv6.withTail?, group] at known
  | cons next more =>
      rw [with_tail_more _ _ (by simp)] at known
      cases group : Ipv6.group? piece <;> simp [group] at known

theorem extend_cons (reading : Reading) (group : UInt16) (more : List UInt16) :
    ({ reading with groups := reading.groups ++ [group] } : Reading).extend? more = reading.extend? (group :: more) := by
  simp [Reading.extend?, Nat.add_assoc, Nat.add_comm 1]

theorem first_piece (text : List Char) :
    ∃ piece, ':' ∉ piece ∧ (text = piece ∨ ∃ rest, text = piece ++ ':' :: rest) := by
  by_cases present : ':' ∈ text
  · obtain ⟨piece, rest, shape, absent⟩ := List.eq_append_cons_of_mem present
    exact ⟨piece, absent, .inr ⟨rest, shape⟩⟩
  · exact ⟨text, present, .inl rfl⟩

theorem single_later (piece rest : List Char) (absent : ':' ∉ piece)
    (single : Pieces.cutDouble ':' (piece ++ ':' :: rest) = none) :
    rest.head? ≠ some ':' ∧ Pieces.cutDouble ':' rest = none := by
  have head : rest.head? ≠ some ':' := by
    intro colon
    obtain ⟨tail, rfl⟩ := List.head?_eq_some_iff.mp colon
    rw [Pieces.cut_double_here ':' piece tail absent] at single
    simp at single
  rw [Pieces.cut_double_later ':' piece rest absent head, Option.map_eq_none_iff] at single
  exact ⟨head, single⟩

theorem double_later (piece rest left right : List Char) (absent : ':' ∉ piece)
    (double : Pieces.cutDouble ':' (piece ++ ':' :: rest) = some (left, right)) :
    rest = ':' :: right ∧ left = piece ∨
      ∃ front, rest.head? ≠ some ':' ∧ Pieces.cutDouble ':' rest = some (front, right) ∧ front ≠ [] ∧
        left = piece ++ ':' :: front := by
  by_cases here : rest.head? = some ':'
  · obtain ⟨back, rfl⟩ := List.head?_eq_some_iff.mp here
    rw [Pieces.cut_double_here ':' piece back absent] at double
    obtain ⟨rfl, rfl⟩ := Prod.mk.inj (Option.some.inj double)
    exact .inl ⟨rfl, rfl⟩
  · rw [Pieces.cut_double_later ':' piece rest absent here] at double
    obtain ⟨⟨front, back⟩, later, same⟩ := Option.map_eq_some_iff.mp double
    obtain ⟨rfl, rfl⟩ := Prod.mk.inj same
    refine .inr ⟨front, here, later, ?_, rfl⟩
    rintro rfl
    exact here (by rw [Pieces.cut_double_text ':' rest [] back later]; rfl)

theorem read_other (reading : Reading) (piece : List Char) (room : reading.groups.length < 8) (absent : ':' ∉ piece)
    (present : piece ≠ []) (noGroup : Ipv6.group? piece = none) :
    read reading piece 0 0 piece = ((Ipv4.parse? piece).map Ipv4.groups).bind reading.extend? ∧
      ∀ rest, read reading (piece ++ ':' :: rest) 0 0 (piece ++ ':' :: rest) = none := by
  have address := fun after => read_no_group reading [] piece after 0 room rfl (by simp) absent present noGroup
  simp only [List.nil_append, List.length_nil] at address
  constructor
  · have whole := address []
    rw [List.append_nil] at whole
    rw [whole]
    cases Ipv4.parse? piece with
    | none => simp
    | some found =>
        by_cases fits : reading.groups.length ≤ 6
        · simp [Reading.extend?, Ipv4.groups, fits, Nat.not_lt.mpr fits]
        · simp [Reading.extend?, Ipv4.groups, fits, Nat.lt_of_not_le fits]
  · intro rest
    -- The colon is in what would have to be the address.
    rw [address (':' :: rest), parse_other _ ':' (by simp) (by decide) (by decide), Option.map_none, ite_self]

-- Without a gap to come, what is left are groups to the end, the last of which may be an IPv4 address.
theorem read_tail (reading : Reading) (text : List Char) (bounded : reading.groups.length ≤ 8) (present : text ≠ [])
    (closed : reading.gap?.isSome = true ∨ text.head? ≠ some ':' ∧ Pieces.cutDouble ':' text = none) :
    read reading text 0 0 text = (Ipv6.withTail? (Pieces.split ':' text)).bind reading.extend? := by
  by_cases room : reading.groups.length < 8
  · obtain ⟨piece, absent, shape⟩ := first_piece text
    cases known : Ipv6.group? piece with
    | some group =>
        rcases shape with rfl | ⟨rest, rfl⟩
        · rw [(read_group reading text [] group room known).1, Pieces.split_whole ':' text absent, Ipv6.withTail?, known]
          simp [Reading.extend?, Nat.succ_le_of_lt room]
        · rw [(read_group reading piece rest group room known).2, Pieces.split_append ':' piece rest absent,
            with_tail_more piece _ (Pieces.split_nonempty ':' rest), known, Option.bind_some]
          by_cases last : rest = []
          · rw [if_pos last, last]
            rfl
          · have later : reading.gap?.isSome = true ∨ rest.head? ≠ some ':' ∧ Pieces.cutDouble ':' rest = none :=
              closed.imp_right fun single => single_later piece rest absent single.2
            rw [if_neg last, read_tail { reading with groups := reading.groups ++ [group] } rest
              (by simpa using Nat.succ_le_of_lt room) last later]
            cases Ipv6.withTail? (Pieces.split ':' rest) with
            | none => rfl
            | some more => exact extend_cons reading group more
    | none =>
        by_cases empty : piece = []
        · rcases shape with rfl | ⟨rest, rfl⟩
          · exact absurd empty present
          · have gap : reading.gap?.isSome = true := closed.resolve_right fun single => by simp [empty] at single
            rw [Pieces.split_append ':' piece rest absent, with_tail_more piece _ (Pieces.split_nonempty ':' rest),
              known, empty, List.nil_append, read, if_neg (by omega), if_pos rfl, if_pos rfl, if_pos gap]
            rfl
        · have other := read_other reading piece room absent empty known
          rcases shape with rfl | ⟨rest, rfl⟩
          · rw [other.1, Pieces.split_whole ':' text absent, Ipv6.withTail?, known]
          · rw [other.2 rest, Pieces.split_append ':' piece rest absent,
              with_tail_more piece _ (Pieces.split_nonempty ':' rest), known]
            rfl
  · rw [read_full reading text (by omega) present]
    cases known : Ipv6.withTail? (Pieces.split ':' text) with
    | none => rfl
    | some groups =>
        have several := List.length_pos_iff.mpr (with_tail_present _ groups (Pieces.split_nonempty ':' text) known)
        rw [Option.bind_some, Reading.extend?, if_neg (by omega)]
termination_by text.length

theorem front_last (piece : List Char) (absent : ':' ∉ piece) (present : piece ≠ []) :
    Ipv6.front? piece = (Ipv6.group? piece).map fun group => [group] := by
  rw [Ipv6.front?, Pieces.split_whole ':' piece absent]
  · cases known : Ipv6.group? piece <;> simp [known]
  · exact present

theorem front_more (piece left : List Char) (absent : ':' ∉ piece) (present : left ≠ []) :
    Ipv6.front? (piece ++ ':' :: left) =
      (Ipv6.group? piece).bind fun group => (Ipv6.front? left).map (group :: ·) := by
  rw [Ipv6.front?, Pieces.split_append ':' piece left absent, Ipv6.front?, List.mapM_cons]
  · cases Ipv6.group? piece <;> cases (Pieces.split ':' left).mapM Ipv6.group? <;> rfl
  · exact present
  · simp

def Reading.withGap? (reading : Reading) (front back : List UInt16) : Option Reading :=
  if reading.groups.length + front.length + 1 + back.length ≤ 8 then
    some ⟨reading.groups ++ front ++ 0 :: back, some (reading.groups.length + front.length + 1)⟩
  else none

theorem with_gap_cons (reading : Reading) (group : UInt16) (front back : List UInt16) :
    ({ reading with groups := reading.groups ++ [group] } : Reading).withGap? front back =
      reading.withGap? (group :: front) back := by
  simp [Reading.withGap?, Nat.add_assoc, Nat.add_comm 1]

theorem read_opening (reading : Reading) (right : List Char) (gap : reading.gap? = none)
    (bounded : reading.groups.length ≤ 8) :
    read reading (':' :: right) 0 0 (':' :: right) = (Ipv6.back? right).bind (reading.withGap? []) := by
  by_cases room : reading.groups.length < 8
  · have opened : read reading (':' :: right) 0 0 (':' :: right) =
        read ⟨reading.groups ++ [0], some (reading.groups.length + 1)⟩ right 0 0 right := by
      rw [read, if_neg (by omega), if_pos rfl, if_pos rfl, if_neg (by simp [gap])]
    cases right with
    | nil =>
        rw [opened]
        simp [read, Ipv6.back?, Reading.withGap?, Nat.succ_le_of_lt room]
    | cons c rest =>
        rw [opened, read_tail _ (c :: rest) (by simpa using Nat.succ_le_of_lt room) (by simp) (.inl rfl), Ipv6.back?]
        · cases Ipv6.withTail? (Pieces.split ':' (c :: rest)) with
          | none => rfl
          | some back => simp [Reading.extend?, Reading.withGap?]
        · simp
  · rw [read_full reading _ (by omega) (by simp)]
    cases Ipv6.back? right with
    | none => rfl
    | some back => rw [Option.bind_some, Reading.withGap?, if_neg (by omega)]

-- Up to the gap every piece is a group: an IPv4 address has no colon behind it.
theorem read_gap (reading : Reading) (text left right : List Char) (gap : reading.gap? = none)
    (bounded : reading.groups.length ≤ 8) (head : text.head? ≠ some ':')
    (cut : Pieces.cutDouble ':' text = some (left, right)) :
    read reading text 0 0 text =
      (Ipv6.front? left).bind fun front => (Ipv6.back? right).bind (reading.withGap? front) := by
  obtain ⟨piece, absent, rfl | ⟨rest, rfl⟩⟩ := first_piece text
  · simp [Pieces.cut_double_absent ':' text absent] at cut
  · have present : piece ≠ [] := by
      rintro rfl
      exact head rfl
    have shape := double_later piece rest left right absent cut
    by_cases room : reading.groups.length < 8
    · have next := Nat.succ_le_of_lt room
      cases known : Ipv6.group? piece with
      | none =>
          have refused : Ipv6.front? left = none := by
            rcases shape with ⟨_, rfl⟩ | ⟨front, _, _, before, rfl⟩
            · rw [front_last left absent present, known, Option.map_none]
            · rw [front_more piece front absent before, known, Option.bind_none]
          rw [(read_other reading piece room absent present known).2 rest, refused, Option.bind_none]
      | some group =>
          have bounded' : (reading.groups ++ [group]).length ≤ 8 := by simpa using next
          rw [(read_group reading piece rest group room known).2]
          rcases shape with ⟨rfl, rfl⟩ | ⟨front, single, later, before, rfl⟩
          · rw [if_neg (by simp), read_opening ⟨reading.groups ++ [group], reading.gap?⟩ right gap bounded',
              front_last left absent present, known]
            simp [← with_gap_cons]
          · have more : rest ≠ [] := by
              rintro rfl
              simp [Pieces.cutDouble] at later
            rw [if_neg more, read_gap ⟨reading.groups ++ [group], reading.gap?⟩ rest front right gap bounded' single later,
              front_more piece front absent before, known]
            cases Ipv6.front? front with
            | none => rfl
            | some groups => simp [← with_gap_cons]
    · rw [read_full reading _ (by omega) (by simp)]
      cases Ipv6.front? left with
      | none => rfl
      | some front =>
          cases Ipv6.back? right with
          | none => rfl
          | some back => rw [Option.bind_some, Option.bind_some, Reading.withGap?, if_neg (by omega)]
termination_by text.length

theorem finish_gap (front back : List UInt16) :
    ((⟨[], none⟩ : Reading).withGap? front back).bind finish? =
      if front.length + back.length ≤ 7 then
        Ipv6.ofGroups? (front ++ List.replicate (8 - (front.length + back.length)) 0 ++ back)
      else none := by
  by_cases fits : front.length + back.length ≤ 7
  · have zeros : 8 - (front.length + back.length) = 8 - (front.length + (back.length + 1)) + 1 := by omega
    have opened : (⟨[], none⟩ : Reading).withGap? front back = some ⟨front ++ 0 :: back, some (front.length + 1)⟩ := by
      simp [Reading.withGap?]
      omega
    rw [opened, if_pos fits, zeros, List.replicate_succ]
    simp [finish?, List.take_append, List.drop_append, List.take_of_length_le, List.drop_of_length_le]
  · rw [Reading.withGap?, if_neg (by simp; omega), if_neg fits, Option.bind_none]

theorem parse_gap (text left right : List Char) (cut : Pieces.cutDouble ':' text = some (left, right)) :
    Ipv6.parse? text = (Ipv6.front? left).bind fun front => (Ipv6.back? right).bind fun back =>
      ((⟨[], none⟩ : Reading).withGap? front back).bind finish? := by
  rw [Ipv6.parse?, cut]
  cases front : Ipv6.front? left <;> cases back : Ipv6.back? right <;> simp [front, back, finish_gap]

theorem parse_single (text : List Char) (single : Pieces.cutDouble ':' text = none) :
    Ipv6.parse? text = (Ipv6.withTail? (Pieces.split ':' text)).bind Ipv6.ofGroups? := by
  rw [Ipv6.parse?, single]
  cases Ipv6.withTail? (Pieces.split ':' text) <;> rfl

theorem finish_extended (groups : List UInt16) :
    ((⟨[], none⟩ : Reading).extend? groups).bind finish? = Ipv6.ofGroups? groups := by
  by_cases fits : groups.length ≤ 8
  · simp [Reading.extend?, fits, finish?]
  · have long : groups.length ≠ 8 := by omega
    simp [Reading.extend?, fits, Ipv6.ofGroups?, long]

theorem parse_colon (c : Char) (rest : List Char) (other : c ≠ ':') : Ipv6.parse? (':' :: c :: rest) = none := by
  have noGroup : Ipv6.group? [] = none := rfl
  cases cut : Pieces.cutDouble ':' (':' :: c :: rest) with
  | none =>
      rw [parse_single _ cut, ← List.nil_append (':' :: c :: rest), Pieces.split_append ':' [] _ (by simp),
        with_tail_more [] _ (Pieces.split_nonempty ':' _), noGroup]
      rfl
  | some sides =>
      obtain ⟨left, right⟩ := sides
      rcases double_later [] (c :: rest) left right (by simp) cut with ⟨same, _⟩ | ⟨front, _, _, before, rfl⟩
      · exact absurd (List.cons.inj same).1 other
      · rw [parse_gap _ _ right cut, front_more [] front (by simp) before, noGroup]
        rfl

-- One pass over the text finds the address that cutting it at the double colon finds.
theorem parse_eq (text : List Char) : parse? text = Ipv6.parse? text := by
  unfold parse?
  split
  · rename_i rest
    have opened : read ⟨[0], some 1⟩ rest 0 0 rest = (Ipv6.back? rest).bind ((⟨[], none⟩ : Reading).withGap? []) :=
      read_opening ⟨[], none⟩ rest rfl (by simp)
    rw [opened, parse_gap (':' :: ':' :: rest) [] rest (Pieces.cut_double_here ':' [] rest (by simp)), Option.bind_assoc]
    rfl
  · rename_i rest other
    cases rest with
    | nil => rfl
    | cons c rest => exact (parse_colon c rest fun same => other rest (by rw [same])).symm
  · rename_i other
    cases text with
    | nil => rfl
    | cons c rest =>
        have head : (c :: rest).head? ≠ some ':' := fun colon => other rest (by rw [Option.some.inj colon])
        cases cut : Pieces.cutDouble ':' (c :: rest) with
        | none =>
            rw [read_tail ⟨[], none⟩ (c :: rest) (by simp) (by simp) (.inr ⟨head, cut⟩), parse_single _ cut,
              Option.bind_assoc]
            exact congrArg _ (funext finish_extended)
        | some sides =>
            rw [read_gap ⟨[], none⟩ (c :: rest) sides.1 sides.2 rfl (by simp) head cut, parse_gap _ sides.1 sides.2 cut]
            simp only [Option.bind_assoc]

end HostTools.Literal
