import Mathlib
import HostTools.Url.Parser
import HostTools.Proofs.Domain.Ascii
import HostTools.Proofs.Text.Digits
import HostTools.Proofs.Text.Pieces

set_option autoImplicit false

namespace HostTools

namespace Percent

theorem encode_empty (replaced : Char → Bool) (text : List Char) : encode replaced text = [] ↔ text = [] := by
  cases text with
  | nil => simp [encode]
  | cons c rest =>
      have present : char replaced c ≠ [] := by
        unfold char
        split
        · obtain ⟨byte, bytes, known⟩ := List.exists_cons_of_ne_nil (String.utf8EncodeChar_ne_nil (c := c))
          simp [known, triplet]
        · simp
      simp [encode, present]

end Percent

namespace Url

theorem cut_userinfo_absent (authority : List Char) (absent : '@' ∉ authority) :
    cutUserinfo authority = (none, authority) := by
  simp [cutUserinfo, absent]

theorem after_last (mark : Char) (front back : List Char) (absent : mark ∉ back) :
    ((front ++ mark :: back).reverse.takeWhile (· ≠ mark)).reverse = back := by
  rw [List.reverse_append, List.reverse_cons, List.append_assoc, List.takeWhile_append_of_pos]
  · simp
  · intro c member
    have inside : c ∈ back := List.mem_reverse.mp member
    simpa using fun same : c = mark => absent (same ▸ inside)

theorem cut_userinfo_last (front back : List Char) (absent : '@' ∉ back) :
    cutUserinfo (front ++ '@' :: back) = (some front, back) := by
  have before : (front ++ '@' :: back).length - back.length - 1 = front.length := by
    simp only [List.length_append, List.length_cons]
    omega
  rw [cutUserinfo, if_pos (by simp)]
  simp only [after_last '@' front back absent, before, List.take_left]

theorem last_at_sign (authority : List Char) (present : '@' ∈ authority) :
    ∃ front back, authority = front ++ '@' :: back ∧ '@' ∉ back := by
  induction authority with
  | nil => simp at present
  | cons c rest ih =>
      by_cases later : '@' ∈ rest
      · obtain ⟨front, back, rfl, absent⟩ := ih later
        exact ⟨c :: front, back, rfl, absent⟩
      · have here : '@' = c := by simpa [later] using present
        exact ⟨[], rest, by rw [here]; rfl, later⟩

theorem credentials_empty (userinfo : List Char) :
    credentials userinfo = ([], none) ↔ userinfo = [] ∨ userinfo = [':'] := by
  by_cases present : ':' ∈ userinfo
  · obtain ⟨username, password, rfl, absent⟩ := List.eq_append_cons_of_mem present
    rw [credentials, Pieces.cut_append ':' username password absent]
    cases password with
    | nil => simp [Percent.encode_empty]
    | cons c rest => simp [List.append_eq_cons_iff]
  · rw [credentials, Pieces.cut_absent ':' userinfo present]
    constructor
    · intro known
      exact .inl ((Percent.encode_empty _ _).mp (congrArg Prod.fst known))
    · rintro (rfl | rfl)
      · rfl
      · simp at present

theorem cut_host_append (inside : Bool) (text : List Char) :
    (cutHost inside text).1 ++ (cutHost inside text).2 = text := by
  induction text generalizing inside with
  | nil => rfl
  | cons c rest ih =>
      rw [cutHost]
      split
      · rfl
      · simp [ih]

def StartsPort (rest : List Char) : Prop := rest = [] ∨ ∃ more, rest = ':' :: more

theorem cut_host_rest (inside : Bool) (text : List Char) :
    StartsPort (cutHost inside text).2 := by
  induction text generalizing inside with
  | nil => exact .inl rfl
  | cons c rest ih =>
      rw [cutHost]
      split
      · rename_i colon
        exact .inr ⟨rest, by rw [colon.1]⟩
      · exact ih _

theorem cut_host_port (rest : List Char) (starts : StartsPort rest) : cutHost false rest = ([], rest) := by
  rcases starts with rfl | ⟨more, rfl⟩ <;> simp [cutHost]

theorem cut_host_plain (host rest : List Char) (plain : ∀ c ∈ host, c ≠ ':' ∧ c ≠ '[') (starts : StartsPort rest) :
    cutHost false (host ++ rest) = (host, rest) := by
  induction host with
  | nil => exact cut_host_port rest starts
  | cons c host ih =>
      obtain ⟨noColon, noBracket⟩ := plain c List.mem_cons_self
      have further := ih fun d member => plain d (List.mem_cons_of_mem c member)
      simp [cutHost, noColon, noBracket, further]

theorem cut_host_inside (inner rest : List Char) (plain : ∀ c ∈ inner, c ≠ '[' ∧ c ≠ ']') (starts : StartsPort rest) :
    cutHost true (inner ++ ']' :: rest) = (inner ++ [']'], rest) := by
  induction inner with
  | nil => simp [cutHost, cut_host_port rest starts]
  | cons c inner ih =>
      obtain ⟨noOpening, noClosing⟩ := plain c List.mem_cons_self
      have further := ih fun d member => plain d (List.mem_cons_of_mem c member)
      simp [cutHost, noOpening, noClosing, further]

theorem cut_host_bracketed (inner rest : List Char) (plain : ∀ c ∈ inner, c ≠ '[' ∧ c ≠ ']') (starts : StartsPort rest) :
    cutHost false ('[' :: inner ++ [']'] ++ rest) = ('[' :: inner ++ [']'], rest) := by
  simp [cutHost, cut_host_inside inner rest plain starts]

theorem port_value_reads (soFar value : Nat) (digits : List Char) (known : portValue? soFar digits = some value) :
    Digits.readOnto 10 soFar digits = some value := by
  induction digits generalizing soFar with
  | nil => exact known
  | cons c rest ih =>
      cases found : Digits.inBase? 10 c with
      | none => simp [portValue?, found] at known
      | some digit =>
          simp only [portValue?, found] at known
          split at known
          · simpa only [Digits.readOnto, found] using ih _ known
          · simp at known

theorem port_value_of_read (soFar value : Nat) (digits : List Char) (bounded : value ≤ 65535)
    (known : Digits.readOnto 10 soFar digits = some value) : portValue? soFar digits = some value := by
  induction digits generalizing soFar with
  | nil => exact known
  | cons c rest ih =>
      cases found : Digits.inBase? 10 c with
      | none => simp [Digits.readOnto, found] at known
      | some digit =>
          have further : Digits.readOnto 10 (soFar * 10 + digit) rest = some value := by
            simpa only [Digits.readOnto, found] using known
          have small := Digits.read_onto_grows 10 _ value rest (by decide) further
          simp only [portValue?, found, if_pos (Nat.le_trans small bounded), ih _ further]

theorem explicit_port_decimal (scheme : Scheme) (number : Nat) (bounded : number ≤ 65535) :
    explicitPort scheme (':' :: Digits.decimal number) =
      .ok (if number = scheme.defaultPort then none else some number) := by
  have read : Digits.readOnto 10 0 (Digits.decimal number) = some number :=
    Digits.read_onto_to_digits 10 number (by decide) (by decide)
  have value := port_value_of_read 0 number _ bounded read
  rw [explicitPort, value]
  exact Digits.decimal_nonempty number

theorem port_value_bounded (soFar value : Nat) (digits : List Char) (small : soFar ≤ 65535)
    (known : portValue? soFar digits = some value) : value ≤ 65535 := by
  induction digits generalizing soFar with
  | nil => exact Option.some.inj known ▸ small
  | cons c rest ih =>
      cases found : Digits.inBase? 10 c with
      | none => simp [portValue?, found] at known
      | some digit =>
          simp only [portValue?, found] at known
          split at known
          · exact ih _ ‹_› known
          · simp at known

theorem explicit_port_kept (scheme : Scheme) (text : List Char) (number : Nat)
    (known : explicitPort scheme text = .ok (some number)) : number ≤ 65535 ∧ number ≠ scheme.defaultPort := by
  unfold explicitPort at known
  split at known
  · simp at known
  · simp at known
  · split at known
    · rename_i value found
      split at known
      · simp at known
      · rename_i other
        obtain rfl : value = number := by simpa using known
        exact ⟨port_value_bounded 0 value _ (by omega) found, other⟩
    · simp at known

theorem explicit_port_effective (scheme : Scheme) (mark : Char) (digits : List Char) (port : Option Nat)
    (known : explicitPort scheme (mark :: digits) = .ok port) :
    digits = [] ∧ port.getD scheme.defaultPort = scheme.defaultPort ∨
      Digits.read? 10 digits = some (port.getD scheme.defaultPort) := by
  cases digits with
  | nil =>
      simp only [explicitPort, Except.ok.injEq] at known
      exact .inl ⟨rfl, by simp [← known]⟩
  | cons c rest =>
      right
      rw [explicitPort] at known
      · cases found : portValue? 0 (c :: rest) with
        | none => simp [found] at known
        | some value =>
            simp only [found, Except.ok.injEq] at known
            -- The port of the scheme is left out, and comes back as the default.
            have effective : port.getD scheme.defaultPort = value := by
              by_cases standard : value = scheme.defaultPort <;> simp [← known, standard]
            rw [effective]
            exact port_value_reads 0 value (c :: rest) found
      · simp

end Url

namespace Host

-- Such a text would be a host with its port: a colon is allowed between brackets only, and these are closed.
theorem parse_no_port (host : Host) (front digits : List Char) (known : parse (front ++ ':' :: digits) = .ok host) :
    Digits.read? 10 digits = none := by
  cases found : Digits.read? 10 digits with
  | none => rfl
  | some value =>
      have decimal := Digits.read_digit 10 value digits found
      have several : digits ≠ [] := by
        rintro rfl
        simp [Digits.read?] at found
      unfold parse at known
      split at known
      · rename_i inner shape
        have last : inner.getLast? = digits.getLast? := by
          cases front with
          | nil => simp at shape
          | cons c front =>
              have tail : inner = front ++ ':' :: digits := (List.cons.inj shape).2.symm
              rw [tail, List.getLast?_append, List.getLast?_cons, List.getLast?_eq_getLast_of_ne_nil several]
              simp
        have open_ : bracketed? inner = none := by
          rw [bracketed?, if_neg]
          rw [last, List.getLast?_eq_getLast_of_ne_nil several]
          intro same
          have closing := decimal _ (List.getLast_mem several)
          rw [Option.some.inj same] at closing
          exact absurd closing (by decide)
        simp [open_] at known
      · rw [domain_refuses ':' _ (by decide) (by decide) (by decide) (by decide) (by simp)] at known
        simp at known

end Host

namespace Url

theorem host_and_port_iff (scheme : Scheme) (text : List Char) (host : Host) (port : Option Nat) :
    hostAndPort scheme text = .ok (host, port) ↔
      (cutHost false text).1 ≠ [] ∧ Host.parse (cutHost false text).1 = .ok host ∧
        explicitPort scheme (cutHost false text).2 = .ok port := by
  unfold hostAndPort
  dsimp only
  by_cases empty : (cutHost false text).1 = []
  · simp [empty]
  · rw [if_neg empty]
    cases parsed : Host.parse (cutHost false text).1 with
    | error error => simp
    | ok known => cases found : explicitPort scheme (cutHost false text).2 <;> simp [Except.map, empty]

-- No at sign, or nothing or a colon alone before the last one.
def NamesNobody (authority : List Char) : Prop :=
  ∀ front back, authority = front ++ '@' :: back → '@' ∉ back → front = [] ∨ front = [':']

-- A text ends in a colon and the digits of a port, or in no port at all where the port is the scheme's own.
def StatesPort (scheme : Scheme) (port : Nat) (authority : List Char) : Prop :=
  (∃ digits, ':' :: digits <:+ authority ∧ Digits.read? 10 digits = some port) ∨
    port = scheme.defaultPort ∧ ∀ digits, ':' :: digits <:+ authority → Digits.read? 10 digits = none

theorem names_nobody_iff (authority : List Char) :
    credentials ((cutUserinfo authority).1.getD []) = ([], none) ↔ NamesNobody authority := by
  by_cases present : '@' ∈ authority
  · obtain ⟨front, back, rfl, absent⟩ := last_at_sign authority present
    rw [cut_userinfo_last front back absent, Option.getD_some, credentials_empty]
    constructor
    · intro empty other rest same otherAbsent
      -- There is one last at sign, so both ways to cut the text at it are the same.
      have back_eq : back = rest := by rw [← after_last '@' front back absent, same, after_last '@' other rest otherAbsent]
      rw [back_eq] at same
      rwa [← List.append_cancel_right same]
    · intro nobody
      exact nobody front back rfl absent
  · rw [cut_userinfo_absent authority present]
    constructor
    · rintro - front back rfl
      simp at present
    · intro
      rfl

theorem read_excludes (c : Char) (value : Nat) (digits : List Char) (known : Digits.read? 10 digits = some value)
    (other : Digits.inBase? 10 c = none) : c ∉ digits := by
  intro member
  have digit := Digits.read_digit 10 value digits known c member
  simp [other] at digit

theorem stated_digits_unique (authority digits others : List Char) (value : Nat)
    (stated : ':' :: digits <:+ authority) (known : Digits.read? 10 digits = some value) (absent : ':' ∉ others)
    (other : ':' :: others <:+ authority) : digits = others := by
  have colon := read_excludes ':' value digits known (by decide)
  rcases List.suffix_or_suffix_of_suffix stated other with short | short
  · rcases List.suffix_cons_iff.mp short with same | within
    · exact List.tail_eq_of_cons_eq same
    · exact absurd (within.subset List.mem_cons_self) absent
  · rcases List.suffix_cons_iff.mp short with same | within
    · exact (List.tail_eq_of_cons_eq same).symm
    · exact absurd (within.subset List.mem_cons_self) colon

theorem states_port_user (scheme : Scheme) (port : Nat) (user server : List Char) :
    StatesPort scheme port (user ++ '@' :: server) ↔ StatesPort scheme port server := by
  -- Digits hold no at sign, so a port stated by the whole text is stated behind the user.
  have tail : ∀ digits value, Digits.read? 10 digits = some value →
      (':' :: digits <:+ user ++ '@' :: server ↔ ':' :: digits <:+ server) := by
    intro digits value known
    constructor
    · intro stated
      rcases List.suffix_or_suffix_of_suffix stated (List.suffix_append user ('@' :: server)) with short | short
      · rcases List.suffix_cons_iff.mp short with same | within
        · simp at same
        · exact within
      · rcases List.suffix_cons_iff.mp short with same | within
        · simp at same
        · exact absurd (within.subset List.mem_cons_self) (read_excludes '@' value digits known (by decide))
    · intro stated
      exact stated.trans ((List.suffix_cons '@' server).trans (List.suffix_append user _))
  constructor
  · rintro (⟨digits, stated, known⟩ | ⟨standard, silent⟩)
    · exact .inl ⟨digits, (tail digits port known).mp stated, known⟩
    · refine .inr ⟨standard, fun digits stated => ?_⟩
      exact silent digits (stated.trans ((List.suffix_cons '@' server).trans (List.suffix_append user _)))
  · rintro (⟨digits, stated, known⟩ | ⟨standard, silent⟩)
    · exact .inl ⟨digits, (tail digits port known).mpr stated, known⟩
    · refine .inr ⟨standard, fun digits stated => ?_⟩
      cases known : Digits.read? 10 digits with
      | none => rfl
      | some value => rw [← known, silent digits ((tail digits value known).mp stated)]

theorem states_port_silent (scheme : Scheme) (port : Nat) (text : List Char)
    (silent : ∀ digits, ':' :: digits <:+ text → Digits.read? 10 digits = none) :
    scheme.defaultPort = port ↔ StatesPort scheme port text := by
  constructor
  · intro standard
    exact .inr ⟨standard.symm, silent⟩
  · rintro (⟨digits, stated, known⟩ | ⟨standard, -⟩)
    · simp [silent digits stated] at known
    · exact standard.symm

theorem states_port_digits (scheme : Scheme) (port value : Nat) (front digits : List Char)
    (known : Digits.read? 10 digits = some value) : value = port ↔ StatesPort scheme port (front ++ ':' :: digits) := by
  have own : ':' :: digits <:+ front ++ ':' :: digits := List.suffix_append front _
  constructor
  · rintro rfl
    exact .inl ⟨digits, own, known⟩
  · rintro (⟨others, stated, found⟩ | ⟨-, silent⟩)
    · have colon := read_excludes ':' port others found (by decide)
      rw [stated_digits_unique _ digits others value own known colon stated, found] at known
      exact (Option.some.inj known).symm
    · simp [silent digits own] at known

theorem effective_port_iff (scheme : Scheme) (text : List Char) (host : Host) (port : Option Nat) (number : Nat)
    (known : hostAndPort scheme text = .ok (host, port)) :
    port.getD scheme.defaultPort = number ↔ StatesPort scheme number text := by
  obtain ⟨-, parsed, explicit⟩ := (host_and_port_iff scheme text host port).mp known
  have whole := cut_host_append false text
  rcases cut_host_rest false text with none | ⟨digits, some⟩
  -- No colon after the host. One inside of it states no port, or the host would have been refused.
  · rw [none, List.append_nil] at whole
    rw [none, explicitPort, Except.ok.injEq] at explicit
    rw [← explicit, Option.getD_none]
    apply states_port_silent
    rintro digits ⟨front, same⟩
    rw [whole, ← same] at parsed
    exact Host.parse_no_port host front digits parsed
  · rw [some] at whole explicit
    rcases explicit_port_effective scheme ':' digits port explicit with ⟨rfl, standard⟩ | stated
    -- A colon and no digits.
    · rw [standard]
      apply states_port_silent
      intro others other
      cases found : Digits.read? 10 others with
      | none => rfl
      | some value =>
          have empty := stated_digits_unique text others [] value other found (by simp) ⟨_, whole⟩
          simp [empty, Digits.read?] at found
    · rw [← whole]
      exact states_port_digits scheme number _ _ digits stated

end Url

end HostTools
