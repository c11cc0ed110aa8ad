import Mathlib
import HostTools.Proofs.Text.Utf8

set_option autoImplicit false

namespace HostTools

namespace Bytes

theorem each_octet (P : UInt8 → Prop) (each : ∀ n < 256, P (UInt8.ofNat n)) (byte : UInt8) : P byte := by
  have here := each byte.toNat byte.toNat_lt
  rwa [UInt8.ofNat_toNat] at here

theorem of_chars_cons (c : Char) (rest : List Char) : ofChars (c :: rest) = String.utf8EncodeChar c ++ ofChars rest :=
  List.flatMap_cons

theorem of_chars_append (front back : List Char) : ofChars (front ++ back) = ofChars front ++ ofChars back :=
  List.flatMap_append

theorem of_chars_flatten (pieces : List (List Char)) : ofChars pieces.flatten = (pieces.map ofChars).flatten := by
  induction pieces with
  | nil => rfl
  | cons piece pieces ih => rw [List.flatten_cons, of_chars_append, ih, List.map_cons, List.flatten_cons]

end Bytes

namespace Utf8

-- The machine brings an unfinished character to its end.
inductive Completes : Unfinished → Bytes → Char → Prop
  | last {state : Unfinished} {byte : UInt8} {c : Char} (move : next state byte = .emit c) : Completes state [byte] c
  | more {state further : Unfinished} {byte : UInt8} {rest : Bytes} {c : Char} (move : next state byte = .wait further)
      (later : Completes further rest c) : Completes state (byte :: rest) c

inductive Reads : Bytes → Char → Prop
  | single {byte : UInt8} {c : Char} (move : first byte = .emit c) : Reads [byte] c
  | several {state : Unfinished} {byte : UInt8} {rest : Bytes} {c : Char} (move : first byte = .wait state)
      (later : Completes state rest c) : Reads (byte :: rest) c

theorem next_last (state : Unfinished) (byte : UInt8) (c : Char) (owed : state.owed = 1)
    (low : state.low.toNat ≤ byte.toNat) (high : byte.toNat ≤ state.high.toNat)
    (bits : state.bits * 64 + (byte.toNat - 0x80) = c.toNat) : next state byte = .emit c := by
  have range : state.low ≤ byte ∧ byte ≤ state.high := ⟨UInt8.le_iff_toNat_le.mpr low, UInt8.le_iff_toNat_le.mpr high⟩
  simp only [next, if_pos range, owed, Nat.le_refl, if_true, bits, Char.ofNat_toNat]

theorem next_more (state : Unfinished) (byte : UInt8) (owed : Nat) (further : state.owed = owed + 2)
    (low : state.low.toNat ≤ byte.toNat) (high : byte.toNat ≤ state.high.toNat) :
    next state byte = .wait ⟨owed + 1, 0x80, 0xbf, state.bits * 64 + (byte.toNat - 0x80)⟩ := by
  have range : state.low ≤ byte ∧ byte ≤ state.high := ⟨UInt8.le_iff_toNat_le.mpr low, UInt8.le_iff_toNat_le.mpr high⟩
  have several : ¬ owed + 2 ≤ 1 := by omega
  simp only [next, if_pos range, further, if_neg several, Nat.reduceSubDiff]

-- The bounds of the second octet keep out overlong forms, surrogates and what lies beyond the last character.
theorem first_wait (byte : UInt8) (low : 0xc2 ≤ byte.toNat) (high : byte.toNat ≤ 0xf4) :
    first byte = .wait
      (if byte.toNat < 0xe0 then ⟨1, 0x80, 0xbf, byte.toNat - 0xc0⟩
      else if byte.toNat < 0xf0 then
        ⟨2, if byte.toNat = 0xe0 then 0xa0 else 0x80, if byte.toNat = 0xed then 0x9f else 0xbf, byte.toNat - 0xe0⟩
      else
        ⟨3, if byte.toNat = 0xf0 then 0x90 else 0x80, if byte.toNat = 0xf4 then 0x8f else 0xbf, byte.toNat - 0xf0⟩) := by
  have same : byte = UInt8.ofNat byte.toNat := (UInt8.ofNat_toNat).symm
  rw [same]
  generalize byte.toNat = n at low high
  interval_cases n <;> rfl

theorem char_range (c : Char) : c.toNat < 0xd800 ∨ 0xdfff < c.toNat ∧ c.toNat < 0x110000 := c.valid

theorem small_byte (n : Nat) (small : n < 256) : (UInt8.ofNat n).toNat = n :=
  UInt8.toNat_ofNat_of_lt' (by simpa only [UInt8.size] using small)

theorem reads_two (c : Char) (low : 0x7f < c.toNat) (high : c.toNat ≤ 0x7ff) :
    Reads [UInt8.ofNat (c.toNat / 64 % 0x20 + 0xc0), UInt8.ofNat (c.toNat % 0x40 + 0x80)] c := by
  have lead := small_byte (c.toNat / 64 % 0x20 + 0xc0) (by omega)
  have tail := small_byte (c.toNat % 0x40 + 0x80) (by omega)
  have waits := first_wait (UInt8.ofNat (c.toNat / 64 % 0x20 + 0xc0)) (by omega) (by omega)
  rw [if_pos (by omega)] at waits
  refine .several waits (.last (next_last _ _ c rfl ?_ ?_ ?_))
  · change 0x80 ≤ _
    omega
  · change _ ≤ 0xbf
    omega
  · change (_ - 0xc0) * 64 + _ = _
    omega

theorem reads_three (c : Char) (low : 0x7ff < c.toNat) (high : c.toNat ≤ 0xffff) :
    Reads [UInt8.ofNat (c.toNat / 4096 % 0x10 + 0xe0), UInt8.ofNat (c.toNat / 64 % 0x40 + 0x80),
      UInt8.ofNat (c.toNat % 0x40 + 0x80)] c := by
  have range := char_range c
  have lead := small_byte (c.toNat / 4096 % 0x10 + 0xe0) (by omega)
  have middle := small_byte (c.toNat / 64 % 0x40 + 0x80) (by omega)
  have tail := small_byte (c.toNat % 0x40 + 0x80) (by omega)
  have waits := first_wait (UInt8.ofNat (c.toNat / 4096 % 0x10 + 0xe0)) (by omega) (by omega)
  rw [if_neg (by omega), if_pos (by omega)] at waits
  refine .several waits (.more (next_more _ _ 0 rfl ?_ ?_) (.last (next_last _ _ c rfl ?_ ?_ ?_)))
  -- The second octet starts higher after the lead of overlong forms, and ends lower after that of surrogates.
  · change (if _ then (0xa0 : UInt8) else 0x80).toNat ≤ _
    split
    · change 0xa0 ≤ _
      omega
    · change 0x80 ≤ _
      omega
  · change _ ≤ (if _ then (0x9f : UInt8) else 0xbf).toNat
    split
    · change _ ≤ 0x9f
      omega
    · change _ ≤ 0xbf
      omega
  · change 0x80 ≤ _
    omega
  · change _ ≤ 0xbf
    omega
  · change ((_ - 0xe0) * 64 + _) * 64 + _ = _
    omega

theorem reads_four (c : Char) (low : 0xffff < c.toNat) :
    Reads [UInt8.ofNat (c.toNat / 262144 % 0x08 + 0xf0), UInt8.ofNat (c.toNat / 4096 % 0x40 + 0x80),
      UInt8.ofNat (c.toNat / 64 % 0x40 + 0x80), UInt8.ofNat (c.toNat % 0x40 + 0x80)] c := by
  have range := char_range c
  have lead := small_byte (c.toNat / 262144 % 0x08 + 0xf0) (by omega)
  have second := small_byte (c.toNat / 4096 % 0x40 + 0x80) (by omega)
  have third := small_byte (c.toNat / 64 % 0x40 + 0x80) (by omega)
  have tail := small_byte (c.toNat % 0x40 + 0x80) (by omega)
  have waits := first_wait (UInt8.ofNat (c.toNat / 262144 % 0x08 + 0xf0)) (by omega) (by omega)
  rw [if_neg (by omega), if_neg (by omega)] at waits
  refine .several waits (.more (next_more _ _ 1 rfl ?_ ?_) (.more (next_more _ _ 0 rfl ?_ ?_)
    (.last (next_last _ _ c rfl ?_ ?_ ?_))))
  -- Here the lower bound keeps overlong forms out, and the upper one what is beyond Unicode.
  · change (if _ then (0x90 : UInt8) else 0x80).toNat ≤ _
    split
    · change 0x90 ≤ _
      omega
    · change 0x80 ≤ _
      omega
  · change _ ≤ (if _ then (0x8f : UInt8) else 0xbf).toNat
    split
    · change _ ≤ 0x8f
      omega
    · change _ ≤ 0xbf
      omega
  · change 0x80 ≤ _
    omega
  · change _ ≤ 0xbf
    omega
  · change 0x80 ≤ _
    omega
  · change _ ≤ 0xbf
    omega
  · change (((_ - 0xf0) * 64 + _) * 64 + _) * 64 + _ = _
    omega

theorem encode_reads (c : Char) : Reads (String.utf8EncodeChar c) c := by
  have value : c.val.toNat = c.toNat := rfl
  by_cases one : c.toNat < 0x80
  · have byte := byte_of_low c one
    rw [encode_low c one]
    exact .single (by rw [first_low _ (low_byte c one), byte, Char.ofNat_toNat])
  · simp only [String.utf8EncodeChar, value]
    rw [if_neg (by omega)]
    split
    · exact reads_two c (by omega) ‹_›
    · split
      · exact reads_three c (by omega) ‹_›
      · exact reads_four c (by omega)

theorem encode_high (c : Char) (high : 0x80 ≤ c.toNat) (byte : UInt8) (member : byte ∈ String.utf8EncodeChar c) :
    0x80 ≤ byte.toNat := by
  have range := char_range c
  have value : c.val.toNat = c.toNat := rfl
  have marked : ∀ n, 0x80 ≤ n → n < 256 → 0x80 ≤ (UInt8.ofNat n).toNat := by
    intro n low small
    rwa [small_byte n small]
  simp only [String.utf8EncodeChar, value] at member
  rw [if_neg (by omega)] at member
  split at member
  · simp only [List.mem_cons, List.not_mem_nil, or_false] at member
    rcases member with rfl | rfl <;> exact marked _ (by omega) (by omega)
  · split at member
    · simp only [List.mem_cons, List.not_mem_nil, or_false] at member
      rcases member with rfl | rfl | rfl <;> exact marked _ (by omega) (by omega)
    · simp only [List.mem_cons, List.not_mem_nil, or_false] at member
      rcases member with rfl | rfl | rfl | rfl <;> exact marked _ (by omega) (by omega)

theorem low_byte_absent (mark : Char) (text : List Char) (low : mark.toNat < 0x80) (absent : mark ∉ text) :
    UInt8.ofNat mark.toNat ∉ Bytes.ofChars text := by
  intro member
  obtain ⟨c, inside, encoded⟩ := List.mem_flatMap.mp member
  by_cases ascii : c.toNat < 0x80
  · rw [encode_low c ascii, List.mem_singleton] at encoded
    exact absent (low_byte_unique mark c low ascii encoded ▸ inside)
  · have high := encode_high c (by omega) _ encoded
    rw [byte_of_low mark low] at high
    omega

theorem completes_cons (state : Unfinished) (byte : UInt8) (rest : Bytes) (c : Char) :
    Completes state (byte :: rest) c ↔
      next state byte = .emit c ∧ rest = [] ∨ ∃ further, next state byte = .wait further ∧ Completes further rest c := by
  constructor
  · intro completes
    cases completes with
    | last move => exact .inl ⟨move, rfl⟩
    | more move later => exact .inr ⟨_, move, later⟩
  · rintro (⟨move, rfl⟩ | ⟨further, move, later⟩)
    · exact .last move
    · exact .more move later

theorem reads_cons (byte : UInt8) (rest : Bytes) (c : Char) :
    Reads (byte :: rest) c ↔
      first byte = .emit c ∧ rest = [] ∨ ∃ state, first byte = .wait state ∧ Completes state rest c := by
  constructor
  · intro reads
    cases reads with
    | single move => exact .inl ⟨move, rfl⟩
    | several move later => exact .inr ⟨_, move, later⟩
  · rintro (⟨move, rfl⟩ | ⟨state, move, later⟩)
    · exact .single move
    · exact .several move later

theorem completes_initial (state : Unfinished) (front rest : Bytes) (c d : Char) (here : Completes state front c)
    (there : Completes state (front ++ rest) d) : c = d ∧ rest = [] := by
  induction here with
  | last move => simpa [completes_cons, move] using there
  | more move _ ih => exact ih (by simpa [completes_cons, move] using there)

-- No character's octets start with those of another.
theorem reads_initial (front rest : Bytes) (c d : Char) (here : Reads front c) (there : Reads (front ++ rest) d) :
    c = d ∧ rest = [] := by
  cases here with
  | single move => simpa [reads_cons, move] using there
  | several move later => exact completes_initial _ _ rest c d later (by simpa [reads_cons, move] using there)

theorem encode_initial (c d : Char) (bytes : Bytes) (here : String.utf8EncodeChar c <+: bytes)
    (there : String.utf8EncodeChar d <+: bytes) : c = d := by
  rcases List.prefix_or_prefix_of_prefix here there with ⟨rest, longer⟩ | ⟨rest, longer⟩
  · exact (reads_initial _ rest c d (encode_reads c) (longer ▸ encode_reads d)).1
  · exact (reads_initial _ rest d c (encode_reads d) (longer ▸ encode_reads c)).1.symm

theorem of_chars_front (word text : List Char) (rest : Bytes)
    (shape : Bytes.ofChars text = Bytes.ofChars word ++ rest) : ∃ tail, text = word ++ tail ∧ rest = Bytes.ofChars tail := by
  induction word generalizing text with
  | nil => exact ⟨text, rfl, shape.symm⟩
  | cons c word ih =>
      rw [Bytes.of_chars_cons, List.append_assoc] at shape
      cases text with
      | nil => exact absurd (List.append_eq_nil_iff.mp shape.symm).1 String.utf8EncodeChar_ne_nil
      | cons d text =>
          rw [Bytes.of_chars_cons] at shape
          obtain rfl := encode_initial c d _ (List.prefix_append _ _) (shape ▸ List.prefix_append _ _)
          obtain ⟨tail, rfl, after⟩ := ih text (List.append_cancel_left shape)
          exact ⟨tail, rfl, after⟩

theorem strict_completes (state : Unfinished) (bytes rest : Bytes) (c : Char) (completes : Completes state bytes c) :
    strictFrom (some state) (bytes ++ rest) = (strictFrom none rest).map (c :: ·) := by
  induction completes with
  | last move => simp [strictFrom, move]
  | more move _ ih => simpa [strictFrom, move] using ih

theorem strict_reads (bytes rest : Bytes) (c : Char) (reads : Reads bytes c) :
    strictFrom none (bytes ++ rest) = (strictFrom none rest).map (c :: ·) := by
  cases reads with
  | single move => simp [strictFrom, move]
  | several move later => simpa [strictFrom, move] using strict_completes _ _ rest c later

theorem strict_of_chars (text : List Char) : strictFrom none (Bytes.ofChars text) = some text := by
  induction text with
  | nil => rfl
  | cons c rest ih => rw [Bytes.of_chars_cons, strict_reads _ _ c (encode_reads c), ih, Option.map_some]

theorem lossy_completes (state : Unfinished) (bytes rest : Bytes) (c : Char) (completes : Completes state bytes c) :
    lossyFrom (some state) (bytes ++ rest) = c :: lossyFrom none rest := by
  induction completes with
  | last move => simp [lossyFrom, move]
  | more move _ ih => simpa [lossyFrom, move] using ih

theorem lossy_reads (bytes rest : Bytes) (c : Char) (reads : Reads bytes c) :
    lossyFrom none (bytes ++ rest) = c :: lossyFrom none rest := by
  cases reads with
  | single move => simp [lossyFrom, move]
  | several move later => simpa [lossyFrom, move] using lossy_completes _ _ rest c later

theorem lossy_chars_append (text : List Char) (rest : Bytes) :
    lossyFrom none (Bytes.ofChars text ++ rest) = text ++ lossyFrom none rest := by
  induction text with
  | nil => rfl
  | cons c text ih =>
      rw [Bytes.of_chars_cons, List.append_assoc, lossy_reads _ _ c (encode_reads c), ih]
      rfl

theorem lossy_text_append (text : String) (rest : Bytes) : lossy (Bytes.ofText text ++ rest) = text ++ lossy rest := by
  apply String.toList_inj.mp
  rw [lossy, Bytes.ofText, lossy_chars_append, String.toList_append, String.toList_ofList, lossy, String.toList_ofList]

theorem lossy_of_text (text : String) : lossy (Bytes.ofText text) = text := by
  have whole := lossy_text_append text []
  rwa [List.append_nil, show lossy [] = "" from rfl, String.append_empty] at whole

end Utf8

end HostTools
