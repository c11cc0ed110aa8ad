import Mathlib
import HostTools.Url.Percent
import HostTools.Proofs.Text.Encoding
import HostTools.Proofs.Text.Utf8

set_option autoImplicit false

namespace HostTools.Percent

def Settled (replaced : Char → Bool) (text : List Char) : Prop := ∀ c ∈ text, c.toNat < 0x80 ∧ replaced c = false

-- A set without the characters of triplets.
def Spares (replaced : Char → Bool) : Prop := replaced '%' = false ∧ ∀ value < 16, replaced (upperDigit value) = false

theorem spares_path : Spares inPath := ⟨by decide, by decide⟩

theorem spares_query : Spares inQuery := ⟨by decide, by decide⟩

theorem spares_fragment : Spares inFragment := ⟨by decide, by decide⟩

theorem spares_userinfo : Spares inUserinfo := ⟨by decide, by decide⟩

theorem encode_settled (replaced : Char → Bool) (text : List Char) (settled : Settled replaced text) :
    encode replaced text = text := by
  induction text with
  | nil => rfl
  | cons c rest ih =>
      obtain ⟨low, kept⟩ := settled c List.mem_cons_self
      have high : ¬ 0x80 ≤ c.toNat := by omega
      have single : char replaced c = [c] := by simp [char, kept, high]
      have further := ih fun d later => settled d (List.mem_cons_of_mem c later)
      rw [encode] at further ⊢
      rw [List.flatMap_cons, single, further]
      rfl

def InTriplet (c : Char) : Prop := c = '%' ∨ ∃ value < 16, c = upperDigit value

theorem triplet_char (byte : UInt8) (c : Char) (member : c ∈ triplet byte) : InTriplet c := by
  have bound := byte.toNat_lt
  simp only [triplet, List.mem_cons, List.not_mem_nil, or_false] at member
  rcases member with rfl | rfl | rfl
  · exact .inl rfl
  · exact .inr ⟨byte.toNat / 16, by omega, rfl⟩
  · exact .inr ⟨byte.toNat % 16, by omega, rfl⟩

theorem encode_char (replaced : Char → Bool) (text : List Char) (c : Char) (member : c ∈ encode replaced text) :
    InTriplet c ∨ c ∈ text ∧ c.toNat < 0x80 ∧ replaced c = false := by
  obtain ⟨d, inside, found⟩ := List.mem_flatMap.mp member
  unfold char at found
  split at found
  · obtain ⟨byte, -, own⟩ := List.mem_flatMap.mp found
    exact .inl (triplet_char byte c own)
  · rename_i kept
    simp only [Bool.or_eq_true, decide_eq_true_eq, not_or, Bool.not_eq_true] at kept
    rw [List.mem_singleton.mp found]
    exact .inr ⟨inside, by omega, kept.1⟩

theorem in_triplet_low (c : Char) (own : InTriplet c) : c.toNat < 0x80 := by
  have low : ∀ value < 16, (upperDigit value).toNat < 0x80 := by decide
  rcases own with rfl | ⟨value, small, rfl⟩
  · decide
  · exact low value small

theorem settled_encode (replaced : Char → Bool) (spares : Spares replaced) (text : List Char) :
    Settled replaced (encode replaced text) := by
  intro c member
  rcases encode_char replaced text c member with own | ⟨-, low, kept⟩
  · refine ⟨in_triplet_low c own, ?_⟩
    rcases own with rfl | ⟨value, small, rfl⟩
    · exact spares.1
    · exact spares.2 value small
  · exact ⟨low, kept⟩

theorem decode_plain (bytes : Bytes) (plain : 0x25 ∉ bytes) : decode bytes = bytes := by
  fun_induction decode bytes with
  | case1 | case2 | case3 => rfl
  | case4 b c rest high low found value ih => simp at plain
  | case5 b c rest other ih => simp at plain
  | case6 a b c rest escaped ih => simp_all

theorem decode_triplet (b c : UInt8) (rest : Bytes) (high low : Nat) (first : Bytes.hexDigit? b = some high)
    (second : Bytes.hexDigit? c = some low) : decode (0x25 :: b :: c :: rest) = UInt8.ofNat (high * 16 + low) :: decode rest := by
  simp [decode, first, second]

theorem decode_kept (a : UInt8) (rest : Bytes)
    (kept : a ≠ 0x25 ∨ ∀ b c more, rest = b :: c :: more → Bytes.hexDigit? b = none ∨ Bytes.hexDigit? c = none) :
    decode (a :: rest) = a :: decode rest := by
  match rest with
  | [] => rfl
  | [_] => rfl
  | b :: c :: more =>
      rw [decode]
      split
      · rename_i escaped
        split
        · rename_i first second
          rcases kept.resolve_left (not_not.mpr escaped) b c more rfl with none | none
          · simp [none] at first
          · simp [none] at second
        · rfl
      · rfl

theorem upper_digit_hex : ∀ value < 16, Bytes.hexDigit? (UInt8.ofNat (upperDigit value).toNat) = some value := by decide

theorem of_chars_triplet (byte : UInt8) :
    Bytes.ofChars (triplet byte) = [0x25, UInt8.ofNat (upperDigit (byte.toNat / 16)).toNat,
      UInt8.ofNat (upperDigit (byte.toNat % 16)).toNat] :=
  Utf8.of_chars_low _ fun c member => in_triplet_low c (triplet_char byte c member)

theorem decode_triplets (bytes : Bytes) : decode (Bytes.ofChars (bytes.flatMap triplet)) = bytes := by
  induction bytes with
  | nil => rfl
  | cons byte rest ih =>
      have bound := byte.toNat_lt
      have whole : byte.toNat / 16 * 16 + byte.toNat % 16 = byte.toNat := by omega
      have first := upper_digit_hex (byte.toNat / 16) (by omega)
      have second := upper_digit_hex (byte.toNat % 16) (by omega)
      rw [List.flatMap_cons, Bytes.of_chars_append, of_chars_triplet, List.cons_append, List.cons_append, List.cons_append,
        List.nil_append, decode_triplet _ _ _ _ _ first second, ih, whole, UInt8.ofNat_toNat]

-- Only a triplet can reach over a place in the text, and a mark is in none.
theorem decode_parts (front back : Bytes) (mark : UInt8) (other : mark ≠ 0x25) (noDigit : Bytes.hexDigit? mark = none) :
    decode (front ++ mark :: back) = decode front ++ mark :: decode back := by
  have start : decode (mark :: back) = mark :: decode back := decode_kept mark back (.inl other)
  fun_induction decode front with
  | case1 => exact start
  | case2 a =>
      rw [List.singleton_append, decode_kept a _ (.inr ?_), start]
      · rfl
      · rintro b c more shape
        exact .inl ((List.cons.inj shape).1 ▸ noDigit)
  | case3 a b =>
      rw [List.cons_append, List.singleton_append, decode_kept a _ (.inr ?_), decode_kept b _ (.inr ?_), start]
      · rfl
      · rintro c d more shape
        exact .inl ((List.cons.inj shape).1 ▸ noDigit)
      · rintro c d more shape
        exact .inr ((List.cons.inj (List.cons.inj shape).2).1 ▸ noDigit)
  | case4 b c rest high low second first ih =>
      rw [List.cons_append, List.cons_append, List.cons_append, decode_triplet b c _ high low first second, ih]
      rfl
  | case5 b c rest broken ih =>
      rw [List.cons_append, decode_kept _ _ (.inr ?_), ih]
      · rfl
      · rintro d e more shape
        obtain ⟨rfl, tail⟩ := List.cons.inj shape
        obtain ⟨rfl, -⟩ := List.cons.inj tail
        cases first : Bytes.hexDigit? b with
        | none => exact .inl rfl
        | some high =>
            cases second : Bytes.hexDigit? c with
            | none => exact .inr rfl
            | some low => exact (broken high low first second).elim
  | case6 a b c rest escaped ih =>
      rw [List.cons_append, decode_kept a _ (.inl escaped), ih]
      rfl

theorem decode_keeps (byte : UInt8) (bytes : Bytes) (other : byte ≠ 0x25) (noDigit : Bytes.hexDigit? byte = none)
    (member : byte ∈ bytes) : byte ∈ decode bytes := by
  obtain ⟨front, back, rfl⟩ := List.append_of_mem member
  rw [decode_parts front back byte other noDigit]
  simp

def IsMark (c : Char) : Prop := c.toNat < 0x80 ∧ UInt8.ofNat c.toNat ≠ 0x25 ∧ Bytes.hexDigit? (UInt8.ofNat c.toNat) = none

instance : DecidablePred IsMark := fun _ => inferInstanceAs (Decidable (_ ∧ _ ∧ _))

def DecodesLow (text : List Char) : Prop := ∀ byte ∈ decode (Bytes.ofChars text), byte < 0x80

theorem decodes_low_parts (front back : List Char) (mark : Char) (own : IsMark mark) :
    DecodesLow (front ++ mark :: back) ↔ DecodesLow front ∧ DecodesLow back := by
  obtain ⟨low, other, noDigit⟩ := own
  rw [DecodesLow, Bytes.of_chars_append, Bytes.of_chars_cons, Utf8.encode_low mark low, List.singleton_append,
    decode_parts _ _ _ other noDigit]
  constructor
  · intro whole
    exact ⟨fun byte member => whole byte (by simp [member]), fun byte member => whole byte (by simp [member])⟩
  · rintro ⟨first, second⟩ byte member
    rcases List.mem_append.mp member with early | late
    · exact first byte early
    · rcases List.mem_cons.mp late with rfl | later
      · exact Utf8.low_byte mark low
      · exact second byte later

end HostTools.Percent
