import Mathlib
import HostTools.Text.Utf8

set_option autoImplicit false

namespace HostTools.Utf8

theorem encode_low (c : Char) (low : c.toNat < 0x80) : String.utf8EncodeChar c = [UInt8.ofNat c.toNat] := by
  have bound : c.val.toNat ≤ 0x7f := by
    change c.toNat ≤ 0x7f
    omega
  simp only [String.utf8EncodeChar, if_pos bound]
  rfl

theorem byte_of_low (c : Char) (low : c.toNat < 0x80) : (UInt8.ofNat c.toNat).toNat = c.toNat :=
  UInt8.toNat_ofNat_of_lt' (by simp only [UInt8.size]; omega)

theorem low_byte (c : Char) (low : c.toNat < 0x80) : UInt8.ofNat c.toNat < 0x80 := by
  rw [UInt8.lt_iff_toNat_lt, byte_of_low c low]
  exact low

theorem low_byte_unique (c d : Char) (low : c.toNat < 0x80) (other : d.toNat < 0x80)
    (same : UInt8.ofNat c.toNat = UInt8.ofNat d.toNat) : c = d := by
  apply Char.toNat_inj.mp
  rw [← byte_of_low c low, same, byte_of_low d other]

theorem encode_byte (byte : UInt8) (low : byte.toNat < 0x80) : String.utf8EncodeChar (Char.ofNat byte.toNat) = [byte] := by
  have number : (Char.ofNat byte.toNat).toNat = byte.toNat := by
    rw [Char.toNat_ofNat, if_pos (.inl (by omega))]
  rw [encode_low _ (by omega), number, UInt8.ofNat_toNat]

theorem first_low (byte : UInt8) (low : byte < 0x80) : first byte = .emit (Char.ofNat byte.toNat) := by
  simp [first, low]

theorem of_chars_low (text : List Char) (low : ∀ c ∈ text, c.toNat < 0x80) :
    Bytes.ofChars text = text.map fun c => UInt8.ofNat c.toNat := by
  induction text with
  | nil => rfl
  | cons c rest ih =>
      have tail := ih fun d later => low d (List.mem_cons_of_mem c later)
      simp only [Bytes.ofChars, List.flatMap_cons, encode_low c (low c List.mem_cons_self), List.map_cons] at tail ⊢
      rw [tail]
      rfl

theorem to_char_low (byte : UInt8) (low : byte < 0x80) : (Bytes.toChar byte).toNat < 0x80 := by
  have small : byte.toNat < 0x80 := low
  have valid : byte.toNat.isValidChar := .inl (by omega)
  rw [Bytes.toChar, Char.toNat_ofNat, if_pos valid]
  exact small

theorem strict_low (bytes : Bytes) (low : ∀ byte ∈ bytes, byte < 0x80) :
    strictFrom none bytes = some (bytes.map Bytes.toChar) := by
  induction bytes with
  | nil => rfl
  | cons byte rest ih =>
      have later := ih fun other member => low other (List.mem_cons_of_mem byte member)
      simp [strictFrom, first_low byte (low byte List.mem_cons_self), later, Bytes.toChar]

-- No unfinished character waits for an ASCII octet.
def WaitsAbove : Option Unfinished → Prop
  | none => True
  | some state => 0x80 ≤ state.low.toNat

theorem first_waits_above (byte : UInt8) (state : Unfinished) (move : first byte = .wait state) :
    WaitsAbove (some state) := by
  unfold first at move
  repeat' split at move
  all_goals cases move
  all_goals simp [WaitsAbove]

theorem next_waits_above (before state : Unfinished) (byte : UInt8) (move : next before byte = .wait state) :
    WaitsAbove (some state) := by
  unfold next at move
  repeat' split at move
  all_goals cases move
  all_goals simp [WaitsAbove]

theorem strict_keeps (byte : UInt8) (bytes : Bytes) (state : Option Unfinished) (text : List Char)
    (low : byte < 0x80) (above : WaitsAbove state) (known : strictFrom state bytes = some text)
    (member : byte ∈ bytes) : Char.ofNat byte.toNat ∈ text := by
  induction bytes generalizing state text with
  | nil => simp at member
  | cons next rest ih =>
      cases state with
      | none =>
          rw [strictFrom] at known
          split at known
          · rename_i char move
            obtain ⟨later, found, rfl⟩ := Option.map_eq_some_iff.mp known
            rcases List.mem_cons.mp member with rfl | inside
            · rw [first_low byte low] at move
              injection move with same
              simp [same]
            · exact List.mem_cons_of_mem char (ih none later trivial found inside)
          · rename_i waiting move
            rcases List.mem_cons.mp member with rfl | inside
            · simp [first_low byte low] at move
            · exact ih (some waiting) text (first_waits_above next waiting move) known inside
          · simp at known
      | some waiting =>
          -- Inside a character only octets above ASCII are admitted, so the octet is among those that follow.
          have refused : byte = next → Utf8.next waiting next = .refuse := by
            rintro rfl
            rw [Utf8.next, if_neg]
            rintro ⟨bound, -⟩
            have reach : 0x80 ≤ waiting.low.toNat := above
            rw [UInt8.le_iff_toNat_le] at bound
            rw [UInt8.lt_iff_toNat_lt] at low
            have limit : (0x80 : UInt8).toNat = 0x80 := rfl
            omega
          have later : byte ∈ rest := by
            rcases List.mem_cons.mp member with same | inside
            · rw [strictFrom, refused same] at known
              simp at known
            · exact inside
          rw [strictFrom] at known
          split at known
          · rename_i char move
            obtain ⟨tail, found, rfl⟩ := Option.map_eq_some_iff.mp known
            exact List.mem_cons_of_mem char (ih none tail trivial found later)
          · rename_i further move
            exact ih (some further) text (next_waits_above waiting further next move) known later
          · simp at known

end HostTools.Utf8
