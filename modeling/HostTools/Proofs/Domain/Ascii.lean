import Mathlib
import HostTools.Url.Host
import HostTools.Proofs.Text.Composition
import HostTools.Proofs.Text.Encoding
import HostTools.Proofs.Text.Pieces
import HostTools.Proofs.Url.Percent

set_option autoImplicit false

namespace HostTools

namespace Domain

def IsPlain (c : Char) : Prop := c.toNat < 0x80 ∧ c.toLower = c ∧ isForbidden c = false

instance : DecidablePred IsPlain := fun _ => inferInstanceAs (Decidable (_ ∧ _ ∧ _))

theorem reading_low (c : Char) (low : c.toNat < 0x80) : reading? c = some [c.toLower] := by
  simp [reading?, Punycode.isBasic, low]

theorem lower_low (c : Char) (low : c.toNat < 0x80) : c.toLower.toNat < 0x80 ∧ c.toLower.toLower = c.toLower := by
  have each : ∀ n < 0x80, (Char.ofNat n).toLower.toNat < 0x80 ∧ (Char.ofNat n).toLower.toLower = (Char.ofNat n).toLower := by
    decide
  simpa only [Char.ofNat_toNat] using each c.toNat low

theorem settled_low (text : List Char) (low : ∀ c ∈ text, c.toNat < 0x80) :
    settled? text =
      if (text.map Char.toLower).any isForbidden then none else some (text.map Char.toLower) := by
  have readings : text.mapM reading? = some (text.map fun c => [c.toLower]) := by
    rw [Pieces.all_read_iff, List.forall₂_map_right_iff, List.forall₂_same]
    exact fun c member => reading_low c (low c member)
  have flat : (text.map fun c => [c.toLower]).flatten = text.map Char.toLower := by
    rw [← List.flatMap_def, ← List.map_eq_flatMap]
  have lowered : ∀ c ∈ text.map Char.toLower, c.toNat < 0x80 := by
    intro c member
    obtain ⟨d, inside, rfl⟩ := List.mem_map.mp member
    exact (lower_low d (low d inside)).1
  simp only [settled?, readings, flat, Composition.compose_inert _ fun c member => Composition.low_inert c (lowered c member)]

theorem settled_plain (text : List Char) (plain : ∀ c ∈ text, IsPlain c) : settled? text = some text := by
  have lower : text.map Char.toLower = text :=
    (List.map_congr_left fun c member => (plain c member).2.1).trans (List.map_id _)
  have allowed : text.any isForbidden = false := by
    rw [List.any_eq_false]
    intro c member
    rw [(plain c member).2.2]
    simp
  rw [settled_low text fun c member => (plain c member).1, lower, allowed]
  rfl

theorem direction_low (c : Char) (low : c.toNat < 0x80) : Label.turns (Direction.of c) = false := by
  simp only [Direction.of, if_pos low]
  split
  · rfl
  · split <;> rfl

theorem directions_low (texts : List (List Char)) (low : ∀ text ∈ texts, ∀ c ∈ text, c.toNat < 0x80) :
    directionsFit texts = true := by
  have straight : (texts.map (·.map Direction.of)).any (·.any Label.turns) = false := by
    simp only [List.any_map, List.any_eq_false, Function.comp_apply, Bool.not_eq_true]
    exact fun text member c inside => direction_low c (low text member c inside)
  simp [directionsFit, straight]

theorem settled_allowed (text settled : List Char) (known : settled? text = some settled) :
    ∀ c ∈ settled, isForbidden c = false := by
  unfold settled? at known
  split at known
  · dsimp only at known
    split at known
    · simp at known
    · rename_i readings _ allowed
      rw [← Option.some.inj known]
      simpa using allowed
  · simp at known

theorem settled_is_plain (text settled : List Char) (low : ∀ c ∈ text, c.toNat < 0x80)
    (known : settled? text = some settled) : ∀ c ∈ settled, IsPlain c := by
  have allowed := settled_allowed text settled known
  rw [settled_low text low] at known
  split at known
  · simp at known
  · intro c member
    have own := allowed c member
    rw [← Option.some.inj known] at member
    obtain ⟨d, inside, rfl⟩ := List.mem_map.mp member
    obtain ⟨small, again⟩ := lower_low d (low d inside)
    exact ⟨small, again, own⟩

theorem labels_low (text : List Char) (low : ∀ c ∈ text, c.toNat < 0x80) :
    ∀ label ∈ Pieces.split '.' text, Label.isAscii label = true := by
  intro label member
  apply List.all_eq_true.mpr
  intro c inside
  simpa [Punycode.isBasic] using low c (Pieces.split_piece_mem '.' c text label member inside).1

theorem written_low (text : List Char) (low : ∀ c ∈ text, c.toNat < 0x80) :
    (Pieces.split '.' text).mapM Label.ascii? = some (Pieces.split '.' text) := by
  rw [Pieces.all_read_iff, List.forall₂_same]
  exact fun label member => by simp [Label.ascii?, labels_low text low label member]

theorem ascii_plain (text : List Char) (plain : ∀ c ∈ text, IsPlain c)
    (unmarked : ∀ label ∈ Pieces.split '.' text, Label.mark.isPrefixOf label = false) : ascii? text = some text := by
  have low : ∀ c ∈ text, c.toNat < 0x80 := fun c member => (plain c member).1
  have inside : ∀ label ∈ Pieces.split '.' text, ∀ c ∈ label, c.toNat < 0x80 := fun label member c within =>
    low c (Pieces.split_piece_mem '.' c text label member within).1
  have texts : (Pieces.split '.' text).mapM Label.text? = some (Pieces.split '.' text) := by
    rw [Pieces.all_read_iff, List.forall₂_same]
    exact fun label member => by simp [Label.text?, unmarked label member, labels_low text low label member]
  simp only [ascii?, settled_plain text plain, texts, written_low text low, directions_low _ inside, if_true,
    Pieces.intercalate_split]

-- Labels in ASCII are written as they are, so a name can only be refused or kept.
theorem ascii_kept (text name : List Char) (plain : ∀ c ∈ text, IsPlain c) (known : ascii? text = some name) :
    name = text := by
  have written := written_low text fun c member => (plain c member).1
  simp only [ascii?, settled_plain text plain, written] at known
  split at known
  · rename_i texts labels _ same
    split at known
    · rw [← Option.some.inj known, ← Option.some.inj same, Pieces.intercalate_split]
    · simp at known
  · simp at known

theorem ascii_low (text name : List Char) (low : ∀ c ∈ text, c.toNat < 0x80) (known : ascii? text = some name) :
    (∀ c ∈ name, IsPlain c) ∧ ascii? name = some name := by
  cases found : settled? text with
  | none => simp [ascii?, found] at known
  | some settled =>
      have plain := settled_is_plain text settled low found
      have same : ascii? text = ascii? settled := by rw [ascii?, ascii?, found, settled_plain settled plain]
      rw [same] at known
      obtain rfl := ascii_kept settled name plain known
      exact ⟨plain, known⟩

theorem ascii_refuses (c : Char) (text : List Char) (inert : c.toNat < 0x3c) (forbidden : isForbidden c = true)
    (member : c ∈ text) : ascii? text = none := by
  have lower : c.toLower = c := by
    rw [Char.toLower, dif_neg]
    rintro ⟨low, -⟩
    have letter : 0x41 ≤ c.toNat := low
    omega
  -- The character survives its reading and composition, and is refused after them.
  have settled : settled? text = none := by
    unfold settled?
    cases known : text.mapM reading? with
    | none => rfl
    | some readings =>
        obtain ⟨reading, present, own⟩ := Pieces.all_read_item reading? text readings c known member
        rw [reading_low c (by omega), lower] at own
        have settled : c ∈ Composition.compose readings.flatten := by
          apply Composition.mem_compose c _ inert
          exact List.mem_flatten.mpr ⟨reading, present, by simp [← Option.some.inj own]⟩
        have refused : (Composition.compose readings.flatten).any isForbidden = true :=
          List.any_eq_true.mpr ⟨c, settled, forbidden⟩
        simp only [refused, if_true]
  rw [ascii?, settled]

end Domain

namespace Host

theorem domain_ascii (text : List Char) (plain : ∀ c ∈ text, Domain.IsPlain c) : domain? text = Domain.ascii? text := by
  have absent : '%' ∉ text := fun member => absurd (plain '%' member) (by decide)
  rw [domain?, Percent.decode_plain _ (Utf8.low_byte_absent '%' text (by decide) absent), Utf8.strict_of_chars text]

theorem domain_plain (text : List Char) (plain : ∀ c ∈ text, Domain.IsPlain c)
    (unmarked : ∀ label ∈ Pieces.split '.' text, Label.mark.isPrefixOf label = false) : domain? text = some text := by
  rw [domain_ascii text plain]
  exact Domain.ascii_plain text plain unmarked

theorem domain_low (text name : List Char) (low : Percent.DecodesLow text) (known : domain? text = some name) :
    (∀ c ∈ name, Domain.IsPlain c) ∧ Domain.ascii? name = some name := by
  rw [domain?, Utf8.strict_low _ low] at known
  refine Domain.ascii_low _ name ?_ known
  intro c member
  obtain ⟨byte, inside, rfl⟩ := List.mem_map.mp member
  exact Utf8.to_char_low byte (low byte inside)

theorem domain_refuses (c : Char) (text : List Char) (inert : c.toNat < 0x3c) (forbidden : Domain.isForbidden c = true)
    (other : c ≠ '%') (noDigit : Bytes.hexDigit? (UInt8.ofNat c.toNat) = none) (member : c ∈ text) :
    domain? text = none := by
  have low : c.toNat < 0x80 := by omega
  have byte : UInt8.ofNat c.toNat ∈ Bytes.ofChars text :=
    List.mem_flatMap.mpr ⟨c, member, by simp [Utf8.encode_low c low]⟩
  have kept : UInt8.ofNat c.toNat ∈ Percent.decode (Bytes.ofChars text) := by
    refine Percent.decode_keeps _ _ ?_ noDigit byte
    intro same
    exact other (Utf8.low_byte_unique c '%' low (by decide) same)
  rw [domain?]
  cases known : Utf8.strictFrom none (Percent.decode (Bytes.ofChars text)) with
  | none => rfl
  | some decoded =>
      have present := Utf8.strict_keeps _ _ none decoded (Utf8.low_byte c low) trivial known kept
      rw [Utf8.byte_of_low c low, Char.ofNat_toNat] at present
      exact Domain.ascii_refuses c decoded inert forbidden present

end Host

end HostTools
