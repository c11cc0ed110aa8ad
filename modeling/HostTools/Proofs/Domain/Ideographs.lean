import Mathlib
import HostTools.Proofs.Domain.Ascii
import HostTools.Proofs.Url.Punycode

set_option autoImplicit false

namespace HostTools

theorem Ranges.holds_outside (ranges : Ranges) (low high number : Nat)
    (outside : ∀ range ∈ ranges, high < range.1 ∨ range.2 < low) (above : low ≤ number) (below : number ≤ high) :
    ranges.holds number = false := by
  rw [holds, List.any_eq_false]
  intro range member
  have apart := outside range member
  simp only [Bool.and_eq_true, decide_eq_true_eq]
  omega

theorem Ranges.holds_inside (ranges : Ranges) (range : Nat × Nat) (number : Nat) (member : range ∈ ranges)
    (above : range.1 ≤ number) (below : number ≤ range.2) : ranges.holds number = true :=
  List.any_eq_true.mpr ⟨range, member, by simp [above, below]⟩

-- The unified ideographs of the basic plane.
def IsIdeograph (c : Char) : Prop := 0x4e00 ≤ c.toNat ∧ c.toNat ≤ 0x9fff

namespace IsIdeograph

variable (c : Char) (own : IsIdeograph c)

include own

theorem inert : Composition.Inert c := Composition.free_inert 0x4e00 0x9fff Composition.free_ideographs c own.1 own.2

theorem high : Punycode.isBasic c = false := by
  have bound := own.1
  simp only [Punycode.isBasic, decide_eq_false_iff_not]
  omega

theorem outside (ranges : Ranges) (apart : ∀ range ∈ ranges, 0x9fff < range.1 ∨ range.2 < 0x4e00) :
    ranges.holds c.toNat = false := ranges.holds_outside 0x4e00 0x9fff c.toNat apart own.1 own.2

theorem permitted : Permitted.isPermitted c = true := by
  obtain ⟨above, below⟩ := own
  have inside := Ranges.holds_inside Permitted.middle (0x3400, 0xa48c) c.toNat (by decide +kernel) (by omega) (by omega)
  rw [Permitted.isPermitted, if_neg (by omega), if_pos (by omega), inside]

theorem nonspacing : Mark.isNonspacing c = false := by
  have outside := own.outside c Mark.middle (by decide +kernel)
  obtain ⟨above, below⟩ := own
  rw [Mark.isNonspacing, if_neg (by omega), if_pos (by omega), outside]

theorem unmarked : Mark.isMark c = false := by
  rw [Mark.isMark, own.nonspacing, own.outside c Mark.spacing (by decide +kernel)]
  rfl

theorem straight : Label.turns (Direction.of c) = false := by
  have right := own.outside c Direction.rightLetters (by decide +kernel)
  have digits := own.outside c Direction.rightDigits (by decide +kernel)
  have above := own.1
  simp only [Direction.of, if_neg (show ¬ c.toNat < 0x80 by omega), right, digits, Bool.false_eq_true, if_false]
  split
  · rfl
  · split
    · rfl
    · split <;> rfl

theorem other (d : Char) (apart : d.toNat < 0x4e00) : c ≠ d := by
  rintro rfl
  have above := own.1
  omega

theorem reading : Domain.reading? c = some [c] := by
  rw [Domain.reading?, if_neg (by simp [own.high]), if_pos own.permitted]

theorem allowed : Domain.isForbidden c = false := by
  have above := own.1
  simp [Domain.isForbidden, own.other]
  omega

end IsIdeograph

theorem Label.joiners_fit (before text : List Char) (plain : ∀ c ∈ text, c ≠ nonJoiner ∧ c ≠ joiner) :
    joinersFit before text = true := by
  induction text generalizing before with
  | nil => rfl
  | cons c rest ih =>
      obtain ⟨apart, free⟩ := plain c List.mem_cons_self
      have further := ih (c :: before) fun d later => plain d (List.mem_cons_of_mem c later)
      simp [joinersFit, apart, free, further]

theorem Punycode.digit_char_plain : ∀ value < 36, Domain.IsPlain (digitChar value) ∧ digitChar value ≠ '.' := by
  decide

structure IsIdeographic (label : List Char) : Prop where
  present : label ≠ []
  each : ∀ c ∈ label, IsIdeograph c
  short : label.length ≤ Label.longestText

namespace IsIdeographic

variable (label : List Char) (own : IsIdeographic label)

include own

theorem high : Label.isAscii label = false := by
  obtain ⟨c, rest, rfl⟩ := List.exists_cons_of_ne_nil own.present
  simp [Label.isAscii, (own.each c List.mem_cons_self).high]

theorem sound : Label.isSound label = true := by
  obtain ⟨c, rest, shape⟩ := List.exists_cons_of_ne_nil own.present
  have first : IsIdeograph c := own.each c (by simp [shape])
  have permitted : (label.all fun c => Punycode.isBasic c || Permitted.isPermitted c) = true := by
    apply List.all_eq_true.mpr
    intro d member
    simp [(own.each d member).permitted]
  have joined : Label.joinersFit [] label = true := by
    refine Label.joiners_fit [] label fun d member => ⟨?_, ?_⟩
    · exact (own.each d member).other _ _ (by decide)
    · exact (own.each d member).other _ _ (by decide)
  rw [Label.isSound, permitted, joined, shape]
  simp [first.unmarked]

theorem text_kept : Label.text? label = some label := by
  obtain ⟨c, rest, shape⟩ := List.exists_cons_of_ne_nil own.present
  have first : c ≠ 'x' := (own.each c (by simp [shape])).other _ _ (by decide)
  have unmarked : Label.mark.isPrefixOf label = false := by simp [shape, Label.mark, List.isPrefixOf, first.symm]
  simp [Label.text?, unmarked, own.sound]

theorem written : Label.ascii? label = some (Label.mark ++ Punycode.encode label) := by
  simp [Label.ascii?, own.high, own.short]

theorem settled : Domain.settled? label = some label := by
  have readings : label.mapM Domain.reading? = some (label.map fun c => [c]) := by
    rw [Pieces.all_read_iff, List.forall₂_map_right_iff, List.forall₂_same]
    exact fun c member => (own.each c member).reading
  have flat : (label.map fun c => [c]).flatten = label := by
    rw [← List.flatMap_def, List.flatMap_singleton']
  have composed := Composition.compose_inert label fun c member => (own.each c member).inert
  have allowed : label.any Domain.isForbidden = false := by
    rw [List.any_eq_false]
    intro c member
    simp [(own.each c member).allowed]
  simp [Domain.settled?, readings, flat, composed, allowed]

theorem ascii : Domain.ascii? label = some (Label.mark ++ Punycode.encode label) := by
  have single : Pieces.split '.' label = [label] := by
    apply Pieces.split_whole
    intro dot
    exact (own.each '.' dot).other _ '.' (by decide) rfl
  have straight : Domain.directionsFit [label] = true := by
    have none : (label.map Direction.of).any Label.turns = false := by
      rw [List.any_map, List.any_eq_false]
      intro c member
      simp [(own.each c member).straight]
    simp [Domain.directionsFit, none]
  simp [Domain.ascii?, own.settled, single, own.text_kept, own.written, straight]

theorem code_plain : ∀ c ∈ Label.mark ++ Punycode.encode label, Domain.IsPlain c ∧ c ≠ '.' := by
  have basic : ∀ c ∈ label, Punycode.isBasic c = true → Domain.IsPlain c ∧ c ≠ '.' := by
    intro c member low
    simp [(own.each c member).high] at low
  refine List.forall_mem_append.mpr ⟨?_, ?_⟩
  · intro c member
    simp only [Label.mark, List.mem_cons, List.not_mem_nil, or_false] at member
    rcases member with rfl | rfl | rfl | rfl <;> decide
  · exact Punycode.encode_each _ Punycode.digit_char_plain label (by decide) basic

end IsIdeographic

-- The mark promises a code, and this one is too long to be read.
theorem Domain.long_code_unread (code : List Char) (plain : ∀ c ∈ Label.mark ++ code, IsPlain c ∧ c ≠ '.')
    (long : Label.longestCode < code.length) : ascii? (Label.mark ++ code) = none := by
  have single : Pieces.split '.' (Label.mark ++ code) = [Label.mark ++ code] :=
    Pieces.split_whole '.' _ fun dot => (plain '.' dot).2 rfl
  have marked : Label.mark.isPrefixOf (Label.mark ++ code) = true := by simp
  have unread : Label.text? (Label.mark ++ code) = none := by simp [Label.text?, marked, long]
  simp [ascii?, settled_plain _ fun c member => (plain c member).1, single, unread]

end HostTools
