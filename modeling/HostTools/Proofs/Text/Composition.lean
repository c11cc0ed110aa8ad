import Mathlib
import HostTools.Text.Composition

set_option autoImplicit false

namespace HostTools.Composition

def Free (low high : Nat) : Prop :=
  (∀ entry ∈ classes, high < entry.1 ∨ entry.2.1 < low) ∧
    (∀ entry ∈ pairs, (high < entry.2.1 ∨ entry.2.1 < low) ∧ (high < entry.2.2 ∨ entry.2.2 < low)) ∧
    (high < 0x1161 ∨ 0x11c3 ≤ low) ∧ (high < 0xac00 ∨ 0xac00 + 11172 ≤ low)

instance (low high : Nat) : Decidable (Free low high) := inferInstanceAs (Decidable (_ ∧ _ ∧ _ ∧ _))

-- The two tables enter the proofs only through these facts.
theorem free_ascii : Free 0 0x7f := by decide +kernel

theorem free_ideographs : Free 0x4e00 0x9fff := by decide +kernel

theorem pairs_low : ∀ entry ∈ pairs, 0x3c ≤ entry.1 := by decide +kernel

structure Inert (c : Char) : Prop where
  starter : classOf c = 0
  single : parts? c = none
  apart : ∀ first, whole? first c = none

theorem whole_apart (first second : Char)
    (leading : ¬ (0x1100 ≤ first.toNat ∧ first.toNat < 0x1113 ∧ 0x1161 ≤ second.toNat ∧ second.toNat < 0x1176))
    (trailing : ¬ (0xac00 ≤ first.toNat ∧ 0x11a7 < second.toNat ∧ second.toNat < 0x11c3))
    (unpaired : ∀ entry ∈ pairs, entry.1 ≠ first.toNat ∨ entry.2.1 ≠ second.toNat) : whole? first second = none := by
  have noSyllable : ¬ (0x1100 ≤ first.toNat && first.toNat < 0x1113 && 0x1161 ≤ second.toNat && second.toNat < 0x1176) := by
    simp only [Bool.and_eq_true, decide_eq_true_eq]
    omega
  have noThird : ¬ (0xac00 ≤ first.toNat && first.toNat < 0xac00 + 11172 && (first.toNat - 0xac00) % 28 = 0 &&
      0x11a7 < second.toNat && second.toNat < 0x11c3) := by
    simp only [Bool.and_eq_true, decide_eq_true_eq]
    omega
  simp only [whole?, if_neg noSyllable, if_neg noThird]
  rw [List.find?_eq_none.mpr]
  rintro ⟨x, y, whole⟩ member
  have other := unpaired _ member
  simp only [decide_eq_true_eq, Bool.and_eq_true, not_and]
  tauto

theorem free_inert (low high : Nat) (free : Free low high) (c : Char) (above : low ≤ c.toNat) (below : c.toNat ≤ high) :
    Inert c := by
  obtain ⟨classless, unpaired, noJamo, noSyllable⟩ := free
  constructor
  · rw [classOf, List.find?_eq_none.mpr]
    rintro ⟨first, last, found⟩ member
    have outside : high < first ∨ last < low := classless _ member
    simp only [decide_eq_true_eq, Bool.and_eq_true, not_and]
    omega
  · have syllable : syllable? c.toNat = none := by
      rw [syllable?, if_neg]
      simp only [Bool.and_eq_true, decide_eq_true_eq]
      omega
    rw [parts?, syllable, List.find?_eq_none.mpr]
    rintro ⟨first, second, whole⟩ member
    have outside : high < whole ∨ whole < low := (unpaired _ member).2
    simp only [decide_eq_true_eq]
    omega
  · intro first
    refine whole_apart first c (by omega) (by omega) ?_
    intro entry member
    have outside := (unpaired entry member).1
    omega

theorem low_inert (c : Char) (low : c.toNat < 0x80) : Inert c := free_inert 0 0x7f free_ascii c (by omega) (by omega)

theorem decompose_inert (depth : Nat) (c : Char) (inert : Inert c) : decomposeChar depth c = [c] := by
  cases depth with
  | zero => rfl
  | succ depth => rw [decomposeChar, inert.single]

theorem decompose_text (text : List Char) (inert : ∀ c ∈ text, Inert c) : text.flatMap (decomposeChar 4) = text := by
  induction text with
  | nil => rfl
  | cons c rest ih =>
      rw [List.flatMap_cons, decompose_inert 4 c (inert c List.mem_cons_self),
        ih fun d later => inert d (List.mem_cons_of_mem c later)]
      rfl

def Composer.text (composer : Composer) : List Char :=
  (composer.after ++ composer.letter?.toList ++ composer.before).reverse

theorem ordered_inert (text : List Char) (inert : ∀ c ∈ text, Inert c) : ordered text = text := by
  have pushed : ∀ done : List Char, text.foldl (fun done c =>
      let order := classOf c
      if order = 0 then c :: done else place c order done) done = text.reverse ++ done := by
    induction text with
    | nil => simp
    | cons c rest ih =>
        intro done
        rw [List.foldl_cons, (inert c List.mem_cons_self).starter]
        simp [ih fun d later => inert d (List.mem_cons_of_mem c later)]
  rw [ordered, pushed, List.append_nil, List.reverse_reverse]

theorem step_cases (composer : Composer) (c : Char) :
    (∃ base whole, composer.letter? = some base ∧ whole? base c = some whole ∧
        composer.step c = { composer with letter? := some whole }) ∨
      composer.step c = ⟨composer.after ++ composer.letter?.toList ++ composer.before, some c, [], 0⟩ ∨
      classOf c ≠ 0 ∧ composer.step c = { composer with after := c :: composer.after, last := classOf c } := by
  unfold Composer.step
  dsimp only
  split
  · rename_i whole joined
    left
    split at joined
    · rename_i base letter
      split at joined
      · exact ⟨base, whole, letter, joined, rfl⟩
      · simp at joined
    · simp at joined
  · right
    by_cases starter : classOf c = 0
    · exact .inl (if_pos starter)
    · exact .inr ⟨starter, if_neg starter⟩

theorem step_inert (composer : Composer) (c : Char) (inert : Inert c) :
    (composer.step c).text = composer.text ++ [c] := by
  rcases step_cases composer c with ⟨base, whole, -, joined, -⟩ | started | ⟨mark, -⟩
  · simp [inert.apart base] at joined
  · simp [started, Composer.text]
  · exact absurd inert.starter mark

theorem steps_inert (composer : Composer) (text : List Char) (inert : ∀ c ∈ text, Inert c) :
    (text.foldl Composer.step composer).text = composer.text ++ text := by
  induction text generalizing composer with
  | nil => simp
  | cons c rest ih =>
      rw [List.foldl_cons, ih _ fun d later => inert d (List.mem_cons_of_mem c later),
        step_inert composer c (inert c List.mem_cons_self), List.append_assoc]
      rfl

theorem compose_inert (text : List Char) (inert : ∀ c ∈ text, Inert c) : compose text = text := by
  have steps := steps_inert ⟨[], none, [], 0⟩ text inert
  rw [compose, decompose_text text inert, ordered_inert text inert]
  exact steps

theorem mem_place (c mark : Char) (order : Nat) (text : List Char) :
    c ∈ place mark order text ↔ c = mark ∨ c ∈ text := by
  induction text with
  | nil => simp [place]
  | cons d rest ih =>
      by_cases later : order < classOf d
      · simp only [place, if_pos later, List.mem_cons, ih]
        tauto
      · simp only [place, if_neg later, List.mem_cons]

theorem mem_ordered (c : Char) (text : List Char) (member : c ∈ text) : c ∈ ordered text := by
  -- The invariant of the run: the character is placed, or it is still to come.
  have placed : ∀ done : List Char, c ∈ done ∨ c ∈ text → c ∈ text.foldl (fun done c =>
      let order := classOf c
      if order = 0 then c :: done else place c order done) done := by
    clear member
    induction text with
    | nil => simp
    | cons d rest ih =>
        intro done member
        apply ih
        simp only [List.mem_cons] at member
        by_cases starter : classOf d = 0
        · simp only [starter, if_true, List.mem_cons]
          tauto
        · simp only [starter, if_false, mem_place]
          tauto
  simpa [ordered] using placed [] (.inr member)

theorem small_apart (first second : Char) (small : first.toNat < 0x3c) : whole? first second = none := by
  refine whole_apart first second (by omega) (by omega) ?_
  intro entry member
  have bound := pairs_low entry member
  omega

-- A character that joins nothing is neither swallowed when it comes nor later.
theorem step_keeps (composer : Composer) (c d : Char) (small : c.toNat < 0x3c) (member : c ∈ composer.text ∨ c = d) :
    c ∈ (composer.step d).text := by
  rcases step_cases composer d with ⟨base, whole, letter, joined, step⟩ | step | ⟨-, step⟩
  · have earlier : c ≠ base := by
      rintro rfl
      simp [small_apart c d small] at joined
    have coming : c ≠ d := by
      rintro rfl
      simp [(low_inert c (by omega)).apart base] at joined
    simp only [Composer.text, letter, Option.toList_some, List.mem_reverse, List.mem_append, List.mem_singleton, step]
      at member ⊢
    tauto
  · simp only [Composer.text, List.mem_reverse, List.mem_append, step, Option.toList_some, List.mem_singleton] at member ⊢
    tauto
  · simp only [Composer.text, List.mem_reverse, List.mem_append, step, List.mem_cons] at member ⊢
    tauto

theorem mem_compose (c : Char) (text : List Char) (small : c.toNat < 0x3c) (member : c ∈ text) : c ∈ compose text := by
  have decomposed : c ∈ text.flatMap (decomposeChar 4) :=
    List.mem_flatMap.mpr ⟨c, member, by simp [decompose_inert 4 c (low_inert c (by omega))]⟩
  -- The same invariant, with the composer in place of the marks.
  have kept : ∀ (rest : List Char) (composer : Composer), c ∈ composer.text ∨ c ∈ rest →
      c ∈ (rest.foldl Composer.step composer).text := by
    intro rest
    induction rest with
    | nil => simp
    | cons d rest ih =>
        intro composer present
        rw [List.foldl_cons]
        apply ih
        rcases present with held | coming
        · exact .inl (step_keeps composer c d small (.inl held))
        · rcases List.mem_cons.mp coming with now | later
          · exact .inl (step_keeps composer c d small (.inr now))
          · exact .inr later
  exact kept _ ⟨[], none, [], 0⟩ (.inr (mem_ordered c _ decomposed))

end HostTools.Composition
