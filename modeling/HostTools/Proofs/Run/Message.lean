import Mathlib
import HostTools.Run.Failure
import HostTools.Proofs.Text.Quoted

set_option autoImplicit false

namespace HostTools

theorem Digits.signed_injective (m n : Int) (same : Digits.signed m = Digits.signed n) : m = n := by
  have noSign : ∀ k, '-' ∉ Digits.decimal k := by
    intro k member
    exact absurd (Digits.decimal_char k '-' member) (by decide)
  cases m with
  | ofNat m =>
      cases n with
      | ofNat n => rw [to_digits_injective 10 m n (by decide) (by decide) same]
      | negSucc n =>
          have sign : '-' ∈ Digits.decimal m := by
            rw [show Digits.decimal m = '-' :: Digits.decimal (n + 1) from same]
            exact List.mem_cons_self
          exact absurd sign (noSign m)
  | negSucc m =>
      cases n with
      | ofNat n =>
          have sign : '-' ∈ Digits.decimal n := by
            rw [show Digits.decimal n = '-' :: Digits.decimal (m + 1) from same.symm]
            exact List.mem_cons_self
          exact absurd sign (noSign n)
      | negSucc n =>
          have numbers := to_digits_injective 10 (m + 1) (n + 1) (by decide) (by decide) (List.cons.inj same).2
          rw [Nat.succ.inj numbers]

namespace RunFailure

-- The class of characters that are written by number is left open.
def failedText (byNumber : Char → Bool) (argv : List String) (code : Int) : List Char :=
  "Command ".toList ++ (Quoted.items byNumber argv ++ (" returned non-zero exit status ".toList ++ Digits.signed code))

theorem failed_message (argv : List String) (code : Int) (output : Bytes) :
    (RunFailure.failed argv code output).message = String.ofList (failedText Glyphless.isGlyphless argv code) := by
  unfold message Quoted.list Digits.signedText
  -- The tables of the class play no part here, and unfolding them takes long.
  generalize Glyphless.isGlyphless = byNumber
  unfold failedText
  rw [← String.toList_inj]
  simp only [String.toList_append, String.toList_ofList, List.append_assoc]

theorem failed_text_unique (here there : Char → Bool) (argv other : List String) (code status : Int)
    (same : failedText here argv code = failedText there other status) : argv = other ∧ code = status := by
  obtain ⟨words, after⟩ := Quoted.items_unique here there argv other _ _ (List.append_cancel_left same)
  exact ⟨words, Digits.signed_injective code status (List.append_cancel_left after)⟩

theorem failed_message_unambiguous (argv other : List String) (code status : Int) (output more : Bytes) :
    (∀ byNumber, failedText byNumber argv code = failedText byNumber other status ↔ argv = other ∧ code = status) ∧
      (RunFailure.failed argv code output).message = String.ofList (failedText Glyphless.isGlyphless argv code) ∧
      ((RunFailure.failed argv code output).message = (RunFailure.failed other status more).message ↔
        argv = other ∧ code = status) := by
  have texts : ∀ byNumber,
      failedText byNumber argv code = failedText byNumber other status ↔ argv = other ∧ code = status := by
    intro byNumber
    constructor
    · exact failed_text_unique byNumber byNumber argv other code status
    · rintro ⟨rfl, rfl⟩
      rfl
  refine ⟨texts, failed_message argv code output, ?_⟩
  rw [failed_message, failed_message, String.ofList_inj, texts]

-- A word that spells the rest of a message is still one word.
example :
    (RunFailure.failed ["a\", \"b"] 1 []).message = "Command [\"a\\\", \\\"b\"] returned non-zero exit status 1" ∧
      (RunFailure.failed ["a", "b"] 1 []).message = "Command [\"a\", \"b\"] returned non-zero exit status 1" := by
  decide +kernel

end RunFailure

end HostTools
