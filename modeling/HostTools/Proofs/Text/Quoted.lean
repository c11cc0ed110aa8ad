import Mathlib
import HostTools.Text.Quoted
import HostTools.Proofs.Text.Digits
import HostTools.Proofs.Text.Pieces

set_option autoImplicit false

namespace HostTools.Quoted

def letters : List (Char × Char) :=
  [('"', '"'), ('\\', '\\'), ('0', Char.ofNat 0), ('t', '\t'), ('n', '\n'), ('r', '\r')]

inductive Spelling : Char → List Char → Prop
  | plain {c : Char} (noQuote : c ≠ '"') (noBackslash : c ≠ '\\') : Spelling c [c]
  | letter {letter c : Char} (known : (letter, c) ∈ letters) : Spelling c ['\\', letter]
  | number {c : Char} : Spelling c ('\\' :: 'u' :: '\x7b' :: Digits.hex c.toNat ++ ['\x7d'])

theorem char_spelling (byNumber : Char → Bool) (c : Char) : Spelling c (char byNumber c) := by
  unfold char
  -- Six characters have a letter.
  iterate 6
    split
    · rename_i same
      exact .letter (by rw [same]; decide)
  split
  · exact .number
  · rename_i noQuote noBackslash _ _ _ _ _
    exact .plain noQuote noBackslash

theorem letter_unique (letter c d : Char) (here : (letter, c) ∈ letters) (there : (letter, d) ∈ letters) : c = d := by
  have single : ∀ one ∈ letters, ∀ two ∈ letters, one.1 = two.1 → one.2 = two.2 := by decide
  exact single _ here _ there rfl

theorem letter_no_number (letter c : Char) (known : (letter, c) ∈ letters) : letter ≠ 'u' := by
  have apart : ∀ entry ∈ letters, entry.1 ≠ 'u' := by decide
  exact apart _ known

theorem hex_no_brace (n : Nat) : '\x7d' ∉ Digits.hex n := by
  intro member
  exact absurd (Digits.hex_char n _ member) (by decide)

theorem number_unique (c d : Char) (rest more : List Char)
    (same : Digits.hex c.toNat ++ '\x7d' :: rest = Digits.hex d.toNat ++ '\x7d' :: more) : c = d ∧ rest = more := by
  obtain ⟨digits, after⟩ := Pieces.first_mark_unique _ _ _ _ _ (hex_no_brace _) (hex_no_brace _) same
  have numbers := Digits.to_digits_injective 16 c.toNat d.toNat (by decide) (by decide) digits
  exact ⟨Char.toNat_inj.mp numbers, after⟩

theorem spelling_unique (c d : Char) (front back rest more : List Char) (here : Spelling c front)
    (there : Spelling d back) (same : front ++ rest = back ++ more) : c = d ∧ rest = more := by
  -- A backslash tells escapes from plain characters, and what follows it tells the escapes apart.
  cases here with
  | plain _ noBackslash =>
      cases there with
      | plain _ _ => exact List.cons.inj same
      | letter _ => exact absurd (List.cons.inj same).1 noBackslash
      | number => exact absurd (List.cons.inj same).1 noBackslash
  | letter known =>
      cases there with
      | plain _ noBackslash => exact absurd (List.cons.inj same).1.symm noBackslash
      | letter other =>
          obtain ⟨-, after⟩ := List.cons.inj same
          obtain ⟨letters, after⟩ := List.cons.inj after
          exact ⟨letter_unique _ c d known (letters ▸ other), after⟩
      | number =>
          obtain ⟨-, after⟩ := List.cons.inj same
          exact absurd (List.cons.inj after).1 (letter_no_number _ c known)
  | number =>
      cases there with
      | plain _ noBackslash => exact absurd (List.cons.inj same).1.symm noBackslash
      | letter other =>
          obtain ⟨-, after⟩ := List.cons.inj same
          exact absurd (List.cons.inj after).1.symm (letter_no_number _ d other)
      | number => exact number_unique c d rest more (by simpa using same)

theorem spelling_no_quote (c : Char) (front rest more : List Char) (spelling : Spelling c front) :
    front ++ rest ≠ '"' :: more := by
  intro same
  cases spelling with
  | plain noQuote _ => exact noQuote (List.cons.inj same).1
  | letter _ => exact absurd (List.cons.inj same).1 (by decide)
  | number => exact absurd (List.cons.inj same).1 (by decide)

-- What follows an item of a list: the other items, each after its comma, the bracket, and the rest.
def continued (byNumber : Char → Bool) (rest : List Char) : List String → List Char
  | [] => ']' :: rest
  | text :: more => ',' :: ' ' :: chars byNumber text.toList ++ continued byNumber rest more

theorem joined_continued (byNumber : Char → Bool) (rest : List Char) (text : String) (texts : List String) :
    List.intercalate [',', ' '] ((text :: texts).map fun text => chars byNumber text.toList) ++ ']' :: rest =
      chars byNumber text.toList ++ continued byNumber rest texts := by
  induction texts generalizing text with
  | nil => simp [List.intercalate, continued]
  | cons next texts ih =>
      have later := ih next
      simp only [List.intercalate, List.map_cons, List.intersperse_cons_cons, List.flatten_cons,
        List.append_assoc] at later ⊢
      rw [later, continued]
      rfl

section

variable (here there : Char → Bool)

theorem body_unique (text other rest more : List Char)
    (same : text.flatMap (char here) ++ '"' :: rest = other.flatMap (char there) ++ '"' :: more) :
    text = other ∧ rest = more := by
  induction text generalizing other with
  | nil =>
      cases other with
      | nil => exact ⟨rfl, (List.cons.inj same).2⟩
      | cons d other =>
          rw [List.flatMap_cons, List.append_assoc] at same
          exact absurd same.symm (spelling_no_quote d _ _ rest (char_spelling there d))
  | cons c text ih =>
      rw [List.flatMap_cons, List.append_assoc] at same
      cases other with
      | nil => exact absurd same (spelling_no_quote c _ _ more (char_spelling here c))
      | cons d other =>
          rw [List.flatMap_cons, List.append_assoc] at same
          obtain ⟨rfl, after⟩ := spelling_unique c d _ _ _ _ (char_spelling here c) (char_spelling there d) same
          obtain ⟨rfl, tail⟩ := ih other after
          exact ⟨rfl, tail⟩

theorem chars_unique (text other rest more : List Char)
    (same : chars here text ++ rest = chars there other ++ more) : text = other ∧ rest = more :=
  body_unique here there text other rest more (by simpa [chars] using same)

theorem continued_unique (texts others : List String) (rest more : List Char)
    (same : continued here rest texts = continued there more others) : texts = others ∧ rest = more := by
  induction texts generalizing others with
  | nil =>
      cases others with
      | nil => exact ⟨rfl, (List.cons.inj same).2⟩
      | cons other others => exact absurd (List.cons.inj same).1 (by decide)
  | cons text texts ih =>
      cases others with
      | nil => exact absurd (List.cons.inj same).1 (by decide)
      | cons other others =>
          simp only [continued, List.cons_append, List.cons.injEq, true_and] at same
          obtain ⟨chars, after⟩ := chars_unique here there _ _ _ _ same
          obtain ⟨rfl, tail⟩ := ih others after
          exact ⟨by rw [String.toList_inj.mp chars], tail⟩

theorem items_unique (texts others : List String) (rest more : List Char)
    (same : items here texts ++ rest = items there others ++ more) : texts = others ∧ rest = more := by
  simp only [items, List.cons_append, List.append_assoc, List.cons.injEq, true_and] at same
  cases texts with
  | nil =>
      cases others with
      | nil => exact ⟨rfl, (List.cons.inj same).2⟩
      | cons other others =>
          rw [joined_continued] at same
          exact absurd (List.cons.inj same).1 (by decide)
  | cons text texts =>
      rw [joined_continued] at same
      cases others with
      | nil => exact absurd (List.cons.inj same).1 (by decide)
      | cons other others =>
          rw [joined_continued] at same
          obtain ⟨chars, after⟩ := chars_unique here there _ _ _ _ same
          obtain ⟨rfl, tail⟩ := continued_unique here there texts others rest more after
          exact ⟨by rw [String.toList_inj.mp chars], tail⟩

end

end HostTools.Quoted
