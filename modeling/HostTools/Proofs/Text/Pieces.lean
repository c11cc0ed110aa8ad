import Mathlib
import HostTools.Text.Pieces

set_option autoImplicit false

namespace HostTools.Pieces

theorem split_nonempty (separator : Char) (text : List Char) : split separator text ≠ [] := by
  cases text with
  | nil => simp [split]
  | cons c rest =>
      by_cases same : c = separator
      · simp [split, same]
      · cases known : split separator rest <;> simp [split, same, known]

theorem split_other (separator c : Char) (rest piece : List Char) (more : List (List Char))
    (other : c ≠ separator) (known : split separator rest = piece :: more) :
    split separator (c :: rest) = (c :: piece) :: more := by
  simp [split, other, known]

theorem split_append (separator : Char) (front back : List Char) (absent : separator ∉ front) :
    split separator (front ++ separator :: back) = front :: split separator back := by
  induction front with
  | nil => simp [split]
  | cons c front ih =>
      obtain ⟨different, rest⟩ := List.ne_and_not_mem_of_not_mem_cons absent
      exact split_other separator c _ front _ (Ne.symm different) (ih rest)

theorem split_whole (separator : Char) (text : List Char) (absent : separator ∉ text) :
    split separator text = [text] := by
  induction text with
  | nil => rfl
  | cons c rest ih =>
      obtain ⟨different, absentRest⟩ := List.ne_and_not_mem_of_not_mem_cons absent
      exact split_other separator c rest rest [] (Ne.symm different) (ih absentRest)

theorem split_piece_mem (separator c : Char) (text piece : List Char) (member : piece ∈ split separator text)
    (inside : c ∈ piece) : c ∈ text ∧ c ≠ separator := by
  induction text generalizing piece with
  | nil => simp_all [split]
  | cons d rest ih =>
      by_cases same : d = separator
      · simp only [split, if_pos same, List.mem_cons] at member
        rcases member with rfl | later
        · simp at inside
        · exact ⟨List.mem_cons_of_mem d (ih piece later inside).1, (ih piece later inside).2⟩
      · obtain ⟨first, more, known⟩ := List.exists_cons_of_ne_nil (split_nonempty separator rest)
        rw [split_other separator d rest first more same known] at member
        rcases List.mem_cons.mp member with rfl | later
        · rcases List.mem_cons.mp inside with rfl | within
          · exact ⟨List.mem_cons_self, same⟩
          · have found := ih first (by simp [known]) within
            exact ⟨List.mem_cons_of_mem d found.1, found.2⟩
        · have found := ih piece (by simp [known, later]) inside
          exact ⟨List.mem_cons_of_mem d found.1, found.2⟩

theorem mem_split (separator c : Char) (text : List Char) (inside : c ∈ text) (other : c ≠ separator) :
    ∃ piece ∈ split separator text, c ∈ piece := by
  induction text with
  | nil => simp at inside
  | cons d rest ih =>
      by_cases same : d = separator
      · have later : c ∈ rest := by
          rcases List.mem_cons.mp inside with rfl | later
          · exact absurd same other
          · exact later
        obtain ⟨piece, member, found⟩ := ih later
        exact ⟨piece, by simp [split, same, member], found⟩
      · obtain ⟨first, more, known⟩ := List.exists_cons_of_ne_nil (split_nonempty separator rest)
        rw [split_other separator d rest first more same known]
        rcases List.mem_cons.mp inside with rfl | later
        · exact ⟨c :: first, List.mem_cons_self, List.mem_cons_self⟩
        · obtain ⟨piece, member, found⟩ := ih later
          rw [known] at member
          rcases List.mem_cons.mp member with rfl | after
          · exact ⟨d :: piece, List.mem_cons_self, List.mem_cons_of_mem d found⟩
          · exact ⟨piece, List.mem_cons_of_mem _ after, found⟩

theorem intercalate_cons (separator : Char) (piece : List Char) (pieces : List (List Char)) (several : pieces ≠ []) :
    List.intercalate [separator] (piece :: pieces) = piece ++ separator :: List.intercalate [separator] pieces := by
  obtain ⟨next, more, rfl⟩ := List.exists_cons_of_ne_nil several
  simp [List.intercalate, List.intersperse]

theorem intercalate_split (separator : Char) (text : List Char) :
    List.intercalate [separator] (split separator text) = text := by
  induction text with
  | nil => simp [split, List.intercalate]
  | cons c rest ih =>
      by_cases same : c = separator
      · rw [split, if_pos same, intercalate_cons _ _ _ (split_nonempty separator rest), ih, same]
        rfl
      · obtain ⟨piece, more, known⟩ := List.exists_cons_of_ne_nil (split_nonempty separator rest)
        rw [split_other separator c rest piece more same known]
        rw [known] at ih
        cases more with
        | nil => simpa [List.intercalate] using ih
        | cons next more =>
            rw [intercalate_cons _ _ _ (by simp)] at ih ⊢
            rw [List.cons_append, ih]

theorem split_intercalate (separator : Char) (pieces : List (List Char)) (several : pieces ≠ [])
    (absent : ∀ piece ∈ pieces, separator ∉ piece) :
    split separator (List.intercalate [separator] pieces) = pieces := by
  induction pieces with
  | nil => exact absurd rfl several
  | cons piece more ih =>
      have first := absent piece List.mem_cons_self
      cases more with
      | nil => simpa [List.intercalate] using split_whole separator piece first
      | cons next more =>
          rw [intercalate_cons _ _ _ (by simp), split_append _ _ _ first, ih (by simp)]
          exact fun other member => absent other (List.mem_cons_of_mem piece member)

theorem cut_append (separator : Char) (front back : List Char) (absent : separator ∉ front) :
    cut separator (front ++ separator :: back) = some (front, back) := by
  induction front with
  | nil => simp [cut]
  | cons c front ih =>
      obtain ⟨different, rest⟩ := List.ne_and_not_mem_of_not_mem_cons absent
      simp [cut, Ne.symm different, ih rest]

theorem cut_absent (separator : Char) (text : List Char) (absent : separator ∉ text) : cut separator text = none := by
  induction text with
  | nil => rfl
  | cons c rest ih =>
      obtain ⟨different, absentRest⟩ := List.ne_and_not_mem_of_not_mem_cons absent
      simp [cut, Ne.symm different, ih absentRest]

theorem cut_parts (separator : Char) (text front back : List Char) (known : cut separator text = some (front, back)) :
    separator ∉ front ∧ text = front ++ separator :: back := by
  induction text generalizing front with
  | nil => simp [cut] at known
  | cons c rest ih =>
      by_cases same : c = separator
      · simp only [cut, if_pos same, Option.some.injEq, Prod.mk.injEq] at known
        simp [← known.1, ← known.2, same]
      · rw [cut, if_neg same] at known
        obtain ⟨⟨first, second⟩, found, pair⟩ := Option.map_eq_some_iff.mp known
        obtain ⟨rfl, rfl⟩ := Prod.mk.inj pair
        obtain ⟨absent, shape⟩ := ih first found
        exact ⟨List.not_mem_cons_of_ne_of_not_mem (Ne.symm same) absent, by rw [shape]; rfl⟩

theorem first_mark_unique (mark : Char) (front other back rest : List Char) (absent : mark ∉ front) (missing : mark ∉ other)
    (same : front ++ mark :: back = other ++ mark :: rest) : front = other ∧ back = rest := by
  have found := cut_append mark other rest missing
  rw [← same, cut_append mark front back absent, Option.some.injEq] at found
  exact Prod.mk.inj found

-- The last mark is the first one of the text read backwards.
theorem last_mark_unique (mark : Char) (front other back rest : List Char) (absent : mark ∉ back) (missing : mark ∉ rest)
    (same : front ++ mark :: back = other ++ mark :: rest) : front = other ∧ back = rest := by
  have backwards : back.reverse ++ mark :: front.reverse = rest.reverse ++ mark :: other.reverse := by
    simpa using congrArg List.reverse same
  obtain ⟨after, before⟩ := first_mark_unique mark _ _ _ _ (by simpa using absent) (by simpa using missing) backwards
  exact ⟨List.reverse_inj.mp before, List.reverse_inj.mp after⟩

theorem occurs_iff (pattern text : List Char) : occurs pattern text = true ↔ pattern <:+: text := by
  induction text with
  | nil => simp [occurs]
  | cons c rest ih => rw [occurs, Bool.or_eq_true, List.isPrefixOf_iff_prefix, ih, List.infix_cons_iff]

theorem cut_double_cons (separator c : Char) (text : List Char) (other : c ≠ separator) :
    cutDouble separator (c :: text) = (cutDouble separator text).map fun (front, back) => (c :: front, back) := by
  cases text with
  | nil => rfl
  | cons d rest => simp [cutDouble, other]

theorem cut_double_absent (separator : Char) (text : List Char) (absent : separator ∉ text) :
    cutDouble separator text = none := by
  induction text with
  | nil => rfl
  | cons c rest ih =>
      obtain ⟨different, absentRest⟩ := List.ne_and_not_mem_of_not_mem_cons absent
      rw [cut_double_cons separator c rest (Ne.symm different), ih absentRest]
      rfl

theorem cut_double_here (separator : Char) (front back : List Char) (absent : separator ∉ front) :
    cutDouble separator (front ++ separator :: separator :: back) = some (front, back) := by
  induction front with
  | nil => simp [cutDouble]
  | cons c front ih =>
      obtain ⟨different, absentRest⟩ := List.ne_and_not_mem_of_not_mem_cons absent
      rw [List.cons_append, cut_double_cons separator c _ (Ne.symm different), ih absentRest]
      rfl

theorem cut_double_later (separator : Char) (piece rest : List Char) (absent : separator ∉ piece)
    (single : rest.head? ≠ some separator) :
    cutDouble separator (piece ++ separator :: rest) =
      (cutDouble separator rest).map fun (front, back) => (piece ++ separator :: front, back) := by
  induction piece with
  | nil =>
      cases rest with
      | nil => rfl
      | cons d rest =>
          have other : d ≠ separator := by simpa using single
          simp [cutDouble, other]
  | cons c piece ih =>
      obtain ⟨different, absentRest⟩ := List.ne_and_not_mem_of_not_mem_cons absent
      rw [List.cons_append, cut_double_cons separator c _ (Ne.symm different), ih absentRest, Option.map_map]
      rfl

def Solid (separator : Char) (pieces : List (List Char)) : Prop := ∀ piece ∈ pieces, piece ≠ [] ∧ separator ∉ piece

theorem solid_head (separator : Char) (piece : List Char) (pieces : List (List Char)) (rest : List Char)
    (solid : Solid separator (piece :: pieces)) :
    (List.intercalate [separator] (piece :: pieces) ++ rest).head? ≠ some separator := by
  obtain ⟨present, absent⟩ := solid piece List.mem_cons_self
  obtain ⟨c, tail, rfl⟩ := List.exists_cons_of_ne_nil present
  have other : separator ≠ c := (List.ne_and_not_mem_of_not_mem_cons absent).1
  cases pieces with
  | nil => simpa [List.intercalate] using Ne.symm other
  | cons next pieces =>
      rw [intercalate_cons _ _ _ (by simp)]
      simpa using Ne.symm other

theorem cut_double_joined (separator : Char) (pieces : List (List Char)) (back : List Char)
    (solid : Solid separator pieces) :
    cutDouble separator (List.intercalate [separator] pieces ++ separator :: separator :: back) =
      some (List.intercalate [separator] pieces, back) := by
  induction pieces with
  | nil => exact cut_double_here separator [] back (by simp)
  | cons piece pieces ih =>
      have absent := (solid piece List.mem_cons_self).2
      have later : Solid separator pieces := fun other member => solid other (List.mem_cons_of_mem piece member)
      cases pieces with
      | nil => simpa [List.intercalate] using cut_double_here separator piece back absent
      | cons next pieces =>
          rw [intercalate_cons _ _ _ (by simp), List.append_assoc, List.cons_append,
            cut_double_later _ _ _ absent (solid_head _ _ _ _ later), ih later]
          rfl

theorem cut_double_none (separator : Char) (pieces : List (List Char)) (solid : Solid separator pieces) :
    cutDouble separator (List.intercalate [separator] pieces) = none := by
  induction pieces with
  | nil => rfl
  | cons piece pieces ih =>
      have absent := (solid piece List.mem_cons_self).2
      have later : Solid separator pieces := fun other member => solid other (List.mem_cons_of_mem piece member)
      cases pieces with
      | nil => simpa [List.intercalate] using cut_double_absent separator piece absent
      | cons next pieces =>
          have head := solid_head separator next pieces [] later
          rw [List.append_nil] at head
          rw [intercalate_cons _ _ _ (by simp), cut_double_later _ _ _ absent head, ih later]
          rfl

theorem cut_double_text (separator : Char) (text front back : List Char)
    (known : cutDouble separator text = some (front, back)) : text = front ++ separator :: separator :: back := by
  induction text generalizing front with
  | nil => simp [cutDouble] at known
  | cons c rest ih =>
      cases rest with
      | nil => simp [cutDouble] at known
      | cons d rest =>
          by_cases here : c = separator ∧ d = separator
          · simp only [cutDouble, if_pos here, Option.some.injEq, Prod.mk.injEq] at known
            simp [← known.1, ← known.2, here]
          · rw [cutDouble, if_neg here] at known
            obtain ⟨⟨first, second⟩, found, same⟩ := Option.map_eq_some_iff.mp known
            simp only [Prod.mk.injEq] at same
            obtain ⟨rfl, rfl⟩ := same
            rw [List.cons_append, ← ih first found]

theorem all_read_iff {α β : Type} (read : α → Option β) (items : List α) (results : List β) :
    items.mapM read = some results ↔ List.Forall₂ (fun item result => read item = some result) items results := by
  induction items generalizing results with
  | nil => cases results <;> simp
  | cons item items ih =>
      cases results with
      | nil => cases known : read item <;> cases rest : items.mapM read <;> simp [List.mapM_cons, known, rest]
      | cons result results =>
          rw [List.forall₂_cons, ← ih]
          cases known : read item <;> cases rest : items.mapM read <;> simp [List.mapM_cons, known, rest]

theorem all_read_item {α β : Type} (read : α → Option β) (items : List α) (results : List β) (item : α)
    (known : items.mapM read = some results) (member : item ∈ items) : ∃ result ∈ results, read item = some result := by
  induction (all_read_iff read items results).mp known with
  | nil => simp at member
  | cons here _ ih =>
      rcases List.mem_cons.mp member with rfl | later
      · exact ⟨_, List.mem_cons_self, here⟩
      · obtain ⟨result, inside, found⟩ := ih ((all_read_iff read _ _).mpr ‹_›) later
        exact ⟨result, List.mem_cons_of_mem _ inside, found⟩

theorem all_read_result {α β : Type} (read : α → Option β) (items : List α) (results : List β) (result : β)
    (known : items.mapM read = some results) (member : result ∈ results) : ∃ item ∈ items, read item = some result := by
  induction (all_read_iff read items results).mp known with
  | nil => simp at member
  | cons here _ ih =>
      rcases List.mem_cons.mp member with rfl | later
      · exact ⟨_, List.mem_cons_self, here⟩
      · obtain ⟨item, inside, found⟩ := ih ((all_read_iff read _ _).mpr ‹_›) later
        exact ⟨item, List.mem_cons_of_mem _ inside, found⟩

end HostTools.Pieces
