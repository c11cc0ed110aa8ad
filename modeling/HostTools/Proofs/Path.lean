import Mathlib
import HostTools.Path
import HostTools.Proofs.Text.Pieces

set_option autoImplicit false

namespace HostTools.Path

def IsName (piece : List Char) : Prop := piece ≠ [] ∧ piece ≠ ['.'] ∧ '/' ∉ piece

-- What stands after the first component, up to the end of the text.
inductive Follows : List Component → List Char → Prop
  | done : Follows [] []
  | slash {names : List Component} {rest : List Char} (later : Follows names rest) : Follows names ('/' :: rest)
  | dot {names : List Component} {rest : List Char} (later : Follows names rest) : Follows names ('/' :: '.' :: rest)
  | name {names : List Component} {piece rest : List Char} (own : IsName piece) (later : Follows names rest) :
      Follows (.name piece :: names) ('/' :: piece ++ rest)

-- The components that a text is made up of.
inductive Reads : List Char → List Component → Prop
  | empty : Reads [] []
  | root {names : List Component} {rest : List Char} (later : Follows names ('/' :: rest)) :
      Reads ('/' :: rest) (.root :: names)
  | here {names : List Component} {rest : List Char} (later : Follows names rest) : Reads ('.' :: rest) (.here :: names)
  | name {names : List Component} {piece rest : List Char} (own : IsName piece) (later : Follows names rest) :
      Reads (piece ++ rest) (.name piece :: names)

theorem names_cons (piece : List Char) (pieces : List (List Char)) : names (piece :: pieces) = names [piece] ++ names pieces := by
  by_cases kept : piece ≠ [] ∧ piece ≠ ['.'] <;> simp [names, kept]

theorem names_own (piece : List Char) (own : IsName piece) : names [piece] = [.name piece] := by
  simp [names, own.1, own.2.1]

theorem follows_open (components : List Component) (text : List Char) (follows : Follows components text) :
    text = [] ∨ ∃ rest, text = '/' :: rest := by
  cases follows with
  | done => exact .inl rfl
  | slash later => exact .inr ⟨_, rfl⟩
  | dot later => exact .inr ⟨_, rfl⟩
  | name own later => exact .inr ⟨_, rfl⟩

theorem names_slash (rest : List Char) : names (Pieces.split '/' ('/' :: rest)) = names (Pieces.split '/' rest) := by
  rw [Pieces.split, if_pos rfl, names_cons]
  rfl

-- What follows starts at a slash, so it cannot lengthen the piece before it.
theorem split_front (piece : List Char) (components : List Component) (text : List Char) (absent : '/' ∉ piece)
    (follows : Follows components text) :
    ∃ more, Pieces.split '/' (piece ++ text) = piece :: more ∧ names more = names (Pieces.split '/' text) := by
  rcases follows_open components text follows with rfl | ⟨rest, rfl⟩
  · refine ⟨[], ?_, rfl⟩
    rw [List.append_nil, Pieces.split_whole '/' piece absent]
  · exact ⟨Pieces.split '/' rest, Pieces.split_append '/' piece rest absent, (names_slash rest).symm⟩

theorem names_front (piece : List Char) (components : List Component) (text : List Char) (absent : '/' ∉ piece)
    (follows : Follows components text) :
    names (Pieces.split '/' (piece ++ text)) = names [piece] ++ names (Pieces.split '/' text) := by
  obtain ⟨more, found, same⟩ := split_front piece components text absent follows
  rw [found, names_cons, same]

theorem follows_names (components : List Component) (text : List Char) (follows : Follows components text) :
    names (Pieces.split '/' text) = components := by
  induction follows with
  | done => rfl
  | slash later ih => rw [names_slash, ih]
  | dot later ih =>
      rw [names_slash]
      exact (names_front ['.'] _ _ (by decide) later).trans ih
  | name own later ih =>
      rw [List.cons_append, names_slash, names_front _ _ _ own.2.2 later, names_own _ own, ih]
      rfl

theorem components_other (path : String) (first : List Char) (more : List (List Char))
    (found : Pieces.split '/' path.toList = first :: more) (relative : path.toList.head? ≠ some '/') :
    components path = if first = ['.'] then .here :: names (first :: more) else names (first :: more) := by
  unfold components
  rw [found]
  split
  · rename_i rest shape
    rw [shape] at relative
    exact absurd rfl relative
  · simp

theorem components_reads (path : String) (found : List Component) (reads : Reads path.toList found) :
    components path = found := by
  generalize shape : path.toList = text at reads
  cases reads with
  | empty =>
      rw [components_other path [] [] (by rw [shape]; rfl) (by simp [shape])]
      rfl
  | root later =>
      unfold components
      simp only [shape, follows_names _ _ later]
  | here later =>
      obtain ⟨more, split, same⟩ := split_front ['.'] _ _ (by decide) later
      rw [components_other path ['.'] more (by rw [shape]; exact split) (by simp [shape]), if_pos rfl, names_cons, same,
        follows_names _ _ later]
      rfl
  | name own later =>
      rename_i piece rest
      obtain ⟨more, split, same⟩ := split_front piece _ _ own.2.2 later
      -- A name has a first character, which is no slash.
      have relative : path.toList.head? ≠ some '/' := by
        obtain ⟨c, tail, rfl⟩ := List.exists_cons_of_ne_nil own.1
        have other : '/' ≠ c := (List.ne_and_not_mem_of_not_mem_cons own.2.2).1
        simpa [shape] using Ne.symm other
      rw [components_other path piece more (by rw [shape]; exact split) relative, if_neg own.2.1, names_cons, same,
        follows_names _ _ later, names_own _ own]
      rfl

theorem slashed_pieces (pieces : List (List Char)) (several : pieces ≠ []) :
    '/' :: List.intercalate ['/'] pieces = pieces.flatMap ('/' :: ·) := by
  induction pieces with
  | nil => exact absurd rfl several
  | cons piece more ih =>
      cases more with
      | nil => simp [List.intercalate]
      | cons next more =>
          rw [Pieces.intercalate_cons _ _ _ (by simp), ih (by simp)]
          rfl

theorem pieces_follow (pieces : List (List Char)) (absent : ∀ piece ∈ pieces, '/' ∉ piece) :
    Follows (names pieces) (pieces.flatMap ('/' :: ·)) := by
  induction pieces with
  | nil => exact .done
  | cons piece more ih =>
      have later := ih fun other member => absent other (List.mem_cons_of_mem piece member)
      rw [names_cons, List.flatMap_cons]
      by_cases empty : piece = []
      · subst empty
        exact .slash later
      · by_cases dot : piece = ['.']
        · subst dot
          exact .dot later
        · have own : IsName piece := ⟨empty, dot, absent piece List.mem_cons_self⟩
          rw [names_own piece own]
          exact .name own later

theorem split_absent (text piece : List Char) (member : piece ∈ Pieces.split '/' text) : '/' ∉ piece :=
  fun inside => (Pieces.split_piece_mem '/' '/' text piece member inside).2 rfl

theorem reads_components (path : String) : Reads path.toList (components path) := by
  by_cases rooted : ∃ rest, path.toList = '/' :: rest
  · obtain ⟨rest, shape⟩ := rooted
    have later := pieces_follow (Pieces.split '/' rest) (split_absent rest)
    rw [← slashed_pieces _ (Pieces.split_nonempty '/' rest), Pieces.intercalate_split, ← names_slash] at later
    have own : components path = .root :: names (Pieces.split '/' ('/' :: rest)) := by
      unfold components
      simp only [shape]
    rw [own, shape]
    exact .root later
  · have relative : path.toList.head? ≠ some '/' := by
      intro first
      obtain ⟨rest, shape⟩ := List.head?_eq_some_iff.mp first
      exact rooted ⟨rest, shape⟩
    -- The first piece of a relative path is the one place where a dot counts.
    obtain ⟨first, more, found⟩ := List.exists_cons_of_ne_nil (Pieces.split_nonempty '/' path.toList)
    have absent : ∀ piece ∈ first :: more, '/' ∉ piece := fun piece member => split_absent path.toList piece (found ▸ member)
    have later := pieces_follow more fun piece member => absent piece (List.mem_cons_of_mem first member)
    have whole : path.toList = first ++ more.flatMap ('/' :: ·) := by
      rw [← Pieces.intercalate_split '/' path.toList, found]
      cases more with
      | nil => simp [List.intercalate]
      | cons next more => rw [Pieces.intercalate_cons _ _ _ (by simp), slashed_pieces _ (by simp)]
    rw [components_other path first more found relative, names_cons, whole]
    by_cases dot : first = ['.']
    · rw [if_pos dot, dot]
      exact .here later
    · rw [if_neg dot]
      by_cases empty : first = []
      · -- A text that starts with no piece has none at all, or it would start at a slash.
        cases more with
        | nil =>
            rw [empty]
            exact .empty
        | cons next more =>
            rw [whole, empty] at relative
            exact absurd rfl relative
      · have own : IsName first := ⟨empty, dot, absent first List.mem_cons_self⟩
        rw [names_own first own]
        exact .name own later

theorem same_iff (a b : String) :
    same a b = true ↔ ∃ components, Reads a.toList components ∧ Reads b.toList components := by
  rw [same, decide_eq_true_iff]
  constructor
  · intro alike
    exact ⟨components a, reads_components a, alike ▸ reads_components b⟩
  · rintro ⟨found, left, right⟩
    rw [components_reads a found left, components_reads b found right]

example : same "/a//b/./" "/a/b" = true ∧ same "./a" "a" = false ∧ same "a/.." "" = false := by decide

end HostTools.Path
