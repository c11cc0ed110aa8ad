import Mathlib
import HostTools.Url.Path
import HostTools.Proofs.Text.Pieces
import HostTools.Proofs.Url.Percent

set_option autoImplicit false

namespace HostTools.UrlPath

def unify (c : Char) : Char := if isSlash c then '/' else c

theorem pieces_eq (path : List Char) : pieces path = Pieces.split '/' (path.map unify) := by
  induction path with
  | nil => rfl
  | cons c rest ih =>
      by_cases slash : isSlash c = true
      · simp [pieces, Pieces.split, unify, slash, ih]
      · have other : c ≠ '/' := by
          rintro rfl
          exact slash rfl
        cases shape : Pieces.split '/' (rest.map unify) <;> simp [pieces, Pieces.split, unify, slash, other, ih, shape]

theorem pieces_solid (path piece : List Char) (member : piece ∈ pieces path) (c : Char) (inside : c ∈ piece) :
    isSlash c = false := by
  rw [pieces_eq] at member
  obtain ⟨found, other⟩ := Pieces.split_piece_mem '/' c _ piece member inside
  obtain ⟨d, -, rfl⟩ := List.mem_map.mp found
  by_cases slash : isSlash d = true
  · simp [unify, slash] at other
  · simp [unify, slash]

structure IsSegment (segment : List Char) : Prop where
  settled : Percent.Settled Percent.inPath segment
  solid : ∀ c ∈ segment, isSlash c = false
  noDot : dots? segment ≠ some 1
  noDots : dots? segment ≠ some 2

theorem empty_segment : IsSegment [] := ⟨by simp [Percent.Settled], by simp, by decide, by decide⟩

theorem encoded_segment (piece : List Char) (solid : ∀ c ∈ piece, isSlash c = false)
    (noDot : dots? (Percent.encode Percent.inPath piece) ≠ some 1)
    (noDots : dots? (Percent.encode Percent.inPath piece) ≠ some 2) : IsSegment (Percent.encode Percent.inPath piece) := by
  refine ⟨Percent.settled_encode _ Percent.spares_path piece, ?_, noDot, noDots⟩
  intro c member
  rcases Percent.encode_char _ piece c member with own | ⟨inside, -⟩
  · have spared : ∀ value < 16, isSlash (Percent.upperDigit value) = false := by decide
    rcases own with rfl | ⟨value, small, rfl⟩
    · rfl
    · exact spared value small
  · exact solid c inside

-- What holds of the empty segment and of every coded piece that is no dots holds of the whole result.
theorem resolve_each (holds : List Char → Prop) (soFar pieces : List (List Char)) (empty : holds [])
    (before : ∀ segment ∈ soFar, holds segment)
    (each : ∀ piece ∈ pieces, dots? (Percent.encode Percent.inPath piece) ≠ some 1 →
      dots? (Percent.encode Percent.inPath piece) ≠ some 2 → holds (Percent.encode Percent.inPath piece)) :
    ∀ segment ∈ resolve soFar pieces, holds segment := by
  have shorter : ∀ segments : List (List Char), (∀ segment ∈ segments, holds segment) →
      ∀ segment ∈ shorten segments, holds segment := by
    intro segments all
    cases segments with
    | nil => exact all
    | cons last rest =>
        rw [shorten]
        split
        · exact all
        · exact fun segment member => all segment (List.mem_cons_of_mem last member)
  induction pieces generalizing soFar with
  | nil => exact before
  | cons piece more ih =>
      have later := fun (segments : List (List Char)) all => ih segments all fun other member =>
        each other (List.mem_cons_of_mem piece member)
      rw [resolve]
      split
      · split
        · exact later _ (List.forall_mem_cons.mpr ⟨empty, before⟩)
        · exact later _ before
      · rename_i noDot
        split
        · split
          · exact later _ (List.forall_mem_cons.mpr ⟨empty, shorter soFar before⟩)
          · exact later _ (shorter soFar before)
        · rename_i noDots
          exact later _ (List.forall_mem_cons.mpr ⟨each piece List.mem_cons_self noDot noDots, before⟩)

theorem resolve_nonempty (soFar pieces : List (List Char)) (several : pieces ≠ []) : resolve soFar pieces ≠ [] := by
  induction pieces generalizing soFar with
  | nil => exact absurd rfl several
  | cons piece more ih =>
      cases more with
      | nil =>
          simp only [resolve, List.isEmpty_nil, if_true]
          split
          · simp
          · split <;> simp
      | cons next more =>
          rw [resolve]
          split
          · exact ih _ (by simp)
          · split <;> exact ih _ (by simp)

theorem resolve_segments (soFar segments : List (List Char)) (each : ∀ segment ∈ segments, IsSegment segment) :
    resolve soFar segments = segments.reverse ++ soFar := by
  induction segments generalizing soFar with
  | nil => rfl
  | cons segment more ih =>
      obtain ⟨settled, -, noDot, noDots⟩ := each segment List.mem_cons_self
      rw [resolve]
      simp only [Percent.encode_settled _ segment settled, if_neg noDot, if_neg noDots]
      rw [ih _ fun other member => each other (List.mem_cons_of_mem segment member), List.reverse_cons, List.append_assoc]
      rfl

def IsNormal (path : List Char) : Prop :=
  ∃ segments, segments ≠ [] ∧ (∀ segment ∈ segments, IsSegment segment) ∧ path = render segments

theorem segments_normal (path : List Char) : IsNormal (render (segments path)) := by
  refine ⟨segments path, ?_, ?_, rfl⟩
  · have several : pieces path ≠ [] := by
      rw [pieces_eq]
      exact Pieces.split_nonempty _ _
    simpa [segments] using resolve_nonempty [] (pieces path) several
  · intro segment member
    refine resolve_each IsSegment [] (pieces path) empty_segment (by simp) ?_ segment (List.mem_reverse.mp member)
    intro piece found
    exact encoded_segment piece (pieces_solid path piece found)

theorem normal_is_normal (path : List Char) : IsNormal (normal path) := by
  unfold normal
  split
  · split <;> exact segments_normal _
  · exact segments_normal _

theorem render_eq (segments : List (List Char)) (several : segments ≠ []) :
    render segments = '/' :: List.intercalate ['/'] segments := by
  induction segments with
  | nil => exact absurd rfl several
  | cons segment more ih =>
      cases more with
      | nil => simp [render, List.intercalate]
      | cons next more =>
          have step : render (segment :: next :: more) = '/' :: segment ++ render (next :: more) := List.flatMap_cons
          rw [step, ih (by simp), Pieces.intercalate_cons '/' segment (next :: more) (by simp)]
          rfl

theorem render_char (segments : List (List Char)) (c : Char) (member : c ∈ render segments) :
    c = '/' ∨ ∃ segment ∈ segments, c ∈ segment := by
  obtain ⟨segment, inside, found⟩ := List.mem_flatMap.mp member
  rcases List.mem_cons.mp found with slash | own
  · exact .inl slash
  · exact .inr ⟨segment, inside, own⟩

theorem normal_fixed (path : List Char) (own : IsNormal path) : normal path = path := by
  obtain ⟨parts, several, each, rfl⟩ := own
  have solid : (List.intercalate ['/'] parts).map unify = List.intercalate ['/'] parts := by
    refine (List.map_congr_left ?_).trans (List.map_id _)
    intro c member
    have written : c ∈ render parts := by
      rw [render_eq parts several]
      exact List.mem_cons_of_mem '/' member
    rcases render_char parts c written with rfl | ⟨part, inside, own⟩
    · rfl
    · simp [unify, (each part inside).solid c own]
  have again : pieces (List.intercalate ['/'] parts) = parts := by
    rw [pieces_eq, solid, Pieces.split_intercalate '/' parts several]
    intro part member slash
    exact absurd ((each part member).solid '/' slash) (by decide)
  rw [render_eq parts several, normal, if_pos (by decide), segments, again, resolve_segments [] parts each,
    List.append_nil, List.reverse_reverse, render_eq parts several]

end HostTools.UrlPath
