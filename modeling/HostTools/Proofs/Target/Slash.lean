import Mathlib
import HostTools.Target
import HostTools.Proofs.Text.Pieces

set_option autoImplicit false

namespace HostTools

def isScheme : List Char → Bool
  | [] => false
  | first :: rest => first.isAlpha && rest.all fun c => c.isAlphanum || c = '+' || c = '-' || c = '.'

def schemeMarks : List Char := [':', '/', '/']

def IsAbsolute (text : List Char) : Prop := ∃ scheme rest, isScheme scheme = true ∧ text = scheme ++ schemeMarks ++ rest

theorem scheme_plain (text : List Char) (scheme : isScheme text = true) : ∀ c ∈ text, c ≠ ':' := by
  rintro c member rfl
  cases text with
  | nil => simp at member
  | cons first rest =>
      rw [isScheme, Bool.and_eq_true, List.all_eq_true] at scheme
      rcases List.mem_cons.mp member with rfl | later
      · exact absurd scheme.1 (by decide)
      · exact absurd (scheme.2 ':' later) (by decide)

theorem absolute_iff (text : List Char) :
    IsAbsolute text ↔ isScheme (text.takeWhile (· ≠ ':')) = true ∧ schemeMarks <+: text.dropWhile (· ≠ ':') := by
  constructor
  · rintro ⟨scheme, rest, known, rfl⟩
    -- A scheme has no colon, so the first one of the text is the colon of the marks.
    have plain : ∀ c ∈ scheme, decide (c ≠ ':') = true := by simpa using scheme_plain scheme known
    rw [List.append_assoc, List.takeWhile_append_of_pos plain, List.dropWhile_append_of_pos plain]
    simp [schemeMarks, known]
  · rintro ⟨known, rest, marked⟩
    exact ⟨_, rest, known, by rw [List.append_assoc, marked, List.takeWhile_append_dropWhile]⟩

instance : DecidablePred IsAbsolute := fun text => decidable_of_iff _ (absolute_iff text).symm

theorem absolute_marked (text : List Char) (absolute : IsAbsolute text) : schemeMarks <:+: text := by
  obtain ⟨scheme, rest, -, rfl⟩ := absolute
  exact ⟨scheme, rest, rfl⟩

namespace Request

variable (request : Request) (path : String) (bare : path.toList.head? ≠ some '/')

include bare

theorem url_slashed : { request with path := path }.url = { request with path := "/" ++ path }.url := by
  have without : { request with path := path }.urlPath = '/' :: path.toList := by
    unfold urlPath
    split
    · rename_i rest shape
      exact absurd (by simp [shape]) bare
    · rfl
  have slashed : { request with path := "/" ++ path }.urlPath = '/' :: path.toList := by simp [urlPath]
  rw [url, url, without, slashed]
  rfl

theorem origin_form_bare : { request with path := path }.hasOriginForm = true ↔ ¬ schemeMarks <:+: path.toList := by
  rw [hasOriginForm, ← Pieces.occurs_iff]
  simp [bare, schemeMarks]

end Request

theorem Request.origin_form_slashed (request : Request) (path : String) :
    { request with path := "/" ++ path }.hasOriginForm = true := by
  simp [Request.hasOriginForm]

namespace Target

theorem of_request_origin (request : Request) (token : isToken request.method.toList = true)
    (origin : request.hasOriginForm = true) (given : String) : ofRequest request ≠ .error (.absolutePath given) := by
  cases read : Url.parse request.url.toList <;> simp [ofRequest, token, origin, read]

theorem slash_optional_iff (request : Request) (path : String) (bare : path.toList.head? ≠ some '/') :
    (ofRequest { request with path := path } = ofRequest { request with path := "/" ++ path } ↔
        isToken request.method.toList = false ∨ ¬ schemeMarks <:+: path.toList) ∧
      (isToken request.method.toList = true → schemeMarks <:+: path.toList →
        ofRequest { request with path := path } = .error (.absolutePath path)) ∧
      (IsAbsolute path.toList → schemeMarks <:+: path.toList) := by
  have slashed := Request.origin_form_slashed request path
  have refused : isToken request.method.toList = true → schemeMarks <:+: path.toList →
      ofRequest { request with path := path } = .error (.absolutePath path) := by
    intro token marked
    have origin : { request with path := path }.hasOriginForm = false := by
      rw [← Bool.not_eq_true, Request.origin_form_bare request path bare]
      exact not_not.mpr marked
    simp [ofRequest, token, origin]
  refine ⟨⟨?_, ?_⟩, refused, absolute_marked path.toList⟩
  · -- After a slash no path is refused as an absolute URL, so the refusal of the bare one is a difference.
    intro same
    by_contra neither
    rw [not_or, not_not, Bool.not_eq_false] at neither
    obtain ⟨token, marked⟩ := neither
    rw [refused token marked] at same
    exact of_request_origin { request with path := "/" ++ path } token slashed path same.symm
  · rintro (unknown | unmarked)
    · simp [ofRequest, unknown]
    · have origin := (Request.origin_form_bare request path bare).mpr unmarked
      simp [ofRequest, origin, slashed, Request.url_slashed request path bare]

theorem slash_optional_iff_relative :
    "a:/b?c".toList.head? ≠ some '/' ∧ ¬ schemeMarks <:+: "a:/b?c".toList ∧
      ofRequest { host := "::1", port := 8080, path := "a:/b?c" } =
        ofRequest { host := "::1", port := 8080, path := "/" ++ "a:/b?c" } := by
  have unmarked : ¬ schemeMarks <:+: "a:/b?c".toList := by
    rw [← Pieces.occurs_iff]
    decide
  exact ⟨by decide, unmarked,
    (slash_optional_iff { host := "::1", port := 8080 } "a:/b?c" (by decide)).1.mpr (.inr unmarked)⟩

-- A URL in the query is enough to have a relative path refused, but not the same path after a slash.
theorem marks_in_query_refused :
    let request : Request := { host := "127.0.0.1", port := 8080, path := "x?next=http://a" }
    request.path.toList.head? ≠ some '/' ∧ ¬ IsAbsolute request.path.toList ∧
      ofRequest request = .error (.absolutePath request.path) ∧
      ∃ target, ofRequest { request with path := "/" ++ request.path } = .ok target ∧
        target.url.text = "http://127.0.0.1:8080/x?next=http://a" := by
  refine ⟨by decide, by decide, by decide, ?_⟩
  exact ⟨⟨"GET", .http, [], none, .ipv4 ⟨127, 0, 0, 1⟩, some 8080, "/x".toList, some "next=http://a".toList, none⟩,
    by decide +kernel, by decide +kernel⟩

end Target

end HostTools
