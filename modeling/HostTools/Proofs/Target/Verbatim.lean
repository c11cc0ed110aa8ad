import Mathlib
import HostTools.Proofs.Url.Normal

set_option autoImplicit false

namespace HostTools

namespace UrlPath

-- The characters that RFC 3986 has for segments, letters and digits apart.
def segmentMarks : List Char := "-._~!$&'()*+,;=:@".toList

def isPchar (c : Char) : Bool := c.isAlphanum || segmentMarks.contains c

-- The apostrophe is left out.
def isQueryChar (c : Char) : Bool := isPchar c && c.toNat ≠ 0x27 || c = '/' || c = '?'

def isSpelled (own : Char → Bool) : List Char → Bool
  | '%' :: high :: low :: rest => (Digits.value? high).isSome && (Digits.value? low).isSome && isSpelled own rest
  | c :: rest => own c && isSpelled own rest
  | [] => true

def dotSpellings : List (List Char) := [['.'], ['%', '2', 'e'], ['%', '2', 'E']]

def IsDotSegment (segment : List Char) : Prop :=
  segment ∈ dotSpellings ∨ ∃ first ∈ dotSpellings, ∃ second ∈ dotSpellings, segment = first ++ second

instance : DecidablePred IsDotSegment := fun _ => inferInstanceAs (Decidable (_ ∨ _))

def IsWellFormed (path : List Char) : Prop :=
  ∃ segments query, segments ≠ [] ∧ (∀ segment ∈ segments, isSpelled isPchar segment = true ∧ ¬ IsDotSegment segment) ∧
    (∀ text, query = some text → isSpelled isQueryChar text = true) ∧ path = render segments ++ Url.marked '?' query

theorem hex_alphanum (c : Char) (hex : (Digits.value? c).isSome = true) : c.isAlphanum = true := by
  rw [Target.alphanum_iff]
  have value : c.val.toNat = c.toNat := rfl
  unfold Digits.value? at hex
  simp only [Char.le_def, UInt32.le_iff_toNat_le, value, Char.reduceVal, UInt32.reduceToNat] at hex
  split_ifs at hex
  · omega
  · omega
  · omega
  · simp at hex

theorem spelled_char (own : Char → Bool) (text : List Char) (spelled : isSpelled own text = true) (c : Char)
    (member : c ∈ text) : own c = true ∨ c = '%' ∨ c.isAlphanum = true := by
  fun_induction isSpelled own text with
  | case1 high low rest ih =>
      simp only [Bool.and_eq_true] at spelled
      obtain ⟨⟨first, second⟩, more⟩ := spelled
      simp only [List.mem_cons] at member
      rcases member with rfl | rfl | rfl | later
      · exact .inr (.inl rfl)
      · exact .inr (.inr (hex_alphanum _ first))
      · exact .inr (.inr (hex_alphanum _ second))
      · exact ih more later
  | case2 d rest _ ih =>
      rw [Bool.and_eq_true] at spelled
      rcases List.mem_cons.mp member with rfl | later
      · exact .inl spelled.1
      · exact ih spelled.2 later
  | case3 => simp at member

theorem pchar_low (c : Char) (own : isPchar c = true) : c.toNat < 0x80 := by
  have marks : segmentMarks.all (fun d => d.toNat < 0x80) = true := by decide
  rcases Bool.or_eq_true_iff.mp own with letter | mark
  · have range := (Target.alphanum_iff c).mp letter
    omega
  · simpa using List.all_eq_true.mp marks c (List.contains_iff_mem.mp mark)

theorem query_char_low (c : Char) (own : isQueryChar c = true) : c.toNat < 0x80 := by
  simp only [isQueryChar, Bool.or_eq_true, Bool.and_eq_true, decide_eq_true_eq] at own
  rcases own with (⟨pchar, -⟩ | rfl) | rfl
  · exact pchar_low c pchar
  · decide
  · decide

-- All characters of either class are ASCII, so that there are only 128 to look at.
theorem pchar_kept (c : Char) (own : isPchar c = true) : Percent.inPath c = false ∧ isSlash c = false := by
  have each : ∀ n < 0x80, isPchar (Char.ofNat n) = true →
      Percent.inPath (Char.ofNat n) = false ∧ isSlash (Char.ofNat n) = false := by decide +kernel
  simpa only [Char.ofNat_toNat, own, forall_const] using each c.toNat (pchar_low c own)

theorem query_char_kept (c : Char) (own : isQueryChar c = true) : Percent.inQuery c = false := by
  have each : ∀ n < 0x80, isQueryChar (Char.ofNat n) = true → Percent.inQuery (Char.ofNat n) = false := by decide +kernel
  simpa only [Char.ofNat_toNat, own, forall_const] using each c.toNat (query_char_low c own)

theorem spelled_segment (segment : List Char) (spelled : isSpelled isPchar segment = true) (c : Char) (member : c ∈ segment) :
    c.toNat < 0x80 ∧ Percent.inPath c = false ∧ isSlash c = false := by
  rcases spelled_char isPchar segment spelled c member with own | rfl | letter
  · exact ⟨pchar_low c own, pchar_kept c own⟩
  · decide
  · have own : isPchar c = true := by simp [isPchar, letter]
    exact ⟨pchar_low c own, pchar_kept c own⟩

theorem spelled_query (query : List Char) (spelled : isSpelled isQueryChar query = true) :
    Percent.Settled Percent.inQuery query := by
  intro c member
  rcases spelled_char isQueryChar query spelled c member with own | rfl | letter
  · exact ⟨query_char_low c own, query_char_kept c own⟩
  · decide
  · have other : c.toNat ≠ 0x27 := by
      have range := (Target.alphanum_iff c).mp letter
      omega
    have own : isQueryChar c = true := by simp [isQueryChar, isPchar, letter, other]
    exact ⟨query_char_low c own, query_char_kept c own⟩

theorem dots_spelled (segment : List Char) (count : Nat) (known : dots? segment = some count) :
    ∃ dots : List (List Char), dots.length = count ∧ (∀ dot ∈ dots, dot ∈ dotSpellings) ∧ segment = dots.flatten := by
  fun_induction dots? segment generalizing count with
  | case1 =>
      cases known
      exact ⟨[], rfl, by simp, rfl⟩
  | case2 rest ih =>
      obtain ⟨fewer, inner, rfl⟩ := Option.map_eq_some_iff.mp known
      obtain ⟨dots, length, each, rfl⟩ := ih fewer inner
      exact ⟨['.'] :: dots, by simp [length], by simpa [dotSpellings] using each, rfl⟩
  | case3 e rest letter ih =>
      -- A triplet counts as one dot, in either case of its letter.
      obtain ⟨fewer, inner, rfl⟩ := Option.map_eq_some_iff.mp known
      obtain ⟨dots, length, each, rfl⟩ := ih fewer inner
      refine ⟨['%', '2', e] :: dots, by simp [length], ?_, rfl⟩
      rcases letter with rfl | rfl <;> simpa [dotSpellings] using each
  | case4 => simp at known
  | case5 => simp at known

theorem dot_segment (segment : List Char) (dots : dots? segment = some 1 ∨ dots? segment = some 2) :
    IsDotSegment segment := by
  rcases dots with one | two
  · obtain ⟨spelled, length, each, rfl⟩ := dots_spelled segment 1 one
    obtain ⟨dot, rfl⟩ := List.length_eq_one_iff.mp length
    exact .inl (by simpa using each)
  · obtain ⟨spelled, length, each, rfl⟩ := dots_spelled segment 2 two
    obtain ⟨first, second, rfl⟩ := List.length_eq_two.mp length
    exact .inr ⟨first, each first (by simp), second, each second (by simp), by simp⟩

theorem well_formed_segment (segment : List Char) (spelled : isSpelled isPchar segment = true)
    (noDots : ¬ IsDotSegment segment) : IsSegment segment where
  settled c member := ⟨(spelled_segment segment spelled c member).1, (spelled_segment segment spelled c member).2.1⟩
  solid c member := (spelled_segment segment spelled c member).2.2
  noDot one := noDots (dot_segment segment (.inl one))
  noDots two := noDots (dot_segment segment (.inr two))

end UrlPath

namespace Target

-- A path in normal form with a query that needs no coding: nothing is dropped at its end, it is cut at its own
-- question mark, and neither part changes.
theorem of_request_kept (request : Request) (target : Target) (path : List Char) (query : Option (List Char))
    (confined : ∀ c ∈ request.host.toList, Url.endsAuthority c = false) (normal : UrlPath.IsNormal path)
    (settled : ∀ text, query = some text → Percent.Settled Percent.inQuery text)
    (shape : request.path.toList = path ++ Url.marked '?' query) (done : ofRequest request = .ok target) :
    target.url.path = path ∧ target.url.query = query ∧ target.url.fragment = none := by
  obtain ⟨-, -, -, server, -, url⟩ := (of_request_iff request target).mp done
  obtain ⟨back, start⟩ : ∃ back, path = '/' :: back := by
    obtain ⟨segments, several, -, rfl⟩ := normal
    exact ⟨_, UrlPath.render_eq segments several⟩
  have given : request.urlPath.tail = back ++ Url.marked '?' query := by
    simp [Request.urlPath, shape, start]
  have graphic : Graphic (path ++ Url.marked '?' query) := by
    apply graphic_append
    · rw [← UrlPath.normal_fixed path normal]
      exact UrlPath.normal_graphic path
    · exact Url.marked_graphic '?' query (by decide) fun text known =>
        Percent.settled_graphic _ Percent.covers_query text (settled text known)
  have kept : '/' :: Url.cleanEnd request.urlPath.tail = path ++ Url.marked '?' query := by
    rw [given, Url.clean_end_graphic _ fun c member => graphic c (by simp_all), start]
    rfl
  have cut : Url.cutTail (path ++ Url.marked '?' query) = (path, query, none) := by
    have parts := Url.cut_tail_parts path query none (UrlPath.normal_absent path normal '?' (by decide) (by decide))
      (UrlPath.normal_absent path normal '#' (by decide) (by decide))
      fun text known => Percent.settled_absent _ '#' text (settled text known) (by decide)
    simpa [Url.marked] using parts
  have whole := request.seen_authority_eq (Url.cleanEnd request.urlPath.tail)
  rw [request.confined_host_seen confined, kept] at whole
  simp only [url, Url.assemble, whole, List.drop_left, kept, cut, UrlPath.normal_fixed path normal,
    Percent.settled_part _ query settled, Option.map_none, and_self]

theorem well_formed_path_kept (request : Request) (target : Target)
    (confined : ∀ c ∈ request.host.toList, Url.endsAuthority c = false)
    (formed : UrlPath.IsWellFormed request.path.toList) (done : ofRequest request = .ok target) :
    target.url.target = request.path.toList ∧ target.url.fragment = none := by
  obtain ⟨segments, query, several, each, spelled, shape⟩ := formed
  have normal : UrlPath.IsNormal (UrlPath.render segments) :=
    ⟨segments, several, fun segment member => (each segment member).elim (UrlPath.well_formed_segment segment), rfl⟩
  have settled : ∀ text, query = some text → Percent.Settled Percent.inQuery text := fun text known =>
    UrlPath.spelled_query text (spelled text known)
  obtain ⟨path, search, fragment⟩ := of_request_kept request target _ query confined normal settled shape done
  exact ⟨by rw [Url.target, path, search, shape], fragment⟩

theorem well_formed_path_kept_dotted :
    let request : Request := { host := "u@127.1", port := 8080, path := "/a//%2e%2e%2E/b;c='d'@:/?x=/?%4a&y" }
    (∀ c ∈ request.host.toList, Url.endsAuthority c = false) ∧ UrlPath.IsWellFormed request.path.toList ∧
      ∃ target, ofRequest request = .ok target ∧ target.url.target = request.path.toList ∧ target.url.fragment = none := by
  intro request
  have confined : ∀ c ∈ request.host.toList, Url.endsAuthority c = false := by simp [request, Url.endsAuthority]
  have formed : UrlPath.IsWellFormed request.path.toList := by
    refine ⟨["a".toList, [], "%2e%2e%2E".toList, "b;c='d'@:".toList, []], some "x=/?%4a&y".toList, by simp, ?_, ?_, ?_⟩
    · decide +kernel
    · rintro text ⟨⟩
      decide +kernel
    · decide +kernel
  have done : ofRequest request = .ok ⟨"GET", .http, ['u'], none, .ipv4 ⟨127, 0, 0, 1⟩, some 8080,
      "/a//%2e%2e%2E/b;c='d'@:/".toList, some "x=/?%4a&y".toList, none⟩ := by decide +kernel
  exact ⟨confined, formed, _, done, well_formed_path_kept request _ confined formed done⟩

end Target

end HostTools
