import Mathlib
import HostTools.Proofs.Target.Graphic
import HostTools.Proofs.Target.Literal
import HostTools.Proofs.Url.Path

set_option autoImplicit false

namespace HostTools

namespace Percent

theorem settled_graphic (replaced : Char → Bool) (covers : Covers replaced) (text : List Char)
    (settled : Settled replaced text) : Graphic text := by
  rw [← encode_settled replaced text settled]
  exact encode_graphic replaced covers text

theorem settled_absent (replaced : Char → Bool) (c : Char) (text : List Char) (settled : Settled replaced text)
    (coded : replaced c = true) : c ∉ text := by
  intro member
  simp [(settled c member).2] at coded

theorem settled_part (replaced : Char → Bool) (part : Option (List Char))
    (settled : ∀ text, part = some text → Settled replaced text) : part.map (encode replaced) = part := by
  cases part with
  | none => rfl
  | some text => rw [Option.map_some, encode_settled replaced text (settled text rfl)]

end Percent

theorem UrlPath.normal_absent (path : List Char) (normal : IsNormal path) (c : Char) (coded : Percent.inPath c = true)
    (other : c ≠ '/') : c ∉ path := by
  intro member
  obtain ⟨segments, -, each, rfl⟩ := normal
  rcases render_char segments c member with slash | ⟨segment, inside, found⟩
  · exact other slash
  · exact Percent.settled_absent _ c segment (each segment inside).settled coded found

namespace Host

-- A host that its own text names.
def IsNormal : Host → Prop
  | .domain name =>
      name ≠ [] ∧ (∀ c ∈ name, Domain.IsPlain c) ∧ Domain.ascii? name = some name ∧ endsInNumber name = false
  | .ipv4 _ => True
  | .ipv6 _ => True

theorem parse_is_normal (text : List Char) (host : Host) (low : Percent.DecodesLow text) (known : parse text = .ok host) :
    host.IsNormal := by
  unfold parse at known
  split at known
  · split at known
    · rw [← Except.ok.inj known]
      trivial
    · simp at known
  · split at known
    · simp at known
    · simp at known
    · rename_i name present found
      split at known
      · split at known
        · rw [← Except.ok.inj known]
          trivial
        · simp at known
      · rename_i named
        obtain ⟨plain, own⟩ := domain_low text name low found
        rw [← Except.ok.inj known]
        exact ⟨present, plain, own, by simpa using named⟩

theorem plain_apart (c d : Char) (plain : Domain.IsPlain c) (forbidden : Domain.isForbidden d = true) : c ≠ d := by
  rintro rfl
  simp [plain.2.2] at forbidden

theorem plain_solid (c : Char) (plain : Domain.IsPlain c) :
    (c ≠ '@' ∧ Url.endsAuthority c = false) ∧ (c ≠ ':' ∧ c ≠ '[') ∧ Url.isDropped c = false ∧
      UrlPath.isSlash c = false := by
  have apart := fun d => plain_apart c d plain
  refine ⟨⟨apart '@' (by decide), ?_⟩, ⟨apart ':' (by decide), apart '[' (by decide)⟩, ?_, ?_⟩
  · exact Url.ends_authority_outside Domain.IsPlain c plain (by decide)
  · exact Url.dropped_outside Domain.IsPlain c plain (by decide)
  · simp [UrlPath.isSlash, apart '/' (by decide), apart '\\' (by decide)]

theorem parse_normal (host : Host) (normal : host.IsNormal) : parse host.render = .ok host := by
  cases host with
  | domain name =>
      obtain ⟨present, plain, own, named⟩ := normal
      obtain ⟨c, rest, rfl⟩ := List.exists_cons_of_ne_nil present
      have other : c ≠ '[' := plain_apart c '[' (plain c List.mem_cons_self) (by decide)
      rw [render, parse, domain_ascii _ plain, own]
      · simp [named]
      · rintro inner shape
        exact other (List.cons.inj shape).1
  | ipv4 address => exact parse_ipv4 address
  | ipv6 address => exact parse_ipv6 _ address (Ipv6.parse_render address)

theorem normal_graphic (host : Host) (normal : host.IsNormal) : Graphic host.render :=
  parse_graphic _ host (parse_normal host normal)

theorem written_ipv6 (address : Ipv6) : ∀ c ∈ address.render, Address.IsWritten c :=
  Ipv6.parse_char _ address (Ipv6.parse_render address)

theorem normal_apart (host : Host) (normal : host.IsNormal) (c : Char) (member : c ∈ host.render) :
    c ≠ '@' ∧ Url.endsAuthority c = false := by
  cases host with
  | domain name => exact (plain_solid c (normal.2.1 c member)).1
  | ipv4 address => exact (Address.written_apart c (Address.written_ipv4 address c member)).1
  | ipv6 address =>
      rcases List.mem_append.mp member with early | late
      · rcases List.mem_cons.mp early with rfl | inside
        · decide
        · exact (Address.written_apart c (written_ipv6 address c inside)).1
      · rw [List.mem_singleton.mp late]
        decide

theorem normal_present (host : Host) (normal : host.IsNormal) : host.render ≠ [] := by
  cases host with
  | domain name => exact normal.1
  | ipv4 address => simp [render, Ipv4.render]
  | ipv6 address => simp [render]

theorem cut_normal (host : Host) (rest : List Char) (normal : host.IsNormal) (starts : Url.StartsPort rest) :
    Url.cutHost false (host.render ++ rest) = (host.render, rest) := by
  have apart : ∀ c, Address.IsWritten c → ∀ d, ¬ Address.IsWritten d → c ≠ d := fun c own d other same =>
    other (same ▸ own)
  cases host with
  | domain name => exact Url.cut_host_plain name rest (fun c member => (plain_solid c (normal.2.1 c member)).2.1) starts
  | ipv4 address =>
      refine Url.cut_host_plain address.render rest (fun c member => ?_) starts
      have range := Ipv4.render_char address c member
      constructor <;> rintro rfl <;> exact absurd range (by decide)
  | ipv6 address =>
      refine Url.cut_host_bracketed address.render rest (fun c member => ?_) starts
      have own := apart c (written_ipv6 address c member)
      exact ⟨own '[' (by decide), own ']' (by decide)⟩

end Host

namespace Url

structure Canonical (url : Url) : Prop where
  username : Percent.Settled Percent.inUserinfo url.username
  password : ∀ text, url.password = some text → text ≠ [] ∧ Percent.Settled Percent.inUserinfo text
  host : url.host.IsNormal
  port : ∀ number, url.port = some number → number ≤ 65535 ∧ number ≠ url.scheme.defaultPort
  path : UrlPath.IsNormal url.path
  query : ∀ text, url.query = some text → Percent.Settled Percent.inQuery text
  fragment : ∀ text, url.fragment = some text → Percent.Settled Percent.inFragment text

theorem credentials_settled (userinfo : List Char) :
    Percent.Settled Percent.inUserinfo (credentials userinfo).1 ∧
      ∀ text, (credentials userinfo).2 = some text → text ≠ [] ∧ Percent.Settled Percent.inUserinfo text := by
  have coded := Percent.settled_encode Percent.inUserinfo Percent.spares_userinfo
  unfold credentials
  split
  · exact ⟨coded _, by simp⟩
  · rename_i username password present _
    refine ⟨coded _, fun text known => ?_⟩
    rw [← Option.some.inj known]
    exact ⟨fun empty => present ((Percent.encode_empty _ _).mp empty), coded _⟩
  · exact ⟨coded _, by simp⟩

theorem assemble_canonical (scheme : Scheme) (text : List Char) (host : Host) (port : Option Nat) (normal : host.IsNormal)
    (kept : ∀ number, port = some number → number ≤ 65535 ∧ number ≠ scheme.defaultPort) :
    (assemble scheme text (host, port)).Canonical := by
  have user := credentials_settled ((cutUserinfo (text.takeWhile fun c => !endsAuthority c)).1.getD [])
  refine ⟨user.1, user.2, normal, kept, UrlPath.normal_is_normal _, ?_, ?_⟩
  · intro part known
    obtain ⟨query, -, rfl⟩ := Option.map_eq_some_iff.mp known
    exact Percent.settled_encode _ Percent.spares_query query
  · intro part known
    obtain ⟨fragment, -, rfl⟩ := Option.map_eq_some_iff.mp known
    exact Percent.settled_encode _ Percent.spares_fragment fragment

theorem graphic_solid (text : List Char) (graphic : Graphic text) (c : Char) (member : c ∈ text) :
    isEdge c = false ∧ isDropped c = false := by
  have range := graphic c member
  refine ⟨?_, dropped_outside IsGraphic c range (by decide)⟩
  simp only [isEdge, decide_eq_false_iff_not]
  exact fun low => absurd range.1 (by omega)

theorem clean_end_graphic (text : List Char) (graphic : Graphic text) : cleanEnd text = text := by
  have solid := graphic_solid text graphic
  have edge : text.rdropWhile isEdge = text := by
    rw [List.rdropWhile_eq_self_iff]
    intro several
    simp [(solid _ (List.getLast_mem several)).1]
  rw [cleanEnd, edge]
  exact List.filter_eq_self.mpr fun c member => by simp [(solid c member).2]

theorem clean_graphic (text : List Char) (graphic : Graphic text) : clean text = text := by
  have front : text.dropWhile isEdge = text := by
    cases text with
    | nil => rfl
    | cons c rest => simp [(graphic_solid _ graphic c List.mem_cons_self).1]
  calc clean text = cleanEnd (text.dropWhile isEdge) := rfl
    _ = text := by rw [front, clean_end_graphic text graphic]

theorem cut_tail_parts (path : List Char) (query fragment : Option (List Char)) (noQuery : '?' ∉ path)
    (noFragment : '#' ∉ path) (inner : ∀ text, query = some text → '#' ∉ text) :
    cutTail (path ++ marked '?' query ++ marked '#' fragment) = (path, query, fragment) := by
  have front : Pieces.cut '?' (path ++ marked '?' query) = query.map fun text => (path, text) := by
    cases query with
    | none => simpa [marked] using Pieces.cut_absent '?' path noQuery
    | some text => exact Pieces.cut_append '?' path text noQuery
  have whole : '#' ∉ path ++ marked '?' query := by
    cases query with
    | none => simpa [marked] using noFragment
    | some text => simpa [marked, noFragment] using inner text rfl
  have back : Pieces.cut '#' (path ++ marked '?' query ++ marked '#' fragment) =
      fragment.map fun text => (path ++ marked '?' query, text) := by
    cases fragment with
    | none => simpa [marked] using Pieces.cut_absent '#' _ whole
    | some text => exact Pieces.cut_append '#' _ text whole
  cases fragment <;> cases query <;> simp_all [cutTail, marked]

theorem userinfo_cases (url : Url) :
    url.username = [] ∧ url.password = none ∧ url.userinfo = [] ∨
      url.userinfo = url.username ++ marked ':' url.password ++ ['@'] := by
  unfold userinfo
  split
  · exact .inl ⟨‹_›, ‹_›, rfl⟩
  · exact .inr rfl

namespace Canonical

variable {url : Url} (canonical : url.Canonical)

include canonical

theorem graphic : Graphic url.render := by
  apply render_graphic
  · exact Percent.settled_graphic _ Percent.covers_userinfo _ canonical.username
  · exact fun text known => Percent.settled_graphic _ Percent.covers_userinfo _ (canonical.password text known).2
  · exact Host.normal_graphic _ canonical.host
  · rw [← UrlPath.normal_fixed _ canonical.path]
    exact UrlPath.normal_graphic _
  · exact fun text known => Percent.settled_graphic _ Percent.covers_query _ (canonical.query text known)
  · exact fun text known => Percent.settled_graphic _ Percent.covers_fragment _ (canonical.fragment text known)

theorem authority_apart (c : Char) (member : c ∈ url.authority) : c ≠ '@' ∧ endsAuthority c = false := by
  rcases List.mem_append.mp member with host | port
  · exact Host.normal_apart url.host canonical.host c host
  · cases known : url.port with
    | none => simp [known, marked] at port
    | some number => exact port_apart number c (by simpa [known, marked] using port)

theorem user_settled (c : Char) (member : c ∈ url.username ++ marked ':' url.password) :
    c = ':' ∨ Percent.inUserinfo c = false := by
  rcases List.mem_append.mp member with name | rest
  · exact .inr (canonical.username c name).2
  · cases known : url.password with
    | none => simp [known, marked] at rest
    | some password =>
        rw [known] at rest
        rcases List.mem_cons.mp rest with colon | inside
        · exact .inl colon
        · exact .inr ((canonical.password password known).2 c inside).2

theorem user_apart (c : Char) (member : c ∈ url.userinfo) : endsAuthority c = false := by
  rcases url.userinfo_cases with ⟨-, -, empty⟩ | shape
  · simp [empty] at member
  · rw [shape] at member
    rcases List.mem_append.mp member with user | sign
    · rcases canonical.user_settled c user with rfl | kept
      · decide
      · exact ends_authority_outside (fun d => Percent.inUserinfo d = false) c kept (by decide)
    · rw [List.mem_singleton.mp sign]
      decide

theorem user_read : credentials (url.username ++ marked ':' url.password) = (url.username, url.password) := by
  have colon : ':' ∉ url.username := Percent.settled_absent _ ':' _ canonical.username (by decide)
  have name := Percent.encode_settled _ _ canonical.username
  cases known : url.password with
  | none => rw [marked, List.append_nil, credentials, Pieces.cut_absent ':' _ colon, name]
  | some password =>
      obtain ⟨present, settled⟩ := canonical.password password known
      rw [marked, credentials, Pieces.cut_append ':' _ _ colon]
      split
      · rename_i same
        exact absurd (Prod.mk.inj (Option.some.inj same)).2 present
      · rename_i _ _ _ same
        obtain ⟨rfl, rfl⟩ := Prod.mk.inj (Option.some.inj same)
        rw [name, Percent.encode_settled _ _ settled]
      · simp_all

-- The user, if there is one, ends at the only at sign that can follow.
theorem user_cut : ∃ user, cutUserinfo (url.userinfo ++ url.authority) = (user, url.authority) ∧
    credentials (user.getD []) = (url.username, url.password) := by
  have absent : '@' ∉ url.authority := fun member => (canonical.authority_apart '@' member).1 rfl
  rcases url.userinfo_cases with ⟨name, password, empty⟩ | shape
  · exact ⟨none, by rw [empty, List.nil_append, cut_userinfo_absent _ absent], by rw [name, password]; rfl⟩
  · refine ⟨some (url.username ++ marked ':' url.password), ?_, canonical.user_read⟩
    rw [shape, List.append_assoc, List.singleton_append, cut_userinfo_last _ _ absent]

theorem server : hostAndPort url.scheme url.authority = .ok (url.host, url.port) := by
  have starts : StartsPort (marked ':' (url.port.map Digits.decimal)) := by
    cases url.port with
    | none => exact .inl rfl
    | some number => exact .inr ⟨_, rfl⟩
  rw [host_and_port_iff, authority, Host.cut_normal url.host _ canonical.host starts]
  refine ⟨Host.normal_present url.host canonical.host, Host.parse_normal url.host canonical.host, ?_⟩
  cases known : url.port with
  | none => rfl
  | some number =>
      obtain ⟨bounded, other⟩ := canonical.port number known
      exact (explicit_port_decimal url.scheme number bounded).trans (by rw [if_neg other])

theorem tail_cut : cutTail (url.target ++ marked '#' url.fragment) = (url.path, url.query, url.fragment) := by
  apply cut_tail_parts
  · exact UrlPath.normal_absent url.path canonical.path '?' (by decide) (by decide)
  · exact UrlPath.normal_absent url.path canonical.path '#' (by decide) (by decide)
  · exact fun text known => Percent.settled_absent _ '#' text (canonical.query text known) (by decide)

theorem slash_first : ∃ back, url.target ++ marked '#' url.fragment = '/' :: back := by
  obtain ⟨segments, several, -, shape⟩ := canonical.path
  rw [target, shape, UrlPath.render_eq segments several]
  exact ⟨_, rfl⟩

end Canonical

theorem parse_render (url : Url) (canonical : url.Canonical) : parse url.render = .ok url := by
  obtain ⟨back, slash⟩ := canonical.slash_first
  obtain ⟨user, cut, read⟩ := canonical.user_cut
  -- A slash starts the path, so the authority ends where it was written to end.
  have shape : url.render =
      url.scheme.name.toList ++ ':' :: '/' :: '/' :: (url.userinfo ++ url.authority ++ '/' :: back) := by
    rw [← slash, render]
    simp [List.append_assoc]
  have apart : ∀ c ∈ url.userinfo ++ url.authority, endsAuthority c = false := by
    intro c member
    rcases List.mem_append.mp member with user | server
    · exact canonical.user_apart c user
    · exact (canonical.authority_apart c server).2
  -- Slashes before the authority are passed over: the host is not empty and does not start with one.
  have slashes : ('/' :: '/' :: (url.userinfo ++ url.authority ++ '/' :: back)).dropWhile UrlPath.isSlash =
      url.userinfo ++ url.authority ++ '/' :: back := by
    have present : url.userinfo ++ url.authority ≠ [] := by
      simp [authority, Host.normal_present url.host canonical.host]
    obtain ⟨c, rest, first⟩ := List.exists_cons_of_ne_nil present
    have solid : UrlPath.isSlash c = false := by
      have own := apart c (by simp [first])
      simp_all [endsAuthority, UrlPath.isSlash]
    have slash : UrlPath.isSlash '/' = true := rfl
    simp [first, solid, slash]
  have whole : (url.userinfo ++ url.authority ++ '/' :: back).takeWhile (fun c => !endsAuthority c) =
      url.userinfo ++ url.authority := by
    rw [take_while_stop _ '/' _ _ (by decide)]
    exact List.takeWhile_eq_self_iff.mpr fun c member => by simp [apart c member]
  have same : assemble url.scheme (url.userinfo ++ url.authority ++ '/' :: back) (url.host, url.port) = url := by
    have tail := canonical.tail_cut
    rw [slash] at tail
    simp only [assemble, whole, List.drop_left, cut, read, tail, UrlPath.normal_fixed _ canonical.path,
      Percent.settled_part _ _ canonical.query, Percent.settled_part _ _ canonical.fragment]
  rw [parse, clean_graphic _ canonical.graphic, shape, scheme_found]
  simp only [slashes]
  rw [of_authority_eq, whole, cut, canonical.server, Except.map, same]

end Url

end HostTools
