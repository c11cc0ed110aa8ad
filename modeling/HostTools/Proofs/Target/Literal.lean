import Mathlib
import HostTools.Proofs.Url.Authority
import HostTools.Proofs.Url.Host
import HostTools.Proofs.Url.Server

set_option autoImplicit false

namespace HostTools

namespace Address

theorem written_apart (c : Char) (written : IsWritten c) :
    (c ≠ '@' ∧ Url.endsAuthority c = false) ∧ Url.isDropped c = false ∧ UrlPath.isSlash c = false := by
  have apart : ∀ d, ¬ IsWritten d → c ≠ d := fun d other same => other (same ▸ written)
  refine ⟨⟨apart '@' (by decide), ?_⟩, ?_, ?_⟩
  · exact Url.ends_authority_outside IsWritten c written (by decide)
  · exact Url.dropped_outside IsWritten c written (by decide)
  · simp [UrlPath.isSlash, apart '/' (by decide), apart '\\' (by decide)]

end Address

namespace Request

def urlPort (request : Request) : Option Nat :=
  if request.port.toNat = request.scheme.defaultPort then none else some request.port.toNat

theorem url_port_effective (request : Request) :
    request.urlPort.getD request.scheme.defaultPort = request.port.toNat := by
  by_cases standard : request.port.toNat = request.scheme.defaultPort <;> simp [urlPort, standard]

-- The classification decides on brackets; it is that of the address.
theorem url_host_literal (request : Request) (host : Host) (denotes : Address.host? request.host = some host) :
    (∃ address, host = .ipv4 address ∧ request.urlHost = address.render) ∨
      ∃ address, host = .ipv6 address ∧ request.urlHost = '[' :: request.host.toList ++ [']'] ∧
        Ipv6.parse? request.host.toList = some address := by
  have family : Address.classify request.host = host.family? := by
    rw [Address.classify_eq, denotes, Option.bind_some]
  rcases Address.host_cases request.host host denotes with ⟨address, rfl, shape⟩ | ⟨address, rfl, six⟩
  · exact .inl ⟨address, rfl, by rw [urlHost, family, ← shape]; rfl⟩
  · exact .inr ⟨address, rfl, by rw [urlHost, family]; rfl, six⟩

theorem seen_host_named (request : Request) (host : List Char)
    (kept : request.urlHost.filter (fun c => !Url.isDropped c) = host) (solid : ∀ c ∈ host, UrlPath.isSlash c = false) :
    request.seenHost = host := by
  rw [seenHost, kept]
  cases host with
  | nil => rfl
  | cons c rest => simp [solid c List.mem_cons_self]

theorem literal_seen_host (request : Request) (written : ∀ c ∈ request.host.toList, Address.IsWritten c) :
    request.seenHost = request.urlHost := by
  have kept : ∀ c ∈ request.urlHost, Url.isDropped c = false ∧ UrlPath.isSlash c = false := by
    intro c member
    rcases request.url_host_char c member with rfl | inside | rfl
    · decide
    · exact (Address.written_apart c (written c inside)).2
    · decide
  have whole : request.urlHost.filter (fun c => !Url.isDropped c) = request.urlHost :=
    List.filter_eq_self.mpr fun c member => by simp [(kept c member).1]
  exact request.seen_host_named request.urlHost whole fun c member => (kept c member).2

end Request

namespace Url

theorem host_and_port_literal (request : Request) (host : Host) (denotes : Address.host? request.host = some host) :
    hostAndPort request.scheme (request.urlHost ++ ':' :: Digits.decimal request.port.toNat) =
      .ok (host, request.urlPort) := by
  have written := Address.host_written request.host host denotes
  have port := explicit_port_decimal request.scheme request.port.toNat (Nat.le_of_lt_succ request.port.toNat_lt)
  have starts : StartsPort (':' :: Digits.decimal request.port.toNat) := .inr ⟨_, rfl⟩
  rw [host_and_port_iff]
  rcases request.url_host_literal host denotes with ⟨address, rfl, shape⟩ | ⟨address, rfl, shape, six⟩
  · have plain : ∀ c ∈ address.render, c ≠ ':' ∧ c ≠ '[' := by
      intro c member
      have range := Ipv4.render_char address c member
      constructor <;> rintro rfl <;> exact absurd range (by decide)
    rw [shape, cut_host_plain _ _ plain starts]
    exact ⟨by simp [Ipv4.render], Host.parse_ipv4 address, port⟩
  · have plain : ∀ c ∈ request.host.toList, c ≠ '[' ∧ c ≠ ']' := by
      intro c member
      have own := written c member
      constructor <;> rintro rfl <;> exact absurd own (by decide)
    rw [shape, cut_host_bracketed _ _ plain starts]
    exact ⟨by simp, Host.parse_ipv6 _ address six, port⟩

end Url

namespace Target

theorem of_request_plain (request : Request) (server : Host × Option Nat)
    (plain : ∀ c ∈ request.host.toList, c ≠ '@' ∧ Url.endsAuthority c = false)
    (known : Url.hostAndPort request.scheme request.seenServer = .ok server)
    (token : isToken request.method.toList = true) (origin : request.hasOriginForm = true) :
    ofRequest request = .ok ⟨request.method,
      Url.assemble request.scheme ('/' :: Url.cleanEnd request.urlPath.tail) server⟩ := by
  obtain ⟨whole, seen⟩ := request.plain_host_seen plain
  have absent : '@' ∉ request.seenServer := fun member => (seen '@' member).1 rfl
  refine (of_request_iff request _).mpr ⟨token, origin, rfl, server, ?_, ?_⟩
  · rw [whole, Url.cut_userinfo_absent _ absent]
    exact known
  · exact (Url.assemble_plain _ _ _ _ absent fun c member => (seen c member).2).symm

-- Of the host only what it denotes is in the result.
theorem of_request_literal (request : Request) (host : Host) (denotes : Address.host? request.host = some host)
    (token : isToken request.method.toList = true) (origin : request.hasOriginForm = true) :
    ofRequest request = .ok ⟨request.method,
      Url.assemble request.scheme ('/' :: Url.cleanEnd request.urlPath.tail) (host, request.urlPort)⟩ := by
  have written := Address.host_written request.host host denotes
  have plain := fun c member => (Address.written_apart c (written c member)).1
  have server := Url.host_and_port_literal request host denotes
  rw [← request.literal_seen_host written] at server
  exact of_request_plain request (host, request.urlPort) plain server token origin

theorem literal_reaches_address (request : Request) (family : Family)
    (known : Address.classify request.host = some family) (token : isToken request.method.toList = true)
    (origin : request.hasOriginForm = true) :
    ∃ url, ofRequest request = .ok ⟨request.method, url⟩ ∧ url.scheme = request.scheme ∧ url.username = [] ∧
      url.password = none ∧ url.effectivePort = request.port.toNat ∧ Address.host? request.host = some url.host ∧
      Address.classify url.host.bare = some family ∧
      ofRequest { request with host := url.host.bare } = .ok ⟨request.method, url⟩ := by
  rw [Address.classify_eq] at known
  obtain ⟨host, denotes, own⟩ := Option.bind_eq_some_iff.mp known
  have again := Address.host_bare request.host host denotes
  refine ⟨_, of_request_literal request host denotes token origin, rfl, rfl, rfl, request.url_port_effective, denotes,
    ?_, ?_⟩
  · exact (Address.classify_eq _).trans (Option.bind_eq_some_iff.mpr ⟨host, again, own⟩)
  · exact of_request_literal { request with host := host.bare } host again token origin

theorem literal_reaches_address_tail :
    Address.classify "01:0:0::FFFF:192.0.2.1" = some .ipv6 ∧
      ∃ url, ofRequest { host := "01:0:0::FFFF:192.0.2.1", port := 80, path := "@v:1" } = .ok ⟨"GET", url⟩ ∧
        url.effectivePort = 80 ∧ Address.host? "01:0:0::FFFF:192.0.2.1" = some url.host ∧
        Address.classify url.host.bare = some .ipv6 ∧
        ofRequest { host := url.host.bare, port := 80, path := "@v:1" } = .ok ⟨"GET", url⟩ := by
  obtain ⟨url, done, -, -, -, port, host, family, again⟩ :=
    literal_reaches_address { host := "01:0:0::FFFF:192.0.2.1", port := 80, path := "@v:1" } .ipv6 (by decide)
      (by decide) (by decide)
  exact ⟨by decide, url, done, port, host, family, again⟩

end Target

end HostTools
