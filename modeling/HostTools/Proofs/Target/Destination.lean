import Mathlib
import HostTools.Proofs.Url.Authority
import HostTools.Proofs.Url.Server

set_option autoImplicit false

namespace HostTools.Target

theorem path_keeps_destination (request : Request) (path other : String)
    (origin : { request with path := path }.hasOriginForm = true)
    (otherOrigin : { request with path := other }.hasOriginForm = true) :
    ((∃ target, ofRequest { request with path := path } = .ok target) ↔
        ∃ target, ofRequest { request with path := other } = .ok target) ∧
      ∀ target otherTarget, ofRequest { request with path := path } = .ok target →
        ofRequest { request with path := other } = .ok otherTarget →
          target.url.scheme = otherTarget.url.scheme ∧ target.url.username = otherTarget.url.username ∧
            target.url.password = otherTarget.url.password ∧ target.url.host = otherTarget.url.host ∧
              target.url.port = otherTarget.url.port := by
  have succeeds : ∀ text : String, { request with path := text }.hasOriginForm = true →
      ((∃ target, ofRequest { request with path := text } = .ok target) ↔
        isToken request.method.toList = true ∧
          ∃ server, Url.hostAndPort request.scheme (Url.cutUserinfo request.seenAuthority).2 = .ok server) := by
    intro text accepted
    constructor
    · rintro ⟨target, done⟩
      obtain ⟨token, -, -, server, known, -⟩ := (of_request_iff _ _).mp done
      exact ⟨token, server, known⟩
    · rintro ⟨token, server, known⟩
      exact ⟨⟨request.method, _⟩, (of_request_iff _ _).mpr ⟨token, accepted, rfl, server, known, rfl⟩⟩
  refine ⟨(succeeds path origin).trans (succeeds other otherOrigin).symm, ?_⟩
  intro target otherTarget done otherDone
  obtain ⟨-, -, -, server, known, url⟩ := (of_request_iff _ _).mp done
  obtain ⟨-, -, -, otherServer, otherKnown, otherUrl⟩ := (of_request_iff _ _).mp otherDone
  have same : server = otherServer := Except.ok.inj (known.symm.trans otherKnown)
  have user := fun text => request.assembled_user text server
  rw [url, otherUrl, ← same]
  exact ⟨rfl, (user _).1.trans (user _).1.symm, (user _).2.trans (user _).2.symm, rfl, rfl⟩

theorem path_keeps_destination_at_sign :
    (ofRequest { host := "u@[::1]", port := 8080, path := "/@v:1/" }).isOk = true ∧
      ∀ target otherTarget, ofRequest { host := "u@[::1]", port := 8080, path := "/@v:1/" } = .ok target →
        ofRequest { host := "u@[::1]", port := 8080, path := "\\@v\t?\n#:80" } = .ok otherTarget →
          target.url.scheme = otherTarget.url.scheme ∧ target.url.username = otherTarget.url.username ∧
            target.url.password = otherTarget.url.password ∧ target.url.host = otherTarget.url.host ∧
              target.url.port = otherTarget.url.port :=
  ⟨by decide, (path_keeps_destination { host := "u@[::1]", port := 8080 } "/@v:1/" "\\@v\t?\n#:80" (by decide)
    (by decide)).2⟩

theorem states_port_server (scheme : Scheme) (port : Nat) (authority : List Char) :
    Url.StatesPort scheme port (Url.cutUserinfo authority).2 ↔ Url.StatesPort scheme port authority := by
  by_cases present : '@' ∈ authority
  · obtain ⟨front, back, rfl, absent⟩ := Url.last_at_sign authority present
    rw [Url.cut_userinfo_last front back absent, Url.states_port_user]
  · rw [Url.cut_userinfo_absent authority present]

theorem destination_confined_iff (request : Request) (target : Target) (done : ofRequest request = .ok target) :
    target.url.scheme = request.scheme ∧
      (target.url.username = [] ∧ target.url.password = none ∧ target.url.effectivePort = request.port.toNat ↔
        Url.NamesNobody request.seenAuthority ∧
          Url.StatesPort request.scheme request.port.toNat request.seenAuthority) ∧
      ((∀ c ∈ request.host.toList, c ≠ '@' ∧ Url.endsAuthority c = false) →
        target.url.username = [] ∧ target.url.password = none ∧ target.url.effectivePort = request.port.toNat) := by
  obtain ⟨-, -, -, ⟨host, port⟩, known, url⟩ := (of_request_iff request target).mp done
  have user := request.assembled_user (Url.cleanEnd request.urlPath.tail) (host, port)
  have condition : target.url.username = [] ∧ target.url.password = none ∧
      target.url.effectivePort = request.port.toNat ↔
        Url.NamesNobody request.seenAuthority ∧
          Url.StatesPort request.scheme request.port.toNat request.seenAuthority := by
    have effective : target.url.effectivePort = port.getD request.scheme.defaultPort := by
      rw [url]
      rfl
    rw [effective, Url.effective_port_iff request.scheme _ host port _ known, states_port_server,
      ← Url.names_nobody_iff, url, user.1, user.2, Prod.ext_iff, and_assoc]
  refine ⟨by rw [url]; rfl, condition, fun plain => condition.mpr ?_⟩
  obtain ⟨whole, seen⟩ := request.plain_host_seen plain
  rw [whole]
  constructor
  · intro front back same
    exact absurd rfl (seen '@' (by simp [same])).1
  · exact .inl ⟨_, List.suffix_append request.seenHost _, Digits.read_to_digits 10 _ (by decide) (by decide)⟩

theorem destination_confined_literal :
    ∃ target, ofRequest { host := "::1", port := 8080 } = .ok target ∧ target.url.username = [] ∧
      target.url.password = none ∧ target.url.effectivePort = 8080 := by
  obtain ⟨target, done⟩ : ∃ target, ofRequest { host := "::1", port := 8080 } = .ok target := ⟨_, rfl⟩
  exact ⟨target, done, (destination_confined_iff _ target done).2.2 (by simp [Url.endsAuthority])⟩

-- The slash ends the authority, so the port after it is read as part of the path.
theorem slash_in_host_drops_port :
    ∃ target, ofRequest { host := "[::1]/x", port := 8080 } = .ok target ∧ target.url.effectivePort = 80 ∧
      target.url.text = "http://[::1]/x:8080/" :=
  ⟨_, rfl, by decide, by decide⟩

end HostTools.Target
