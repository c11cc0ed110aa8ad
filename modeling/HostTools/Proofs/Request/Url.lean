import Mathlib
import HostTools.Proofs.Address.Ipv6
import HostTools.Proofs.Url.Authority

set_option autoImplicit false

namespace HostTools

theorem Digits.decimal_no_colon (n : Nat) : ':' ∉ Digits.decimal n := by
  intro member
  exact absurd (decimal_char n ':' member) (by decide)

namespace Address

def Bracketed (host other : String) : Prop := classify host = some .ipv6 ∧ other = "[" ++ host ++ "]"

theorem bracket_not_ipv6 (host : String) (bracket : '[' ∈ host.toList) : classify host ≠ some .ipv6 := by
  intro six
  unfold classify at six
  split at six
  · cases six
  · split at six
    · rename_i known
      obtain ⟨address, read⟩ := Option.isSome_iff_exists.mp known
      exact absurd (Ipv6.parse_char host.toList address read '[' bracket) (by decide)
    · cases six

end Address

namespace Request

def slashed (path : String) : String := if path.toList.head? = some '/' then path else "/" ++ path

theorem url_path_slashed (request : Request) : request.urlPath = (slashed request.path).toList := by
  unfold urlPath slashed
  split
  · rename_i rest shape
    rw [if_pos (by rw [shape]; rfl), shape]
  · rename_i other
    rw [if_neg]
    · simp
    · intro first
      cases shape : request.path.toList with
      | nil => simp [shape] at first
      | cons c rest =>
          have slash : c = '/' := by simpa [shape] using first
          exact other rest (by rw [shape, slash])

theorem url_host_six (request : Request) (six : Address.classify request.host = some .ipv6) :
    request.urlHost = ("[" ++ request.host ++ "]").toList := by
  simp [urlHost, six]

theorem url_host_bare (request : Request) (other : Address.classify request.host ≠ some .ipv6) :
    request.urlHost = request.host.toList := by
  unfold urlHost
  split
  · rename_i six
    exact absurd six other
  · rfl

-- Brackets are put around addresses only, and no address has a bracket of its own.
theorem url_host_bracketed (a b : Request) (bracketed : Address.Bracketed a.host b.host) : a.urlHost = b.urlHost := by
  obtain ⟨six, brackets⟩ := bracketed
  have other : Address.classify b.host ≠ some .ipv6 := Address.bracket_not_ipv6 b.host (by simp [brackets])
  rw [url_host_six a six, url_host_bare b other, brackets]

theorem url_host_eq_iff (a b : Request) :
    a.urlHost = b.urlHost ↔ a.host = b.host ∨ Address.Bracketed a.host b.host ∨ Address.Bracketed b.host a.host := by
  constructor
  · intro same
    -- Brackets tell nothing when both hosts get them or none does.
    by_cases here : Address.classify a.host = some .ipv6
    · by_cases there : Address.classify b.host = some .ipv6
      · rw [url_host_six a here, url_host_six b there] at same
        exact .inl (String.toList_inj.mp (by simpa using same))
      · rw [url_host_six a here, url_host_bare b there] at same
        exact .inr (.inl ⟨here, (String.toList_inj.mp same).symm⟩)
    · by_cases there : Address.classify b.host = some .ipv6
      · rw [url_host_bare a here, url_host_six b there] at same
        exact .inr (.inr ⟨there, String.toList_inj.mp same⟩)
      · rw [url_host_bare a here, url_host_bare b there] at same
        exact .inl (String.toList_inj.mp same)
  · rintro (same | here | there)
    · simp only [urlHost, same]
    · exact url_host_bracketed a b here
    · exact (url_host_bracketed b a there).symm

theorem scheme_name_eq_iff (a b : Request) : a.scheme.name.toList = b.scheme.name.toList ↔ a.usesTls = b.usesTls := by
  cases here : a.usesTls <;> cases there : b.usesTls <;> simp [scheme, here, there, Scheme.name]

-- The text in the order in which it is cut: at the first colon, the first slash and the last colon before it.
theorem url_parts (request : Request) :
    request.url.toList = request.scheme.name.toList ++ ':' :: '/' :: '/' ::
      ((request.urlHost ++ ':' :: Digits.decimal request.port.toNat) ++ '/' :: request.urlPath.tail) := by
  rw [← url_path_slash, url, String.toList_ofList]
  simp [List.append_assoc]

theorem server_no_slash (request : Request) (plain : '/' ∉ request.host.toList) :
    '/' ∉ request.urlHost ++ ':' :: Digits.decimal request.port.toNat := by
  intro member
  rcases List.mem_append.mp member with host | port
  · rcases request.url_host_char '/' host with bracket | inside | bracket
    · exact absurd bracket (by decide)
    · exact plain inside
    · exact absurd bracket (by decide)
  · exact absurd (Url.port_apart request.port.toNat '/' port).2 (by decide)

theorem url_parts_unique (a b : Request) (plain : '/' ∉ a.host.toList) (bare : '/' ∉ b.host.toList)
    (same : a.url = b.url) :
    a.scheme.name.toList = b.scheme.name.toList ∧ a.urlHost = b.urlHost ∧ a.port = b.port ∧ a.urlPath = b.urlPath := by
  have texts := congrArg String.toList same
  have noColon : ∀ scheme : Scheme, ':' ∉ scheme.name.toList := by
    intro scheme
    cases scheme <;> decide
  rw [url_parts a, url_parts b] at texts
  obtain ⟨schemes, after⟩ := Pieces.first_mark_unique ':' _ _ _ _ (noColon a.scheme) (noColon b.scheme) texts
  rw [List.cons.injEq, List.cons.injEq] at after
  obtain ⟨servers, paths⟩ :=
    Pieces.first_mark_unique '/' _ _ _ _ (server_no_slash a plain) (server_no_slash b bare) after.2.2
  obtain ⟨hosts, ports⟩ := Pieces.last_mark_unique ':' _ _ _ _ (Digits.decimal_no_colon _)
    (Digits.decimal_no_colon _) servers
  refine ⟨schemes, hosts, UInt16.toNat_inj.mp (Digits.to_digits_injective 10 _ _ (by decide) (by decide) ports), ?_⟩
  rw [url_path_slash a, url_path_slash b, paths]

theorem url_tells_request (a b : Request) (plain : '/' ∉ a.host.toList) (bare : '/' ∉ b.host.toList) :
    a.url = b.url ↔
      a.usesTls = b.usesTls ∧ a.port = b.port ∧ slashed a.path = slashed b.path ∧
        (a.host = b.host ∨ Address.Bracketed a.host b.host ∨ Address.Bracketed b.host a.host) := by
  rw [← url_host_eq_iff, ← scheme_name_eq_iff]
  constructor
  · intro same
    obtain ⟨schemes, hosts, ports, paths⟩ := url_parts_unique a b plain bare same
    rw [url_path_slashed, url_path_slashed] at paths
    exact ⟨schemes, ports, String.toList_inj.mp paths, hosts⟩
  · rintro ⟨schemes, ports, paths, hosts⟩
    rw [url, url, schemes, hosts, ports, url_path_slashed, url_path_slashed, paths]

theorem url_tells_request_brackets :
    '/' ∉ "::1".toList ∧ '/' ∉ "[::1]".toList ∧
      ({ host := "::1", port := 8080, path := "x" } : Request).url =
        ({ host := "[::1]", port := 8080, path := "/x", keyFile := some "key" } : Request).url := by
  refine ⟨by decide, by decide, ?_⟩
  apply (url_tells_request _ _ (by decide) (by decide)).mpr
  exact ⟨by decide, by decide, by decide, .inr (.inl ⟨by decide +kernel, by decide⟩)⟩

end Request

end HostTools
