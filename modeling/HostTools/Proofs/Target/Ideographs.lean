import Mathlib
import HostTools.Proofs.Domain.Ideographs
import HostTools.Proofs.Url.Normal

set_option autoImplicit false

namespace HostTools

namespace Percent

-- No triplet as long as the tab is there.
def parted (byte : UInt8) : List Char :=
  ['%', upperDigit (byte.toNat / 16), '\t', upperDigit (byte.toNat % 16)]

theorem upper_digit_kept : ∀ value < 16,
    UInt8.ofNat (upperDigit value).toNat ≠ 0x25 ∧ Url.isDropped (upperDigit value) = false := by decide

theorem parted_char (byte : UInt8) (c : Char) (member : c ∈ parted byte) : c = '\t' ∨ InTriplet c := by
  have bound := byte.toNat_lt
  simp only [parted, List.mem_cons, List.not_mem_nil, or_false] at member
  rcases member with rfl | rfl | rfl | rfl
  · exact .inr (.inl rfl)
  · exact .inr (.inr ⟨_, by omega, rfl⟩)
  · exact .inl rfl
  · exact .inr (.inr ⟨_, by omega, rfl⟩)

theorem parted_low (byte : UInt8) (c : Char) (member : c ∈ parted byte) : c.toNat < 0x80 := by
  rcases parted_char byte c member with rfl | own
  · decide
  · exact in_triplet_low c own

theorem decode_parted (bytes : Bytes) :
    decode (Bytes.ofChars (bytes.flatMap parted)) = Bytes.ofChars (bytes.flatMap parted) := by
  induction bytes with
  | nil => rfl
  | cons byte rest ih =>
      have bound := byte.toNat_lt
      have high := upper_digit_kept (byte.toNat / 16) (by omega)
      have low := upper_digit_kept (byte.toNat % 16) (by omega)
      have four : Bytes.ofChars (parted byte) = [0x25, UInt8.ofNat (upperDigit (byte.toNat / 16)).toNat, 0x09,
          UInt8.ofNat (upperDigit (byte.toNat % 16)).toNat] := Utf8.of_chars_low _ (parted_low byte)
      rw [List.flatMap_cons, Bytes.of_chars_append, four, List.cons_append, List.cons_append, List.cons_append,
        List.cons_append, List.nil_append, decode_kept _ _ (.inr ?_), decode_kept _ _ (.inl high.1),
        decode_kept _ _ (.inl (by decide)), decode_kept _ _ (.inl low.1), ih]
      intro b c more shape
      obtain ⟨-, tail⟩ := List.cons.inj shape
      obtain ⟨rfl, -⟩ := List.cons.inj tail
      exact .inr (by decide)

theorem parted_decodes_low (bytes : Bytes) : DecodesLow (bytes.flatMap parted) := by
  have each : ∀ c ∈ bytes.flatMap parted, c.toNat < 0x80 := by
    intro c member
    obtain ⟨byte, -, own⟩ := List.mem_flatMap.mp member
    exact parted_low byte c own
  rw [DecodesLow, decode_parted, Utf8.of_chars_low _ each]
  intro byte member
  obtain ⟨c, inside, rfl⟩ := List.mem_map.mp member
  rw [UInt8.lt_iff_toNat_lt, Utf8.byte_of_low c (each c inside)]
  exact each c inside

theorem parted_kept (bytes : Bytes) :
    (bytes.flatMap parted).filter (fun c => !Url.isDropped c) = bytes.flatMap triplet := by
  rw [List.filter_flatMap]
  refine List.flatMap_congr fun byte _ => ?_
  have bound := byte.toNat_lt
  have high := (upper_digit_kept (byte.toNat / 16) (by omega)).2
  have low := (upper_digit_kept (byte.toNat % 16) (by omega)).2
  have percent : Url.isDropped '%' = false := by decide
  have tab : Url.isDropped '\t' = true := by decide
  simp [parted, triplet, high, low, percent, tab]

theorem in_triplet_apart (c : Char) (own : InTriplet c) :
    (c ≠ '@' ∧ Url.endsAuthority c = false) ∧ (c ≠ ':' ∧ c ≠ '[') ∧ UrlPath.isSlash c = false := by
  have digits : ∀ value < 16, (upperDigit value ≠ '@' ∧ Url.endsAuthority (upperDigit value) = false) ∧
      (upperDigit value ≠ ':' ∧ upperDigit value ≠ '[') ∧ UrlPath.isSlash (upperDigit value) = false := by decide
  rcases own with rfl | ⟨value, small, rfl⟩
  · decide
  · exact digits value small

end Percent

namespace Host

-- A name of one label that starts with a letter is not taken for an address.
theorem parse_lettered (text rest : List Char) (other : text.head? ≠ some '[')
    (known : domain? text = some ('x' :: rest)) (single : '.' ∉ 'x' :: rest) :
    parse text = .ok (.domain ('x' :: rest)) := by
  have named : endsInNumber ('x' :: rest) = false := by
    have whole : labels ('x' :: rest) = ['x' :: rest] := by simp [labels, Pieces.split_whole '.' _ single]
    have letter : Digits.inBase? 10 'x' = none := by decide
    simp [endsInNumber, whole, part, partDigits, Digits.readOnto, letter]
  rw [parse, known]
  · simp [named]
  · rintro inner rfl
    exact other rfl

end Host

namespace Request

theorem url_host_other (request : Request) (c : Char) (member : c ∈ request.host.toList)
    (other : ¬ Address.IsWritten c) : request.urlHost = request.host.toList := by
  have none : Address.host? request.host = none := by
    cases known : Address.host? request.host with
    | none => rfl
    | some host => exact absurd (Address.host_written request.host host known c member) other
  rw [urlHost, Address.classify_eq, none]
  rfl

theorem server_named (request : Request) (host : List Char) (seen : request.seenHost = host) (present : host ≠ [])
    (apart : ∀ c ∈ host, c ≠ ':' ∧ c ≠ '[') :
    Url.hostAndPort request.scheme request.seenServer = (Host.parse host).map fun found => (found, request.urlPort) := by
  have port := Url.explicit_port_decimal request.scheme request.port.toNat (Nat.le_of_lt_succ request.port.toNat_lt)
  rw [seenServer, seen, Url.hostAndPort, Url.cut_host_plain host _ apart (.inr ⟨_, rfl⟩)]
  simp only [if_neg present, port]
  cases Host.parse host <;> rfl

end Request

namespace IsIdeographic

variable (label : List Char) (own : IsIdeographic label)

include own

theorem octets_present : ∃ byte rest, Bytes.ofChars label = byte :: rest := by
  obtain ⟨c, rest, rfl⟩ := List.exists_cons_of_ne_nil own.present
  have some : String.utf8EncodeChar c ≠ [] := by
    intro none
    have length := String.length_utf8EncodeChar c
    rw [none] at length
    exact absurd length (Nat.ne_of_lt c.utf8Size_pos)
  obtain ⟨byte, more, shape⟩ := List.exists_cons_of_ne_nil some
  exact ⟨byte, more ++ Bytes.ofChars rest, by rw [Bytes.of_chars_cons, shape]; rfl⟩

theorem host_found :
    Host.parse ((Bytes.ofChars label).flatMap Percent.triplet) = .ok (.domain (Label.mark ++ Punycode.encode label)) := by
  obtain ⟨byte, rest, shape⟩ := octets_present label own
  apply Host.parse_lettered
  · rw [shape]
    simp [Percent.triplet]
  · rw [Host.domain?, Percent.decode_triplets, Utf8.strict_of_chars label]
    exact own.ascii
  · exact fun dot => (own.code_plain label '.' dot).2 rfl

end IsIdeographic

namespace Target

-- Without the tabs the host is the label itself, and the URL names it by its code.
theorem ideographs_named (label : List Char) (own : IsIdeographic label) :
    ofRequest { host := String.ofList ((Bytes.ofChars label).flatMap Percent.parted), port := 8080 } =
      .ok ⟨"GET", Url.assemble .http ['/'] (.domain (Label.mark ++ Punycode.encode label), some 8080)⟩ := by
  obtain ⟨byte, rest, shape⟩ := IsIdeographic.octets_present label own
  have triplets : ∀ c ∈ (Bytes.ofChars label).flatMap Percent.triplet, Percent.InTriplet c := by
    intro c member
    obtain ⟨byte, -, inside⟩ := List.mem_flatMap.mp member
    exact Percent.triplet_char byte c inside
  have token : isToken "GET".toList = true := by decide
  have bare : ∀ host : String, Request.urlPath { host := host, port := 8080 } = ['/'] := by simp [Request.urlPath]
  have done := of_request_plain { host := String.ofList ((Bytes.ofChars label).flatMap Percent.parted), port := 8080 }
    (.domain (Label.mark ++ Punycode.encode label), some 8080) ?_ ?_ token (by simp [Request.hasOriginForm])
  · rwa [bare] at done
  · intro c member
    rw [String.toList_ofList] at member
    obtain ⟨byte, -, inside⟩ := List.mem_flatMap.mp member
    rcases Percent.parted_char byte c inside with rfl | own
    · decide
    · exact (Percent.in_triplet_apart c own).1
  · rw [Request.server_named _ ((Bytes.ofChars label).flatMap Percent.triplet), IsIdeographic.host_found label own]
    · rfl
    · apply Request.seen_host_named
      · rw [Request.url_host_other _ '%' (by simp [shape, Percent.parted]) (by decide), String.toList_ofList,
          Percent.parted_kept]
      · exact fun c member => (Percent.in_triplet_apart c (triplets c member)).2.2
    · simp [shape, Percent.triplet]
    · exact fun c member => (Percent.in_triplet_apart c (triplets c member)).2.1

theorem name_render (name : List Char) :
    (Url.assemble .http ['/'] (.domain name, some 8080)).render =
      Scheme.http.name.toList ++ ':' :: '/' :: '/' :: name ++ ':' :: Digits.decimal 8080 ++ ['/'] := by
  have shape : (Url.assemble .http ['/'] (.domain name, some 8080)).render =
      Scheme.http.name.toList ++ ':' :: '/' :: '/' :: [] ++ (name ++ ':' :: Digits.decimal 8080) ++ (['/'] ++ []) ++ [] := rfl
  rw [shape]
  simp

-- The text of that URL is the URL of a request for the code, and no host is read from a code that is too long.
theorem long_code_refused (code : List Char) (plain : ∀ c ∈ Label.mark ++ code, Domain.IsPlain c ∧ c ≠ '.')
    (long : Label.longestCode < code.length) :
    Url.parse (Url.assemble .http ['/'] (.domain (Label.mark ++ code), some 8080)).text.toList = .error .domain := by
  generalize given : ({ host := String.ofList (Label.mark ++ code), port := 8080 } : Request) = request
  have host : request.host.toList = Label.mark ++ code := by rw [← given, String.toList_ofList]
  have solid := fun c member => Host.plain_solid c (plain c member).1
  have url : request.urlHost = Label.mark ++ code := by
    rw [request.url_host_other 'x' (by simp [host, Label.mark]) (by decide), host]
  have text : (Url.assemble .http ['/'] (.domain (Label.mark ++ code), some 8080)).text = request.url := by
    have path : request.urlPath = ['/'] := by
      rw [← given]
      simp [Request.urlPath]
    rw [Url.text, name_render, Request.url, url, path, ← given]
    rfl
  have seen : request.seenHost = Label.mark ++ code := by
    apply request.seen_host_named
    · rw [url, List.filter_eq_self]
      exact fun c member => by simp [(solid c member).2.2.1]
    · exact fun c member => (solid c member).2.2.2
  have refused : Host.parse (Label.mark ++ code) = .error .domain := by
    rw [Host.parse, Host.domain_ascii _ fun c member => (plain c member).1, Domain.long_code_unread code plain long]
    intro inner shape
    exact absurd (List.cons.inj shape).1 (by decide)
  have server := request.server_named _ seen (by simp [Label.mark]) fun c member => (solid c member).2.1
  obtain ⟨whole, inside⟩ := request.plain_host_seen (by rw [host]; exact fun c member => (solid c member).1)
  rw [text, request.parse_url, Url.of_authority_eq, request.seen_authority_eq, whole,
    Url.cut_userinfo_absent _ fun member => (inside '@' member).1 rfl, server, refused]
  rfl

end Target

end HostTools
