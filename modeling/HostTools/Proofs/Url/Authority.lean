import Mathlib
import HostTools.Target
import HostTools.Proofs.Text.Digits
import HostTools.Proofs.Text.Pieces

set_option autoImplicit false

namespace HostTools

namespace Url

theorem drop_while_stop (p : Char → Bool) (c : Char) (front back : List Char) (stop : p c = false) :
    (front ++ c :: back).dropWhile p = front.dropWhile p ++ c :: back := by
  rw [List.dropWhile_append]
  cases front.dropWhile p <;> simp [stop]

theorem take_while_stop (p : Char → Bool) (c : Char) (front back : List Char) (stop : p c = false) :
    (front ++ c :: back).takeWhile p = front.takeWhile p := by
  rw [List.takeWhile_append, List.takeWhile_cons, stop]
  split
  · rename_i whole
    rw [List.append_right_eq_self.mpr (by simp)]
    exact ((List.takeWhile_prefix p).eq_of_length whole).symm
  · rfl

-- What is kept of the text after a slash.
def cleanEnd (text : List Char) : List Char := (text.rdropWhile isEdge).filter fun c => !isDropped c

theorem clean_slash (first : Char) (front back : List Char) (solid : isEdge first = false) :
    clean (first :: front ++ '/' :: back) = (first :: front).filter (fun c => !isDropped c) ++ '/' :: cleanEnd back := by
  have start : (first :: front ++ '/' :: back).dropWhile isEdge = first :: front ++ '/' :: back := by simp [solid]
  have finish : ((first :: front ++ '/' :: back).reverse.dropWhile isEdge).reverse =
      first :: front ++ '/' :: back.rdropWhile isEdge := by
    rw [List.reverse_append, List.reverse_cons, List.append_assoc, List.singleton_append,
      drop_while_stop isEdge '/' _ _ (by decide)]
    simp [List.rdropWhile]
  have slash : ('/' :: back.rdropWhile isEdge).filter (fun c => !isDropped c) = '/' :: cleanEnd back :=
    List.filter_cons_of_pos (by decide)
  rw [clean, dropEdges, start, finish, List.filter_append, slash]

theorem scheme_found (scheme : Scheme) (rest : List Char) :
    scheme? (scheme.name.toList ++ ':' :: rest) = some (scheme, rest) := by
  cases scheme with
  | http => rw [scheme?, Pieces.cut_append _ _ _ (by decide)]; rfl
  | https => rw [scheme?, Pieces.cut_append _ _ _ (by decide)]; rfl

theorem clean_name (scheme : Scheme) (front back : List Char) :
    clean (scheme.name.toList ++ front ++ '/' :: back) =
      scheme.name.toList ++ front.filter (fun c => !isDropped c) ++ '/' :: cleanEnd back := by
  cases scheme with
  | http => exact clean_slash 'h' ('t' :: 't' :: 'p' :: front) back (by decide)
  | https => exact clean_slash 'h' ('t' :: 't' :: 'p' :: 's' :: front) back (by decide)

def assemble (scheme : Scheme) (text : List Char) (server : Host × Option Nat) : Url :=
  let authority := text.takeWhile fun c => !endsAuthority c
  let tail := cutTail (text.drop authority.length)
  let user := credentials ((cutUserinfo authority).1.getD [])
  { scheme
    username := user.1
    password := user.2
    host := server.1
    port := server.2
    path := UrlPath.normal tail.1
    query := tail.2.1.map (Percent.encode Percent.inQuery)
    fragment := tail.2.2.map (Percent.encode Percent.inFragment) }

theorem of_authority_eq (scheme : Scheme) (text : List Char) :
    ofAuthority scheme text =
      (hostAndPort scheme (cutUserinfo (text.takeWhile fun c => !endsAuthority c)).2).map (assemble scheme text) := by
  unfold ofAuthority
  cases known : hostAndPort scheme (cutUserinfo (text.takeWhile fun c => !endsAuthority c)).2 with
  | error error => simp [known, Except.map]
  | ok server => simp [known, Except.map, assemble]

-- A class of characters is free of marks when the few marks are outside of it.
theorem ends_authority_outside (Own : Char → Prop) (c : Char) (own : Own c)
    (outside : ¬ Own '/' ∧ ¬ Own '\\' ∧ ¬ Own '?' ∧ ¬ Own '#') : endsAuthority c = false := by
  obtain ⟨slash, backslash, question, hash⟩ := outside
  have apart : ∀ mark, ¬ Own mark → c ≠ mark := fun mark other same => other (same ▸ own)
  simp [endsAuthority, apart '/' slash, apart '\\' backslash, apart '?' question, apart '#' hash]

theorem dropped_outside (Own : Char → Prop) (c : Char) (own : Own c)
    (outside : ¬ Own '\t' ∧ ¬ Own '\n' ∧ ¬ Own '\r') : isDropped c = false := by
  obtain ⟨tab, feed, turn⟩ := outside
  have apart : ∀ mark, ¬ Own mark → c ≠ mark := fun mark other same => other (same ▸ own)
  simp [isDropped, apart '\t' tab, apart '\n' feed, apart '\r' turn]

theorem port_apart (number : Nat) (c : Char) (member : c ∈ ':' :: Digits.decimal number) :
    c ≠ '@' ∧ endsAuthority c = false := by
  rcases List.mem_cons.mp member with rfl | digit
  · decide
  · have range := Digits.decimal_char number c digit
    refine ⟨?_, ends_authority_outside (fun d => 48 ≤ d.toNat ∧ d.toNat ≤ 57) c range (by decide)⟩
    rintro rfl
    exact absurd range (by decide)

-- A server without a user leaves no trace but its host and port.
theorem assemble_plain (scheme : Scheme) (text back : List Char) (server : Host × Option Nat) (absent : '@' ∉ text)
    (plain : ∀ c ∈ text, endsAuthority c = false) :
    assemble scheme (text ++ '/' :: back) server = assemble scheme ('/' :: back) server := by
  have whole : (text ++ '/' :: back).takeWhile (fun c => !endsAuthority c) = text := by
    rw [take_while_stop _ '/' text back (by decide)]
    exact List.takeWhile_eq_self_iff.mpr fun c member => by simp [plain c member]
  have empty : ('/' :: back).takeWhile (fun c => !endsAuthority c) = [] := by simp [endsAuthority]
  simp only [assemble, whole, empty, List.drop_left, List.length_nil, List.drop_zero, cutUserinfo, if_neg absent,
    List.not_mem_nil, if_false]

end Url

namespace Request

-- Without tabs and line ends, and without slashes in front.
def seenHost (request : Request) : List Char :=
  (request.urlHost.filter fun c => !Url.isDropped c).dropWhile UrlPath.isSlash

def seenServer (request : Request) : List Char := request.seenHost ++ ':' :: Digits.decimal request.port.toNat

def seenAuthority (request : Request) : List Char := request.seenServer.takeWhile fun c => !Url.endsAuthority c

theorem url_path_slash (request : Request) : request.urlPath = '/' :: request.urlPath.tail := by
  unfold urlPath
  split <;> rfl

theorem port_kept (port : UInt16) :
    (':' :: Digits.decimal port.toNat).filter (fun c => !Url.isDropped c) = ':' :: Digits.decimal port.toNat := by
  apply List.filter_eq_self.mpr
  intro c member
  rcases List.mem_cons.mp member with rfl | digit
  · decide
  · have range := Digits.decimal_char port.toNat c digit
    rw [Url.dropped_outside (fun d => 48 ≤ d.toNat ∧ d.toNat ≤ 57) c range (by decide), Bool.not_false]

theorem parse_url (request : Request) :
    Url.parse request.url.toList =
      Url.ofAuthority request.scheme (request.seenServer ++ '/' :: Url.cleanEnd request.urlPath.tail) := by
  have text : request.url.toList = request.scheme.name.toList ++
      (':' :: '/' :: '/' :: (request.urlHost ++ ':' :: Digits.decimal request.port.toNat)) ++
        '/' :: request.urlPath.tail := by
    rw [← url_path_slash, url, String.toList_ofList]
    simp [List.append_assoc]
  -- The port loses nothing, and its colon stops the slashes that are passed over.
  have kept : (':' :: '/' :: '/' :: (request.urlHost ++ ':' :: Digits.decimal request.port.toNat)).filter
      (fun c => !Url.isDropped c) = ':' :: '/' :: '/' :: ((request.urlHost.filter fun c => !Url.isDropped c) ++
        ':' :: Digits.decimal request.port.toNat) := by
    rw [← port_kept, ← List.filter_append, port_kept]
    rfl
  have slashes : ('/' :: '/' :: ((request.urlHost.filter fun c => !Url.isDropped c) ++
      (':' :: (Digits.decimal request.port.toNat ++ '/' :: Url.cleanEnd request.urlPath.tail)))).dropWhile UrlPath.isSlash =
        request.seenServer ++ '/' :: Url.cleanEnd request.urlPath.tail := by
    rw [← List.cons_append, ← List.cons_append, Url.drop_while_stop UrlPath.isSlash ':' _ _ (by decide), seenServer,
      seenHost, List.append_assoc]
    rfl
  rw [Url.parse, text, Url.clean_name, kept]
  simp only [List.append_assoc, List.cons_append, Url.scheme_found]
  rw [slashes]

theorem seen_authority_eq (request : Request) (back : List Char) :
    (request.seenServer ++ '/' :: back).takeWhile (fun c => !Url.endsAuthority c) = request.seenAuthority :=
  Url.take_while_stop _ '/' _ _ (by decide)

theorem assembled_user (request : Request) (back : List Char) (server : Host × Option Nat) :
    (Url.assemble request.scheme (request.seenServer ++ '/' :: back) server).username =
        (Url.credentials ((Url.cutUserinfo request.seenAuthority).1.getD [])).1 ∧
      (Url.assemble request.scheme (request.seenServer ++ '/' :: back) server).password =
        (Url.credentials ((Url.cutUserinfo request.seenAuthority).1.getD [])).2 := by
  simp only [Url.assemble, seen_authority_eq, and_self]

theorem url_host_char (request : Request) (c : Char) (member : c ∈ request.urlHost) :
    c = '[' ∨ c ∈ request.host.toList ∨ c = ']' := by
  unfold urlHost at member
  split at member
  · simpa using member
  · exact .inr (.inl member)

theorem seen_server_char (request : Request) (c : Char) (member : c ∈ request.seenServer) :
    c ∈ request.host.toList ∨ c ≠ '@' ∧ Url.endsAuthority c = false := by
  rcases List.mem_append.mp member with host | port
  · rcases request.url_host_char c (List.mem_of_mem_filter ((List.dropWhile_suffix _).subset host)) with rfl | inside | rfl
    · exact .inr (by decide)
    · exact .inl inside
    · exact .inr (by decide)
  · exact .inr (Url.port_apart _ c port)

theorem confined_host_seen (request : Request) (confined : ∀ c ∈ request.host.toList, Url.endsAuthority c = false) :
    request.seenAuthority = request.seenServer := by
  apply List.takeWhile_eq_self_iff.mpr
  intro c member
  rcases request.seen_server_char c member with host | other
  · simp [confined c host]
  · simp [other.2]

theorem plain_host_seen (request : Request)
    (plain : ∀ c ∈ request.host.toList, c ≠ '@' ∧ Url.endsAuthority c = false) :
    request.seenAuthority = request.seenServer ∧ ∀ c ∈ request.seenServer, c ≠ '@' ∧ Url.endsAuthority c = false := by
  refine ⟨request.confined_host_seen fun c member => (plain c member).2, ?_⟩
  intro c member
  exact (request.seen_server_char c member).elim (plain c) id

end Request

namespace Target

theorem of_request_iff (request : Request) (target : Target) :
    ofRequest request = .ok target ↔
      isToken request.method.toList = true ∧ request.hasOriginForm = true ∧ target.method = request.method ∧
        ∃ server, Url.hostAndPort request.scheme (Url.cutUserinfo request.seenAuthority).2 = .ok server ∧
          target.url =
            Url.assemble request.scheme (request.seenServer ++ '/' :: Url.cleanEnd request.urlPath.tail) server := by
  rcases target with ⟨method, url⟩
  rw [ofRequest, request.parse_url, Url.of_authority_eq, request.seen_authority_eq]
  cases token : isToken request.method.toList with
  | false => simp
  | true =>
      cases origin : request.hasOriginForm with
      | false => simp
      | true =>
          cases known : Url.hostAndPort request.scheme (Url.cutUserinfo request.seenAuthority).2 with
          | error error => simp [Except.map]
          | ok server => simp [Except.map, eq_comm]

end Target

end HostTools
