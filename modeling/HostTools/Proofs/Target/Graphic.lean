import Mathlib
import HostTools.Proofs.Url.Authority
import HostTools.Proofs.Url.Path
import HostTools.Proofs.Url.Punycode
import HostTools.Proofs.Url.Server

set_option autoImplicit false

namespace HostTools

-- ASCII characters that leave a mark on paper.
def IsGraphic (c : Char) : Prop := 0x21 ≤ c.toNat ∧ c.toNat ≤ 0x7e

instance (c : Char) : Decidable (IsGraphic c) := inferInstanceAs (Decidable (_ ∧ _))

def Graphic (text : List Char) : Prop := ∀ c ∈ text, IsGraphic c

theorem graphic_append (front back : List Char) (first : Graphic front) (second : Graphic back) :
    Graphic (front ++ back) := by
  intro c member
  rcases List.mem_append.mp member with left | right
  · exact first c left
  · exact second c right

theorem graphic_cons (c : Char) (rest : List Char) (first : IsGraphic c) (others : Graphic rest) : Graphic (c :: rest) := by
  intro d member
  rcases List.mem_cons.mp member with rfl | later
  · exact first
  · exact others d later

theorem graphic_flat_map {α : Type} (items : List α) (write : α → List Char)
    (each : ∀ item ∈ items, Graphic (write item)) : Graphic (items.flatMap write) := by
  intro c member
  obtain ⟨item, inside, found⟩ := List.mem_flatMap.mp member
  exact each item inside c found

theorem graphic_intercalate (separator : Char) (parts : List (List Char)) (mark : IsGraphic separator)
    (each : ∀ part ∈ parts, Graphic part) : Graphic (List.intercalate [separator] parts) := by
  induction parts with
  | nil => simp [Graphic, List.intercalate]
  | cons part parts ih =>
      have rest := ih fun other member => each other (List.mem_cons_of_mem part member)
      have first := each part List.mem_cons_self
      cases parts with
      | nil => simpa [List.intercalate] using first
      | cons next parts =>
          rw [Pieces.intercalate_cons _ _ _ (by simp)]
          exact graphic_append _ _ first (graphic_cons _ _ mark rest)

namespace Digits

theorem decimal_graphic (n : Nat) : Graphic (decimal n) := by
  intro c member
  have range := decimal_char n c member
  exact ⟨by omega, by omega⟩

theorem hex_graphic (n : Nat) : Graphic (hex n) := by
  intro c member
  have range := hex_digit c (hex_char n c member)
  exact ⟨by omega, by omega⟩

end Digits

namespace Percent

theorem triplet_graphic (byte : UInt8) : Graphic (triplet byte) := by
  have digit : ∀ value < 16, IsGraphic (upperDigit value) := by
    intro value small
    interval_cases value <;> decide
  have bound := byte.toNat_lt
  refine graphic_cons _ _ (by decide) (graphic_cons _ _ (digit _ ?_) (graphic_cons _ _ (digit _ ?_) ?_))
  · omega
  · omega
  · simp [Graphic]

-- No control and no blank is left in a text.
def Covers (replaced : Char → Bool) : Prop := ∀ c : Char, c.toNat < 0x21 ∨ c.toNat = 0x7f → replaced c = true

theorem encode_graphic (replaced : Char → Bool) (covers : Covers replaced) (text : List Char) :
    Graphic (encode replaced text) := by
  apply graphic_flat_map
  intro c _
  unfold char
  split
  · exact graphic_flat_map _ _ fun byte _ => triplet_graphic byte
  · rename_i kept
    simp only [Bool.or_eq_true, decide_eq_true_eq, not_or] at kept
    have printed : ¬ (c.toNat < 0x21 ∨ c.toNat = 0x7f) := fun low => kept.1 (covers c low)
    intro d member
    rw [List.mem_singleton.mp member]
    exact ⟨by omega, by omega⟩

theorem control_or_blank (c : Char) (low : c.toNat < 0x21 ∨ c.toNat = 0x7f) : isControl c = true ∨ c = ' ' := by
  by_cases blank : c.toNat = 0x20
  · exact .inr (Char.toNat_inj.mp blank)
  · left
    simp only [isControl, Bool.or_eq_true, decide_eq_true_eq]
    omega

theorem covers_query : Covers inQuery := by
  intro c low
  rcases control_or_blank c low with control | rfl
  · simp [inQuery, control]
  · rfl

theorem covers_fragment : Covers inFragment := by
  intro c low
  rcases control_or_blank c low with control | rfl
  · simp [inFragment, control]
  · rfl

theorem covers_path : Covers inPath := fun c low => by simp [inPath, covers_fragment c low]

theorem covers_userinfo : Covers inUserinfo := fun c low => by simp [inUserinfo, covers_path c low]

end Percent

namespace UrlPath

theorem resolve_graphic (soFar pieces : List (List Char)) (graphic : ∀ segment ∈ soFar, Graphic segment) :
    ∀ segment ∈ resolve soFar pieces, Graphic segment := by
  apply resolve_each Graphic soFar pieces (by simp [Graphic]) graphic
  intro piece _ _ _
  exact Percent.encode_graphic _ Percent.covers_path piece

theorem normal_graphic (path : List Char) : Graphic (normal path) := by
  have rendered : ∀ text : List Char, Graphic (render (segments text)) := by
    intro text
    apply graphic_flat_map
    intro segment member
    have resolved := resolve_graphic [] (pieces text) (by simp) segment (List.mem_reverse.mp member)
    exact graphic_cons _ _ (by decide) resolved
  unfold normal
  split
  · split <;> exact rendered _
  · exact rendered _

end UrlPath

namespace Punycode

theorem digit_char_graphic (value : Nat) (small : value < 36) : IsGraphic (digitChar value) := by
  interval_cases value <;> decide

end Punycode

namespace Domain

theorem basic_graphic (c : Char) (basic : Punycode.isBasic c = true) (allowed : isForbidden c = false) : IsGraphic c := by
  simp only [Punycode.isBasic, decide_eq_true_eq] at basic
  simp only [isForbidden, Bool.or_eq_false_iff, decide_eq_false_iff_not] at allowed
  exact ⟨by omega, by omega⟩

theorem ascii_graphic (text name : List Char) (known : ascii? text = some name) : Graphic name := by
  unfold ascii? at known
  split at known
  · simp at known
  · rename_i settled found
    have allowed := settled_allowed text settled found
    dsimp only at known
    split at known
    · rename_i texts written _ wrote
      split at known
      · rw [← Option.some.inj known]
        apply graphic_intercalate '.' written (by decide)
        intro part member
        obtain ⟨label, inside, own⟩ := Pieces.all_read_result _ _ _ part wrote member
        have basic : ∀ c ∈ label, Punycode.isBasic c = true → IsGraphic c := fun c within ascii =>
          basic_graphic c ascii (allowed c (Pieces.split_piece_mem '.' c settled label inside within).1)
        -- A label in ASCII is kept, any other is written in Punycode after the mark.
        unfold Label.ascii? at own
        split at own
        · rename_i ascii
          rw [← Option.some.inj own]
          exact fun c within => basic c within (List.all_eq_true.mp ascii c within)
        · split at own
          · simp at own
          · rw [← Option.some.inj own]
            refine graphic_append _ _ ?_ (Punycode.encode_each IsGraphic Punycode.digit_char_graphic label (by decide) basic)
            simp [Graphic, Label.mark, IsGraphic]
      · simp at known
    · simp at known

end Domain

namespace Host

theorem ipv4_graphic (address : Ipv4) : Graphic address.render := by
  have octet := fun byte : UInt8 => Digits.decimal_graphic byte.toNat
  have dot : IsGraphic '.' := by decide
  exact graphic_append _ _ (graphic_append _ _ (graphic_append _ _ (octet _) (graphic_cons _ _ dot (octet _)))
    (graphic_cons _ _ dot (octet _))) (graphic_cons _ _ dot (octet _))

theorem ipv6_graphic (address : Ipv6) : Graphic address.render := by
  have colon : IsGraphic ':' := by decide
  have groups : ∀ groups : List UInt16, Graphic (Ipv6.colons groups) := by
    intro groups
    apply graphic_intercalate ':' _ colon
    intro part member
    obtain ⟨group, -, rfl⟩ := List.mem_map.mp member
    exact Digits.hex_graphic group.toNat
  unfold Ipv6.render
  dsimp only
  split
  · exact graphic_append _ _ (groups _) (graphic_cons _ _ colon (graphic_cons _ _ colon (groups _)))
  · exact groups _

theorem parse_graphic (text : List Char) (host : Host) (known : parse text = .ok host) : Graphic host.render := by
  unfold parse at known
  split at known
  · split at known
    · rw [← Except.ok.inj known]
      refine graphic_append _ _ (graphic_cons _ _ (by decide) (ipv6_graphic _)) ?_
      exact graphic_cons _ _ (by decide) (by simp [Graphic])
    · simp at known
  · split at known
    · simp at known
    · simp at known
    · rename_i name named found
      split at known
      · split at known
        · rw [← Except.ok.inj known]
          exact ipv4_graphic _
        · simp at known
      · rw [← Except.ok.inj known]
        unfold domain? at found
        split at found
        · exact Domain.ascii_graphic _ name found
        · simp at found

end Host

namespace Url

theorem marked_graphic (mark : Char) (part : Option (List Char)) (graphic : IsGraphic mark)
    (inner : ∀ text, part = some text → Graphic text) : Graphic (marked mark part) := by
  cases part with
  | none => simp [marked, Graphic]
  | some text => exact graphic_cons _ _ graphic (inner text rfl)

theorem credentials_graphic (userinfo : List Char) :
    Graphic (credentials userinfo).1 ∧ ∀ password, (credentials userinfo).2 = some password → Graphic password := by
  have encoded := Percent.encode_graphic Percent.inUserinfo Percent.covers_userinfo
  unfold credentials
  split
  · exact ⟨encoded _, by simp⟩
  · refine ⟨encoded _, fun password known => ?_⟩
    rw [← Option.some.inj known]
    exact encoded _
  · exact ⟨encoded _, by simp⟩

theorem render_graphic (url : Url) (username : Graphic url.username)
    (password : ∀ text, url.password = some text → Graphic text) (host : Graphic url.host.render)
    (path : Graphic url.path) (query : ∀ text, url.query = some text → Graphic text)
    (fragment : ∀ text, url.fragment = some text → Graphic text) : Graphic url.render := by
  have scheme : Graphic url.scheme.name.toList := by cases url.scheme <;> simp [Scheme.name, Graphic, IsGraphic]
  have userinfo : Graphic url.userinfo := by
    unfold userinfo
    split
    · simp [Graphic]
    · refine graphic_append _ _ (graphic_append _ _ username (marked_graphic ':' _ (by decide) password)) ?_
      exact graphic_cons _ _ (by decide) (by simp [Graphic])
  have authority : Graphic url.authority := by
    refine graphic_append _ _ host (marked_graphic ':' _ (by decide) ?_)
    intro text known
    obtain ⟨number, -, rfl⟩ := Option.map_eq_some_iff.mp known
    exact Digits.decimal_graphic number
  have target : Graphic url.target := graphic_append _ _ path (marked_graphic '?' _ (by decide) query)
  have slash : IsGraphic '/' := by decide
  refine graphic_append _ _ (graphic_append _ _ (graphic_append _ _ (graphic_append _ _ scheme ?_) authority) target)
    (marked_graphic '#' _ (by decide) fragment)
  exact graphic_cons _ _ (by decide) (graphic_cons _ _ slash (graphic_cons _ _ slash userinfo))

theorem assemble_graphic (scheme : Scheme) (text : List Char) (host : Host) (port : Option Nat)
    (graphic : Graphic host.render) : Graphic (assemble scheme text (host, port)).render := by
  have user := credentials_graphic ((cutUserinfo (text.takeWhile fun c => !endsAuthority c)).1.getD [])
  apply render_graphic
  · exact user.1
  · exact user.2
  · exact graphic
  · exact UrlPath.normal_graphic _
  · intro part known
    obtain ⟨query, -, rfl⟩ := Option.map_eq_some_iff.mp known
    exact Percent.encode_graphic _ Percent.covers_query query
  · intro part known
    obtain ⟨fragment, -, rfl⟩ := Option.map_eq_some_iff.mp known
    exact Percent.encode_graphic _ Percent.covers_fragment fragment

end Url

namespace Target

-- As RFC 9110 lists them.
def tokenMarks : List Char := "!#$%&'*+-.^_`|~".toList

def IsHttpToken (text : List Char) : Prop :=
  text ≠ [] ∧ ∀ c ∈ text, c ∈ tokenMarks ∨ 0x30 ≤ c.toNat ∧ c.toNat ≤ 0x39 ∨ 0x41 ≤ c.toNat ∧ c.toNat ≤ 0x5a ∨
    0x61 ≤ c.toNat ∧ c.toNat ≤ 0x7a

theorem alphanum_iff (c : Char) : c.isAlphanum = true ↔ 0x30 ≤ c.toNat ∧ c.toNat ≤ 0x39 ∨
    0x41 ≤ c.toNat ∧ c.toNat ≤ 0x5a ∨ 0x61 ≤ c.toNat ∧ c.toNat ≤ 0x7a := by
  have value : c.val.toNat = c.toNat := rfl
  simp only [Char.isAlphanum, Char.isAlpha, Char.isUpper, Char.isLower, Char.isDigit, Bool.or_eq_true, Bool.and_eq_true,
    decide_eq_true_eq, ge_iff_le, UInt32.le_iff_toNat_le, value, Char.reduceVal, UInt32.reduceToNat]
  omega

theorem token_char_iff (c : Char) : isTokenChar c = true ↔ c ∈ tokenMarks ∨ 0x30 ≤ c.toNat ∧ c.toNat ≤ 0x39 ∨
    0x41 ≤ c.toNat ∧ c.toNat ≤ 0x5a ∨ 0x61 ≤ c.toNat ∧ c.toNat ≤ 0x7a := by
  have number : ∀ n : Nat, (Char.ofNat n).toNat = n → (c.toNat = n ↔ c = Char.ofNat n) := by
    intro n same
    rw [← Char.toNat_inj, same]
  have marks : tokenMarks =
      ['!', '#', '$', '%', '&', Char.ofNat 0x27, '*', '+', '-', '.', '^', '_', Char.ofNat 0x60, '|', '~'] := rfl
  rw [isTokenChar, marks, ← alphanum_iff, or_comm]
  simp only [Bool.or_eq_true, decide_eq_true_eq, number 0x27 rfl, number 0x60 rfl, List.mem_cons, List.not_mem_nil,
    or_false, or_assoc]

theorem is_token_iff (text : List Char) : isToken text = true ↔ IsHttpToken text := by
  simp [isToken, IsHttpToken, token_char_iff]

theorem target_is_graphic (request : Request) (target : Target) (done : ofRequest request = .ok target) :
    target.method = request.method ∧ IsHttpToken target.method.toList ∧
      ∀ c ∈ target.url.text.toList, 0x21 ≤ c.toNat ∧ c.toNat ≤ 0x7e := by
  obtain ⟨token, -, method, ⟨host, port⟩, known, url⟩ := (of_request_iff request target).mp done
  obtain ⟨-, parsed, -⟩ := (Url.host_and_port_iff _ _ host port).mp known
  refine ⟨method, by rw [method]; exact (is_token_iff _).mp token, ?_⟩
  rw [url, Url.text, String.toList_ofList]
  exact Url.assemble_graphic _ _ host port (Host.parse_graphic _ host parsed)

theorem target_is_graphic_line_end :
    ∃ target, ofRequest { host := "\t[::1]", port := 80, path := "/\r\nx: é\n" } = .ok target ∧
      target.url.text = "http://[::1]/x:%20%C3%A9" ∧ ∀ c ∈ target.url.text.toList, 0x21 ≤ c.toNat ∧ c.toNat ≤ 0x7e := by
  obtain ⟨target, done, text⟩ : ∃ target, ofRequest { host := "\t[::1]", port := 80, path := "/\r\nx: é\n" } = .ok target ∧
      target.url.text = "http://[::1]/x:%20%C3%A9" := ⟨_, rfl, by decide⟩
  exact ⟨target, done, text, (target_is_graphic _ target done).2.2⟩

end Target

end HostTools
