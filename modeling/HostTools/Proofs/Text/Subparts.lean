import Mathlib
import HostTools.Proofs.Text.Encoding

set_option autoImplicit false

namespace HostTools.Utf8

-- A single octet, or octets with which a character starts.
def Candidate (part : Bytes) : Prop := part.length = 1 ∨ part ≠ [] ∧ ∃ c, part <+: String.utf8EncodeChar c

structure Subpart (part rest : Bytes) : Prop where
  unconvertible : ∀ c, ¬ String.utf8EncodeChar c <+: part ++ rest
  candidate : Candidate part
  maximal : ∀ other, other <+: part ++ rest → Candidate other → other.length ≤ part.length

inductive Piece where
  | sequence (c : Char)
  | subpart (octets : Bytes)

def Piece.shown : Piece → Char
  | .sequence c => c
  | .subpart _ => '\ufffd'

inductive Splits : Bytes → List Piece → Prop
  | nil : Splits [] []
  | sequence {c : Char} {rest : Bytes} {pieces : List Piece} (later : Splits rest pieces) :
      Splits (String.utf8EncodeChar c ++ rest) (.sequence c :: pieces)
  | subpart {part rest : Bytes} {pieces : List Piece} (here : Subpart part rest) (later : Splits rest pieces) :
      Splits (part ++ rest) (.subpart part :: pieces)

theorem first_emit (byte : UInt8) (c : Char) (move : first byte = .emit c) :
    byte.toNat < 0x80 ∧ c = Char.ofNat byte.toNat := by
  revert c
  apply Bytes.each_octet (fun byte => ∀ c, first byte = .emit c → byte.toNat < 0x80 ∧ c = Char.ofNat byte.toNat)
  intro n small
  interval_cases n <;> rintro c ⟨⟩ <;> exact ⟨by decide, rfl⟩

theorem first_wait_range (byte : UInt8) (state : Unfinished) (move : first byte = .wait state) :
    (0xc2 ≤ byte.toNat ∧ byte.toNat ≤ 0xf4) ∧ state.low ≤ state.high := by
  revert state
  apply Bytes.each_octet (fun byte => ∀ state, first byte = .wait state →
    (0xc2 ≤ byte.toNat ∧ byte.toNat ≤ 0xf4) ∧ state.low ≤ state.high)
  intro n small
  interval_cases n <;> rintro state ⟨⟩ <;> decide

theorem next_emit (state : Unfinished) (byte : UInt8) (c : Char) (move : next state byte = .emit c) :
    (state.low.toNat ≤ byte.toNat ∧ byte.toNat ≤ state.high.toNat) ∧ state.owed ≤ 1 ∧
      c = Char.ofNat (state.bits * 64 + (byte.toNat - 0x80)) := by
  unfold next at move
  by_cases range : state.low ≤ byte ∧ byte ≤ state.high
  · rw [if_pos range] at move
    by_cases last : state.owed ≤ 1
    · simp only [if_pos last, Move.emit.injEq] at move
      exact ⟨range, last, move.symm⟩
    · simp only [if_neg last, reduceCtorEq] at move
  · rw [if_neg range] at move
    cases move

theorem next_wait (state further : Unfinished) (byte : UInt8) (move : next state byte = .wait further) :
    (state.low.toNat ≤ byte.toNat ∧ byte.toNat ≤ state.high.toNat) ∧ 2 ≤ state.owed ∧
      further = ⟨state.owed - 1, 0x80, 0xbf, state.bits * 64 + (byte.toNat - 0x80)⟩ := by
  unfold next at move
  by_cases range : state.low ≤ byte ∧ byte ≤ state.high
  · rw [if_pos range] at move
    by_cases last : state.owed ≤ 1
    · simp only [if_pos last, reduceCtorEq] at move
    · simp only [if_neg last, Move.wait.injEq] at move
      exact ⟨range, Nat.lt_of_not_le last, move.symm⟩
  · rw [if_neg range] at move
    cases move

-- Whichever octets a state waits for, the least ones will do.
theorem completable (owed : Nat) (low high : UInt8) (bits : Nat) (ordered : low ≤ high) :
    ∃ tail c, Completes ⟨owed, low, high, bits⟩ tail c := by
  induction owed generalizing low high bits with
  | zero => exact ⟨[low], _, .last (if_pos ⟨UInt8.le_refl low, ordered⟩)⟩
  | succ owed ih =>
      have range : low ≤ low ∧ low ≤ high := ⟨UInt8.le_refl low, ordered⟩
      by_cases last : owed = 0
      · subst last
        exact ⟨[low], _, .last (if_pos range)⟩
      · have several : ¬ owed + 1 ≤ 1 := by omega
        obtain ⟨tail, c, completes⟩ := ih 0x80 0xbf (bits * 64 + (low.toNat - 0x80)) (by decide)
        exact ⟨low :: tail, c, .more (by simp only [next, if_pos range, if_neg several, Nat.add_sub_cancel]) completes⟩

theorem completes_last (low high : UInt8) (bits : Nat) (rest : Bytes) (c : Char)
    (completes : Completes ⟨1, low, high, bits⟩ rest c) :
    ∃ byte, rest = [byte] ∧ (low.toNat ≤ byte.toNat ∧ byte.toNat ≤ high.toNat) ∧
      c = Char.ofNat (bits * 64 + (byte.toNat - 0x80)) := by
  cases completes with
  | last move =>
      obtain ⟨range, -, char⟩ := next_emit _ _ c move
      exact ⟨_, rfl, range, char⟩
  | more move _ =>
      obtain ⟨-, several, -⟩ := next_wait _ _ _ move
      exact absurd (show 2 ≤ 1 from several) (by decide)

theorem completes_more (owed : Nat) (low high : UInt8) (bits : Nat) (rest : Bytes) (c : Char)
    (completes : Completes ⟨owed + 2, low, high, bits⟩ rest c) :
    ∃ byte tail, rest = byte :: tail ∧ (low.toNat ≤ byte.toNat ∧ byte.toNat ≤ high.toNat) ∧
      Completes ⟨owed + 1, 0x80, 0xbf, bits * 64 + (byte.toNat - 0x80)⟩ tail c := by
  cases completes with
  | last move =>
      obtain ⟨-, last, -⟩ := next_emit _ _ c move
      exact absurd (show owed + 2 ≤ 1 from last) (by omega)
  | more move later =>
      obtain ⟨range, -, rfl⟩ := next_wait _ _ _ move
      exact ⟨_, _, rfl, range, later⟩

theorem of_nat_byte (n : Nat) (byte : UInt8) (same : n = byte.toNat) : UInt8.ofNat n = byte := by
  rw [same, UInt8.ofNat_toNat]

theorem of_nat_value (n : Nat) (valid : n.isValidChar) : (Char.ofNat n).val.toNat = n := by
  change (Char.ofNat n).toNat = n
  rw [Char.toNat_ofNat, if_pos valid]

theorem encode_two (lead second : UInt8) (n : Nat) (low : 0xc2 ≤ lead.toNat) (high : lead.toNat < 0xe0)
    (range : 0x80 ≤ second.toNat ∧ second.toNat ≤ 0xbf) (number : n = (lead.toNat - 0xc0) * 64 + (second.toNat - 0x80)) :
    String.utf8EncodeChar (Char.ofNat n) = [lead, second] := by
  have valid : n.isValidChar := .inl (by omega)
  simp only [String.utf8EncodeChar, of_nat_value n valid]
  rw [if_neg (by omega), if_pos (by omega), of_nat_byte _ lead (by omega), of_nat_byte _ second (by omega)]

theorem encode_three (lead second third : UInt8) (n : Nat) (low : 0xe0 ≤ lead.toNat) (high : lead.toNat < 0xf0)
    (noOverlong : lead.toNat = 0xe0 → 0xa0 ≤ second.toNat) (noSurrogate : lead.toNat = 0xed → second.toNat ≤ 0x9f)
    (range : 0x80 ≤ second.toNat ∧ second.toNat ≤ 0xbf) (last : 0x80 ≤ third.toNat ∧ third.toNat ≤ 0xbf)
    (number : n = ((lead.toNat - 0xe0) * 64 + (second.toNat - 0x80)) * 64 + (third.toNat - 0x80)) :
    String.utf8EncodeChar (Char.ofNat n) = [lead, second, third] := by
  have valid : n.isValidChar := by
    unfold Nat.isValidChar
    omega
  simp only [String.utf8EncodeChar, of_nat_value n valid]
  rw [if_neg (by omega), if_neg (by omega), if_pos (by omega), of_nat_byte _ lead (by omega),
    of_nat_byte _ second (by omega), of_nat_byte _ third (by omega)]

theorem encode_four (lead second third fourth : UInt8) (n : Nat) (low : 0xf0 ≤ lead.toNat) (high : lead.toNat ≤ 0xf4)
    (noOverlong : lead.toNat = 0xf0 → 0x90 ≤ second.toNat) (noBeyond : lead.toNat = 0xf4 → second.toNat ≤ 0x8f)
    (range : 0x80 ≤ second.toNat ∧ second.toNat ≤ 0xbf) (middle : 0x80 ≤ third.toNat ∧ third.toNat ≤ 0xbf)
    (last : 0x80 ≤ fourth.toNat ∧ fourth.toNat ≤ 0xbf)
    (number : n = (((lead.toNat - 0xf0) * 64 + (second.toNat - 0x80)) * 64 + (third.toNat - 0x80)) * 64 +
      (fourth.toNat - 0x80)) :
    String.utf8EncodeChar (Char.ofNat n) = [lead, second, third, fourth] := by
  have valid : n.isValidChar := by
    unfold Nat.isValidChar
    omega
  simp only [String.utf8EncodeChar, of_nat_value n valid]
  rw [if_neg (by omega), if_neg (by omega), if_neg (by omega), of_nat_byte _ lead (by omega),
    of_nat_byte _ second (by omega), of_nat_byte _ third (by omega), of_nat_byte _ fourth (by omega)]

theorem second_range (lead second least most low high : Nat) (above : 0x80 ≤ low) (below : high ≤ 0xbf)
    (range : (if lead = least then low else 0x80) ≤ second ∧ second ≤ if lead = most then high else 0xbf) :
    (0x80 ≤ second ∧ second ≤ 0xbf) ∧ (lead = least → low ≤ second) ∧ (lead = most → second ≤ high) := by
  obtain ⟨floor, ceiling⟩ := range
  split at floor <;> split at ceiling <;> omega

-- What the machine reads as a character is the one way to write it.
theorem reads_encode (bytes : Bytes) (c : Char) (reads : Reads bytes c) : String.utf8EncodeChar c = bytes := by
  cases bytes with
  | nil => cases reads
  | cons lead rest =>
      rcases (reads_cons lead rest c).mp reads with ⟨move, rfl⟩ | ⟨state, move, later⟩
      · obtain ⟨low, rfl⟩ := first_emit lead c move
        exact encode_byte lead low
      · obtain ⟨⟨low, high⟩, -⟩ := first_wait_range lead state move
        rw [first_wait lead low high, Move.wait.injEq] at move
        -- The lead tells how many octets follow, and the second one is where overlong forms and surrogates fail.
        by_cases two : lead.toNat < 0xe0
        · rw [if_pos two] at move
          subst move
          obtain ⟨second, rfl, range, char⟩ := completes_last _ _ _ _ c later
          rw [char]
          exact encode_two lead second _ low two range rfl
        · rw [if_neg two] at move
          by_cases three : lead.toNat < 0xf0
          · rw [if_pos three] at move
            subst move
            obtain ⟨second, tail, rfl, range, later⟩ := completes_more _ _ _ _ _ c later
            obtain ⟨third, rfl, last, char⟩ := completes_last _ _ _ _ c later
            simp only [apply_ite UInt8.toNat, UInt8.reduceToNat] at range
            obtain ⟨range, noOverlong, noSurrogate⟩ := second_range _ _ _ _ _ _ (by decide) (by decide) range
            rw [char]
            exact encode_three lead second third _ (by omega) three noOverlong noSurrogate range last rfl
          · rw [if_neg three] at move
            subst move
            obtain ⟨second, tail, rfl, range, later⟩ := completes_more _ _ _ _ _ c later
            obtain ⟨third, tail, rfl, middle, later⟩ := completes_more _ _ _ _ _ c later
            obtain ⟨fourth, rfl, last, char⟩ := completes_last _ _ _ _ c later
            simp only [apply_ite UInt8.toNat, UInt8.reduceToNat] at range
            obtain ⟨range, noOverlong, noBeyond⟩ := second_range _ _ _ _ _ _ (by decide) (by decide) range
            rw [char]
            exact encode_four lead second third fourth _ (by omega) high noOverlong noBeyond range middle last rfl

theorem prefix_beyond (part soFar rest : Bytes) (start : part <+: soFar ++ rest) :
    part <+: soFar ∨ ∃ byte tail, part = soFar ++ byte :: tail ∧ rest.head? = some byte := by
  obtain ⟨after, same⟩ := start
  rcases List.append_eq_append_iff.mp same with ⟨more, whole, -⟩ | ⟨tail, longer, rest_eq⟩
  · exact .inl ⟨more, whole.symm⟩
  · cases tail with
    | nil => exact .inl ⟨[], by rw [longer, List.append_nil, List.append_nil]⟩
    | cons byte tail => exact .inr ⟨byte, tail, longer, by rw [rest_eq]; rfl⟩

-- The machine has read the octets and waits for the rest of a character.
inductive Reaches : Bytes → Unfinished → Prop
  | first {byte : UInt8} {state : Unfinished} (move : first byte = .wait state) : Reaches [byte] state
  | next {soFar : Bytes} {state further : Unfinished} {byte : UInt8} (reached : Reaches soFar state)
      (move : next state byte = .wait further) : Reaches (soFar ++ [byte]) further

section

variable (soFar : Bytes) (state : Unfinished) (reached : Reaches soFar state)

include reached

theorem reads_reached (rest : Bytes) (c : Char) : Reads (soFar ++ rest) c ↔ Completes state rest c := by
  induction reached generalizing rest with
  | first move => simp [reads_cons, move]
  | next _ move ih => simp [ih, completes_cons, move]

theorem reached_begins : ∃ tail c, Completes state tail c ∧ String.utf8EncodeChar c = soFar ++ tail := by
  -- Some octet is admitted next, whichever move led here.
  have ordered : state.low ≤ state.high := by
    cases reached with
    | first move => exact (first_wait_range _ state move).2
    | next _ move =>
        obtain ⟨-, -, rfl⟩ := next_wait _ state _ move
        exact (by decide : (0x80 : UInt8) ≤ 0xbf)
  obtain ⟨tail, c, completes⟩ := completable state.owed state.low state.high state.bits ordered
  exact ⟨tail, c, completes, reads_encode _ c ((reads_reached soFar state reached tail c).mpr completes)⟩

theorem reached_nonempty : soFar ≠ [] := by
  cases reached <;> simp

theorem reached_candidate : Candidate soFar := by
  obtain ⟨tail, c, -, encoded⟩ := reached_begins soFar state reached
  exact .inr ⟨reached_nonempty soFar state reached, c, tail, encoded.symm⟩

-- A character that starts with the octets so far goes on with an octet that the state admits.
theorem reached_refuses (byte : UInt8) (rest : Bytes) (c : Char) (refused : next state byte = .refuse) :
    String.utf8EncodeChar c ≠ soFar ++ byte :: rest := by
  intro encoded
  have reads := encode_reads c
  rw [encoded, reads_reached soFar state reached, completes_cons, refused] at reads
  simp at reads

theorem reached_no_sequence (c : Char) : ¬ String.utf8EncodeChar c <+: soFar := by
  rintro ⟨rest, within⟩
  obtain ⟨tail, d, completes, encoded⟩ := reached_begins soFar state reached
  have longer := encode_reads d
  rw [encoded, ← within, List.append_assoc] at longer
  obtain ⟨-, empty⟩ := reads_initial _ _ c d (encode_reads c) longer
  rw [(List.append_eq_nil_iff.mp empty).2] at completes
  cases completes

theorem reached_stops (rest : Bytes) (stops : ∀ byte, rest.head? = some byte → next state byte = .refuse) :
    Subpart soFar rest where
  unconvertible := by
    intro c start
    rcases prefix_beyond _ soFar rest start with within | ⟨byte, tail, encoded, head⟩
    · exact reached_no_sequence soFar state reached c within
    · exact reached_refuses soFar state reached byte tail c (stops byte head) encoded
  candidate := reached_candidate soFar state reached
  maximal := by
    intro other start candidate
    rcases prefix_beyond other soFar rest start with within | ⟨byte, tail, longer, head⟩
    · exact within.length_le
    · have present := List.length_pos_iff.mpr (reached_nonempty soFar state reached)
      rcases candidate with single | ⟨-, c, more, encoded⟩
      · rw [longer, List.length_append, List.length_cons] at single
        omega
      · rw [longer, List.append_assoc, List.cons_append] at encoded
        exact absurd encoded.symm (reached_refuses soFar state reached byte _ c (stops byte head))

end

theorem refused_subpart (byte : UInt8) (rest : Bytes) (refused : first byte = .refuse) : Subpart [byte] rest := by
  -- No character starts with the octet, so no candidate goes beyond it.
  have starts : ∀ c tail, String.utf8EncodeChar c ≠ byte :: tail := by
    intro c tail encoded
    have reads := encode_reads c
    rw [encoded, reads_cons, refused] at reads
    simp at reads
  refine ⟨?_, .inl rfl, ?_⟩
  · intro c start
    rcases prefix_beyond _ [byte] rest start with ⟨after, within⟩ | ⟨next, tail, encoded, -⟩
    · cases encoded : String.utf8EncodeChar c with
      | nil => exact String.utf8EncodeChar_ne_nil encoded
      | cons first tail =>
          rw [encoded] at within
          exact starts c tail (by rw [encoded, (List.cons.inj within).1])
    · exact starts c (next :: tail) encoded
  · intro other start candidate
    rcases prefix_beyond other [byte] rest start with within | ⟨next, tail, longer, -⟩
    · exact within.length_le
    · rcases candidate with single | ⟨-, c, more, encoded⟩
      · simp [longer] at single
      · rw [longer] at encoded
        exact absurd encoded.symm (starts c _)

theorem lossy_refused (state : Unfinished) (byte : UInt8) (rest : Bytes) (refused : next state byte = .refuse) :
    lossyFrom (some state) (byte :: rest) = '\ufffd' :: lossyFrom none (byte :: rest) := by
  simp only [lossyFrom, refused]
  rfl

def TakenApart (bytes : Bytes) : Prop := ∃ pieces, Splits bytes pieces ∧ lossyFrom none bytes = pieces.map Piece.shown

-- The octets that the machine has already read go with those that follow, up to the first that it refuses.
theorem reached_splits (soFar rest : Bytes) (state : Unfinished) (reached : Reaches soFar state)
    (shorter : ∀ bytes : Bytes, bytes.length ≤ rest.length → TakenApart bytes) :
    ∃ pieces, Splits (soFar ++ rest) pieces ∧ lossyFrom (some state) rest = pieces.map Piece.shown := by
  induction rest generalizing soFar state with
  | nil => exact ⟨[.subpart soFar], .subpart (reached_stops soFar state reached [] (by simp)) .nil, rfl⟩
  | cons byte rest ih =>
      cases move : next state byte with
      | emit c =>
          obtain ⟨pieces, splits, shown⟩ := shorter rest (Nat.le_succ _)
          have encoded : String.utf8EncodeChar c = soFar ++ [byte] :=
            reads_encode _ c ((reads_reached soFar state reached [byte] c).mpr (.last move))
          refine ⟨.sequence c :: pieces, ?_, ?_⟩
          · rw [List.append_cons, ← encoded]
            exact .sequence splits
          · simp [lossyFrom, move, shown, Piece.shown]
      | wait further =>
          obtain ⟨pieces, splits, shown⟩ :=
            ih (soFar ++ [byte]) further (.next reached move) fun bytes short => shorter bytes (Nat.le_succ_of_le short)
          refine ⟨pieces, ?_, ?_⟩
          · rwa [List.append_cons]
          · simpa [lossyFrom, move] using shown
      | refuse =>
          obtain ⟨pieces, splits, shown⟩ := shorter (byte :: rest) (Nat.le_refl _)
          refine ⟨.subpart soFar :: pieces, .subpart (reached_stops soFar state reached _ ?_) splits, ?_⟩
          · rintro other ⟨⟩
            exact move
          · rw [lossy_refused state byte rest move, shown]
            rfl

-- Strong induction on the length: a refused octet is read again, as the first of what is left.
theorem taken_apart (bytes : Bytes) : TakenApart bytes := by
  induction length : bytes.length using Nat.strongRecOn generalizing bytes with
  | ind n ih =>
      cases bytes with
      | nil => exact ⟨[], .nil, rfl⟩
      | cons byte rest =>
          have shorter : ∀ bytes : Bytes, bytes.length ≤ rest.length → TakenApart bytes := by
            intro bytes short
            exact ih bytes.length (by rw [← length, List.length_cons]; omega) bytes rfl
          cases move : first byte with
          | emit c =>
              obtain ⟨pieces, splits, shown⟩ := shorter rest (Nat.le_refl _)
              have encoded := reads_encode [byte] c (.single move)
              refine ⟨.sequence c :: pieces, ?_, ?_⟩
              · have here := Splits.sequence (c := c) splits
                rwa [encoded] at here
              · simp [lossyFrom, move, shown, Piece.shown]
          | wait state =>
              obtain ⟨pieces, splits, shown⟩ := reached_splits [byte] rest state (.first move) shorter
              exact ⟨pieces, splits, by simpa [lossyFrom, move] using shown⟩
          | refuse =>
              obtain ⟨pieces, splits, shown⟩ := shorter rest (Nat.le_refl _)
              refine ⟨.subpart [byte] :: pieces, .subpart (refused_subpart byte rest move) splits, ?_⟩
              simp only [lossyFrom, move, shown]
              rfl

theorem splits_cases (bytes : Bytes) (pieces : List Piece) (splits : Splits bytes pieces) :
    bytes = [] ∧ pieces = [] ∨
      (∃ c rest more, bytes = String.utf8EncodeChar c ++ rest ∧ pieces = .sequence c :: more ∧ Splits rest more) ∨
      ∃ part rest more, bytes = part ++ rest ∧ pieces = .subpart part :: more ∧ Subpart part rest ∧
        Splits rest more := by
  cases splits with
  | nil => exact .inl ⟨rfl, rfl⟩
  | sequence later => exact .inr (.inl ⟨_, _, _, rfl, rfl, later⟩)
  | subpart here later => exact .inr (.inr ⟨_, _, _, rfl, rfl, here, later⟩)

theorem subpart_unique (part other rest more : Bytes) (here : Subpart part rest) (there : Subpart other more)
    (same : part ++ rest = other ++ more) : part = other ∧ rest = more := by
  have shorter := there.maximal part (same ▸ List.prefix_append part rest) here.candidate
  have longer := here.maximal other (same ▸ List.prefix_append other more) there.candidate
  exact List.append_inj same (Nat.le_antisymm shorter longer)

theorem candidate_nonempty (part : Bytes) (candidate : Candidate part) : part ≠ [] := by
  rcases candidate with single | ⟨present, -⟩
  · rintro rfl
    cases single
  · exact present

-- A sequence in front leaves no room for a subpart there, and of two subparts each is the longest.
theorem splits_unique (bytes : Bytes) (pieces others : List Piece) (here : Splits bytes pieces)
    (there : Splits bytes others) : pieces = others := by
  induction here generalizing others with
  | nil =>
      rcases splits_cases [] others there with
        ⟨-, rfl⟩ | ⟨c, rest, more, same, -, -⟩ | ⟨part, rest, more, same, -, cut, -⟩
      · rfl
      · exact absurd (List.append_eq_nil_iff.mp same.symm).1 String.utf8EncodeChar_ne_nil
      · exact absurd (List.append_eq_nil_iff.mp same.symm).1 (candidate_nonempty part cut.candidate)
  | @sequence c rest pieces later ih =>
      rcases splits_cases _ others there with
        ⟨same, -⟩ | ⟨d, tail, more, same, rfl, splits⟩ | ⟨part, tail, more, same, -, cut, -⟩
      · exact absurd (List.append_eq_nil_iff.mp same).1 String.utf8EncodeChar_ne_nil
      · obtain rfl := encode_initial c d _ (List.prefix_append _ rest) (same ▸ List.prefix_append _ tail)
        rw [ih more (List.append_cancel_left same ▸ splits)]
      · exact absurd (same ▸ List.prefix_append _ rest) (cut.unconvertible c)
  | @subpart part rest pieces here later ih =>
      rcases splits_cases _ others there with
        ⟨same, -⟩ | ⟨d, tail, more, same, -, -⟩ | ⟨other, tail, more, same, rfl, there, splits⟩
      · exact absurd (List.append_eq_nil_iff.mp same).1 (candidate_nonempty part here.candidate)
      · exact absurd (same ▸ List.prefix_append _ tail) (here.unconvertible d)
      · obtain ⟨rfl, rfl⟩ := subpart_unique part other rest tail here there same
        rw [ih more splits]

end HostTools.Utf8
