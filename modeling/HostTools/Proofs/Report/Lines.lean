import Mathlib
import HostTools.Proofs.Report.Json
import HostTools.Proofs.Report.Limits

set_option autoImplicit false

namespace HostTools.Report

-- The words are written out here, apart from the printer.
def word : Option Family → List Char
  | some .ipv4 => ['i', 'p', 'v', '4']
  | some .ipv6 => ['i', 'p', 'v', '6']
  | none => ['i', 'n', 'v', 'a', 'l', 'i', 'd']

def told (result : String × Option Family) : List Char := result.1.toList ++ ' ' :: ' ' :: word result.2

theorem each_family (P : Option Family → Prop) (four : P (some .ipv4)) (six : P (some .ipv6)) (unknown : P none)
    (family : Option Family) : P family := by
  cases family with
  | none => exact unknown
  | some family =>
      cases family with
      | ipv4 => exact four
      | ipv6 => exact six

theorem word_last (front : List Char) (family : Option Family) :
    (front ++ word family).getLast? = (word family).getLast? := by
  apply List.getLast?_append_of_ne_nil
  exact each_family (fun family => word family ≠ []) (by decide) (by decide) (by decide) family

theorem last_unique (first second : Option Family) (same : (word first).getLast? = (word second).getLast?) :
    first = second := by
  revert second
  apply each_family (fun first => ∀ second, (word first).getLast? = (word second).getLast? → first = second)
  all_goals exact each_family _ (by decide) (by decide) (by decide)

-- The word of a line is told by its last character, so a line is read back from its end whatever the text is.
theorem told_unique (first second : String × Option Family) (same : told first = told second) : first = second := by
  obtain ⟨text, family⟩ := first
  obtain ⟨other, last⟩ := second
  have parts (text : String) (family : Option Family) :
      told (text, family) = text.toList ++ [' ', ' '] ++ word family := by simp [told]
  rw [parts, parts] at same
  obtain rfl : family = last := by
    apply last_unique
    rw [← word_last (text.toList ++ [' ', ' ']) family, same, word_last]
  have front := List.append_cancel_right (List.append_cancel_right same)
  rw [String.toList_inj.mp front]

theorem told_line (result : String × Option Family) (single : '\n' ∉ result.1.toList) : '\n' ∉ told result := by
  have plain := each_family (fun family => '\n' ∉ word family) (by decide) (by decide) (by decide) result.2
  simp [told, single, plain]

theorem told_split (results : List (String × Option Family)) (single : ∀ result ∈ results, '\n' ∉ result.1.toList) :
    Pieces.split '\n' (results.flatMap fun result => told result ++ ['\n']) = results.map told ++ [[]] := by
  induction results with
  | nil => rfl
  | cons result results ih =>
      have later := ih fun other member => single other (List.mem_cons_of_mem result member)
      have own := told_line result (single result List.mem_cons_self)
      rw [List.flatMap_cons, List.append_assoc, List.singleton_append, Pieces.split_append '\n' _ _ own, later]
      rfl

theorem verdict_word (family : Option Family) : verdict false family = [word family] := by
  apply each_family (fun family => verdict false family = [word family])
  all_goals rfl

theorem address_line_written (result : String × Option Family) :
    ((addressLine false result).map Prod.snd).flatten = Bytes.ofChars (told result ++ ['\n']) := by
  have pieces : ([result.1.toList, [' ', ' ']] ++ [word result.2] ++ [['\n']]).flatten = told result ++ ['\n'] := by
    simp [told]
  rw [← pieces, Bytes.of_chars_flatten, addressLine, line, verdict_word, List.map_map]
  rfl

theorem address_lines_written (results : List (String × Option Family)) :
    ((results.flatMap (addressLine false)).map Prod.snd).flatten =
      Bytes.ofChars (results.flatMap fun result => told result ++ ['\n']) := by
  induction results with
  | nil => rfl
  | cons result results ih =>
      rw [List.flatMap_cons, List.map_append, List.flatten_append, address_line_written, ih, ← Bytes.of_chars_append,
        List.flatMap_cons]

theorem addresses_written (results : List (String × Option Family)) :
    ∃ outputs, (Report.addresses results).writeText false .unlimited = (outputs, none) ∧
      outputs.out.content = Bytes.ofChars (results.flatMap fun result => told result ++ ['\n']) ∧
      outputs.err.content = [] := by
  have single : Outputs.Single .out ((Report.addresses results).textWrites false) := by
    intro write member
    obtain ⟨result, -, inside⟩ := List.mem_flatMap.mp member
    exact line_single .out _ write inside
  obtain ⟨own, others⟩ := Outputs.sent_single .out _ single
  obtain ⟨outputs, written, out, err⟩ := Outputs.write_all_unlimited ((Report.addresses results).textWrites false)
  refine ⟨outputs, written, ?_, ?_⟩
  · rw [out, own]
    exact address_lines_written results
  · rw [err, others .err (by decide)]
    rfl

def readFamily : Json.Value → Option (Option Family)
  | .null => some none
  | .text name => if name = "ipv4" then some (some .ipv4) else if name = "ipv6" then some (some .ipv6) else none
  | _ => none

def readResult : Json.Value → Option (String × Option Family)
  | .object members =>
      match members.lookup "address", members.lookup "family" with
      | some (.text address), some family => (readFamily family).map fun family => (address, family)
      | _, _ => none
  | _ => none

-- The list under the key of the results, each with its address and its family.
def readResults : Json.Value → Option (List (String × Option Family))
  | .object members =>
      match members.lookup "results" with
      | some (.list items) => items.mapM readResult
      | _ => none
  | _ => none

theorem family_read (family : Option Family) : readFamily (familyValue family) = some family := by
  apply each_family (fun family => readFamily (familyValue family) = some family)
  all_goals rfl

theorem results_read (results : List (String × Option Family)) :
    readResults (Report.addresses results).meaning = some results := by
  have found : readResults (Report.addresses results).meaning = (results.map fun result =>
      Json.Value.object [("address", .text result.1), ("family", familyValue result.2)]).mapM readResult := rfl
  rw [found, Pieces.all_read_iff, List.forall₂_map_left_iff, List.forall₂_same]
  intro result _
  have own : readResult (.object [("address", .text result.1), ("family", familyValue result.2)]) =
      (readFamily (familyValue result.2)).map fun family => (result.1, family) := rfl
  rw [own, family_read, Option.map_some]

theorem exit_zero_told (results : List (String × Option Family)) :
    (Report.addresses results).exitCode = 0 ↔ ∀ line ∈ results.map told, ∀ text, line ≠ told (text, none) := by
  have known : (Report.addresses results).exitCode = 0 ↔ ∀ result ∈ results, result.2 ≠ none := by
    simp only [← Option.isSome_iff_ne_none, ← List.all_eq_true]
    by_cases all : (results.all fun result => result.2.isSome) = true
    · simp [exitCode, all]
    · simp [exitCode, failure, all]
  rw [known, List.forall_mem_map]
  constructor
  · intro all result member text same
    exact all result member (congrArg Prod.snd (told_unique result (text, none) same))
  · intro silent result member unknown
    refine silent result member result.1 ?_
    rw [← unknown]

theorem forms_agree (addresses : List String) (single : ∀ address ∈ addresses, '\n' ∉ address.toList) :
    ∃ outputs sink text lines results,
      (ofAddresses addresses).writeText false .unlimited = (outputs, none) ∧ outputs.err.content = [] ∧
      Utf8.strict? outputs.out.content = some text ∧ Pieces.split '\n' text.toList = lines ++ [[]] ∧
      lines.length = addresses.length ∧
      List.Forall₂ (fun line result => ∀ other, line = told other ↔ other = result) lines results ∧
      results = addresses.map (fun address => (address, Address.classify address)) ∧
      (ofAddresses addresses).writeJson .unlimited = (sink, none) ∧
      (Json.decode sink.content).bind readResults = some results ∧
      ((ofAddresses addresses).exitCode = 0 ↔ ∀ line ∈ lines, ∀ address, line ≠ told (address, none)) := by
  have whole : ofAddresses addresses = .addresses (addresses.map fun address => (address, Address.classify address)) := rfl
  rw [whole]
  generalize known : (addresses.map fun address => (address, Address.classify address)) = results
  have lines : ∀ result ∈ results, '\n' ∉ result.1.toList := by
    rw [← known, List.forall_mem_map]
    exact single
  obtain ⟨outputs, written, out, err⟩ := addresses_written results
  obtain ⟨_, sink, stored, -, -, decoded⟩ := json_written (.addresses results)
  refine ⟨outputs, sink, String.ofList (results.flatMap fun result => told result ++ ['\n']), results.map told, results,
    written, err, ?_, ?_, ?_, ?_, rfl, stored, ?_, exit_zero_told results⟩
  · rw [out, Utf8.strict?, Utf8.strict_of_chars, Option.map_some]
  · rw [String.toList_ofList]
    exact told_split results lines
  · rw [List.length_map, ← known, List.length_map]
  · rw [List.forall₂_map_left_iff, List.forall₂_same]
    intro result _ other
    constructor
    · intro same
      exact (told_unique result other same).symm
    · rintro rfl
      rfl
  · rw [decoded, Option.bind_some]
    exact results_read results

-- A text that ends like a line of its own, and one with a quote and a control character.
theorem forms_agree_disguised :
    (∀ address ∈ ["10.0.0.1", "x  ipv4", "\"\t", "::1"], '\n' ∉ address.toList) ∧
      ∃ outputs sink text lines,
        (ofAddresses ["10.0.0.1", "x  ipv4", "\"\t", "::1"]).writeText false .unlimited = (outputs, none) ∧
        Utf8.strict? outputs.out.content = some text ∧ Pieces.split '\n' text.toList = lines ++ [[]] ∧ lines.length = 4 ∧
        (ofAddresses ["10.0.0.1", "x  ipv4", "\"\t", "::1"]).writeJson .unlimited = (sink, none) ∧
        (Json.decode sink.content).bind readResults =
          some [("10.0.0.1", some .ipv4), ("x  ipv4", none), ("\"\t", none), ("::1", some .ipv6)] ∧
        ¬ ∀ line ∈ lines, ∀ address, line ≠ told (address, none) := by
  have single : ∀ address ∈ ["10.0.0.1", "x  ipv4", "\"\t", "::1"], '\n' ∉ address.toList := by decide
  obtain ⟨outputs, sink, text, lines, results, written, -, decoded, split, length, -, rfl, stored, read, exit⟩ :=
    forms_agree ["10.0.0.1", "x  ipv4", "\"\t", "::1"] single
  refine ⟨single, outputs, sink, text, lines, written, decoded, split, length, stored, read, ?_⟩
  rw [← exit]
  decide

end HostTools.Report
