import Mathlib
import HostTools.Report.Printer
import HostTools.Proofs.Json.Decoder
import HostTools.Proofs.Output

set_option autoImplicit false

namespace HostTools.Report

-- The member values are written out here, apart from the printer.
def familyValue : Option Family → Json.Value
  | some .ipv4 => .text "ipv4"
  | some .ipv6 => .text "ipv6"
  | none => .null

def bodyValue : Option Bytes → Json.Value
  | some body => .text (Utf8.lossy body)
  | none => .null

def meaning : Report → Json.Value
  | .exec success code output =>
      .object [("command", .text "exec"), ("success", .bool success), ("exit_code", .number code),
        ("output", .text (Utf8.lossy output))]
  | .fetch url body => .object [("command", .text "fetch"), ("url", .text url), ("body", bodyValue body)]
  | .addresses results =>
      .object [("command", .text "is_ip"), ("results", .list (results.map fun result =>
        .object [("address", .text result.1), ("family", familyValue result.2)]))]

theorem address_json_meaning (result : String × Option Family) :
    (addressJson result).meaning = .object [("address", .text result.1), ("family", familyValue result.2)] := by
  obtain ⟨text, family⟩ := result
  cases family with
  | none => rfl
  | some family => cases family <;> rfl

theorem json_meaning (report : Report) : report.json.meaning = report.meaning := by
  cases report with
  | exec success code output => rfl
  | fetch url body => cases body <;> rfl
  | addresses results =>
      have items : Json.meanings (results.map addressJson) =
          results.map fun result => .object [("address", .text result.1), ("family", familyValue result.2)] := by
        rw [Json.meanings_eq, List.map_map]
        exact List.map_congr_left fun result _ => address_json_meaning result
      simp only [json, meaning, Json.meaning, Json.memberMeanings, items]

theorem json_writes_octets (report : Report) :
    report.jsonWrites.flatten = Bytes.ofChars ((Json.wide 0 report.json).flatten ++ ['\n']) := by
  rw [jsonWrites, ← Bytes.of_chars_flatten, List.flatten_append, List.flatten_singleton]

theorem json_written (report : Report) :
    ∃ text sink, report.writeJson .unlimited = (sink, none) ∧ sink.content = Bytes.ofChars text ++ [0x0a] ∧
      Json.Spells report.meaning text ∧ Json.decode sink.content = some report.meaning := by
  obtain ⟨sink, written, content⟩ := Sink.write_all_unlimited report.jsonWrites
  have octets := content.trans report.json_writes_octets
  have spells := Json.wide_spells 0 report.json
  rw [json_meaning] at spells
  refine ⟨(Json.wide 0 report.json).flatten, sink, written, ?_, spells, ?_⟩
  · rw [octets, Bytes.of_chars_append]
    rfl
  · rw [octets]
    exact Json.decode_text _ _ (Json.spells_text report.meaning _ ['\n'] spells (Json.line_blank 0))

theorem json_faithful (report : Report) :
    (∃ text sink, report.writeJson .unlimited = (sink, none) ∧ sink.content = Bytes.ofChars text ++ [0x0a] ∧
      Json.Spells report.meaning text ∧ (∀ value, Json.IsText value text ↔ value = report.meaning) ∧
      Json.decode (Bytes.ofChars text) = some report.meaning ∧ Json.decode sink.content = some report.meaning) ∧
    ∀ shown : String, Utf8.lossy (Bytes.ofText shown) = shown := by
  refine ⟨?_, Utf8.lossy_of_text⟩
  obtain ⟨text, sink, written, content, spells, decoded⟩ := report.json_written
  have alone := Json.spells_text report.meaning text [] spells Json.blank_nil
  rw [List.append_nil] at alone
  refine ⟨text, sink, written, content, spells, ?_, Json.decode_text _ _ alone, decoded⟩
  intro value
  constructor
  · intro formed
    exact Json.text_unique value report.meaning _ formed alone
  · rintro rfl
    exact alone

end HostTools.Report
