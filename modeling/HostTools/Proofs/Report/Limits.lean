import Mathlib
import HostTools.Report.Printer
import HostTools.Proofs.Output

set_option autoImplicit false

namespace HostTools.Report

theorem line_single (channel : Channel) (pieces : List (List Char)) : Outputs.Single channel (line channel pieces) := by
  intro write member
  obtain ⟨piece, -, rfl⟩ := List.mem_map.mp member
  rfl

theorem text_writes_single (report : Report) (color : Bool) :
    ∃ channel, Outputs.Single channel (report.textWrites color) := by
  cases report with
  | exec success code output =>
      cases success with
      | true => exact ⟨.out, by simp [textWrites, Outputs.Single]⟩
      | false => exact ⟨.err, List.forall_mem_cons.mpr ⟨rfl, line_single .err _⟩⟩
  | fetch url body =>
      cases body with
      | some body => exact ⟨.out, by simp [textWrites, Outputs.Single]⟩
      | none => exact ⟨.err, line_single .err _⟩
  | addresses results =>
      refine ⟨.out, fun write member => ?_⟩
      obtain ⟨result, -, inside⟩ := List.mem_flatMap.mp member
      exact line_single .out _ write inside

theorem json_writes_end (report : Report) : report.jsonWrites.flatten.getLast? = some 0x0a := by
  have newline : Bytes.ofChars ['\n'] = [0x0a] := rfl
  rw [jsonWrites, List.map_append, List.flatten_append, List.map_singleton, newline, List.flatten_singleton]
  exact List.getLast?_concat

theorem limits_cut (report : Report) (color : Bool) (out err json : Nat) :
    (∃ free, report.writeText color .unlimited = (free, none) ∧
      ∃ outputs error, report.writeText color ⟨.limited out, .limited err⟩ = (outputs, error) ∧
        outputs.out.content = free.out.content.take (min out free.out.content.length) ∧
        outputs.err.content = free.err.content.take (min err free.err.content.length) ∧
        error = if out < free.out.content.length ∨ err < free.err.content.length then some .noRoom else none) ∧
      ∃ free, report.writeJson .unlimited = (free, none) ∧ free.content.getLast? = some 0x0a ∧
        ∃ sink error, report.writeJson (.limited json) = (sink, error) ∧
          sink.content = free.content.take (min json free.content.length) ∧
          error = if json < free.content.length then some .noRoom else none := by
  constructor
  · obtain ⟨channel, single⟩ := report.text_writes_single color
    obtain ⟨free, whole, freeOut, freeErr⟩ := Outputs.write_all_unlimited (report.textWrites color)
    obtain ⟨outputs, error, written, cutOut, cutErr, failure⟩ :=
      Outputs.write_all_limited channel (report.textWrites color) single out err
    refine ⟨free, whole, outputs, error, written, ?_, ?_, ?_⟩
    · rw [cutOut, ← freeOut, List.take_eq_take_min]
    · rw [cutErr, ← freeErr, List.take_eq_take_min]
    · rw [failure, freeOut, freeErr]
  · obtain ⟨free, whole, content⟩ := Sink.write_all_unlimited report.jsonWrites
    obtain ⟨cut, failure⟩ := Sink.write_all_limited json report.jsonWrites
    refine ⟨free, whole, ?_, ((Sink.limited json).writeAll report.jsonWrites).1,
      ((Sink.limited json).writeAll report.jsonWrites).2, rfl, ?_, ?_⟩
    · rw [content, json_writes_end]
    · rw [cut, ← content, List.take_eq_take_min]
    · rw [failure, content]

end HostTools.Report
