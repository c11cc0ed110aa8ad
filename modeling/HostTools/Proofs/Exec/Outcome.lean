import Mathlib
import HostTools.Report.Printer
import HostTools.Run.Runner
import HostTools.Proofs.Exec.Environment
import HostTools.Proofs.Output

set_option autoImplicit false

namespace HostTools

theorem Digits.signed_text_eq (n : Int) : Digits.signedText n = toString n := by
  cases n with
  | ofNat n => rfl
  | negSucc n => exact String.toList_inj.mp (by simp [signedText, signed, decimal, toString, Int.repr, Nat.repr])

namespace WaitStatus

theorem success_iff (status : WaitStatus) : status.success = true ↔ status.bits = 0 := decide_eq_true_iff

theorem exited_code (status : WaitStatus) (low : status.bits % 128 = 0) :
    status.exitCode = (status.bits / 256 % 256 : Nat) := by
  simp [exitCode, exited?, low]

theorem stopped_code (status : WaitStatus) (low : status.bits % 128 = 127) : status.exitCode = -1 := by
  simp [exitCode, exited?, signal?, low]

theorem signalled_code (status : WaitStatus) (some : status.bits % 128 ≠ 0) (other : status.bits % 128 ≠ 127) :
    status.exitCode = -(status.bits % 128 : Nat) := by
  simp [exitCode, exited?, signal?, some, other]

-- A child has exited or was ended by a signal, with or without a dump of its memory. Beside the word stand the number
-- that tells of the end and the exit code that it leads to.
inductive Ended (status : WaitStatus) : Int → Int → Prop
  | exited (code : Nat) (byte : code ≤ 255) (word : status.bits = code * 256) : Ended status code code
  | killed (signal : Nat) (dumped : Bool) (low : 1 ≤ signal) (high : signal ≤ 126)
      (word : status.bits = signal + if dumped then 128 else 0) : Ended status (-signal) 1

theorem killed_low (signal : Nat) (dumped : Bool) (high : signal ≤ 126) :
    (signal + if dumped then 128 else 0) % 128 = signal := by
  cases dumped
  · simp only [Bool.false_eq_true, if_false]
    omega
  · simp only [if_true]
    omega

theorem ended_code (status : WaitStatus) (number code : Int) (ended : status.Ended number code) :
    status.exitCode = number := by
  cases ended with
  | exited code byte word =>
      rw [status.exited_code (by omega)]
      omega
  | killed signal dumped low high word =>
      -- The mark of a dump is the bit above the signal.
      have residue : status.bits % 128 = signal := by rw [word, killed_low signal dumped high]
      rw [status.signalled_code (by omega) (by omega), residue]

theorem ended_success (status : WaitStatus) (number code : Int) (ended : status.Ended number code) :
    status.success = true ↔ number = 0 := by
  rw [success_iff]
  cases ended with
  | exited code byte word => omega
  | killed signal dumped low high word => omega

theorem ended_report (status : WaitStatus) (number code : Int) (ended : status.Ended number code) (output : Bytes)
    (success : Bool) : (Report.exec success number output).exitCode = code := by
  cases ended with
  | exited code byte word => rw [Report.exitCode, if_pos (by omega)]
  | killed signal dumped low high word =>
      rw [Report.exitCode, if_neg (by omega)]
      rfl

end WaitStatus

theorem Finished.result_ended (child : Finished) (command : Command) (number code : Int)
    (ended : child.status.Ended number code) :
    child.result command =
      if number = 0 then .ok child.stdout
      else .error (.failed command.argv number (child.stdout ++ child.stderr)) := by
  have success := child.status.ended_success number code ended
  by_cases zero : number = 0
  · rw [Finished.result, if_pos (success.mpr zero), if_pos zero]
  · rw [Finished.result, if_neg (fun fine => zero (success.mp fine)), if_neg zero,
      child.status.ended_code number code ended]

namespace Report

theorem success_written (code : Int) (output : Bytes) :
    ∃ outputs, (Report.exec true code output).writeText false .unlimited = (outputs, none) ∧
      outputs.out.content = output ∧ outputs.err.content = [] := by
  obtain ⟨outputs, written, out, err⟩ := Outputs.write_all_unlimited ((Report.exec true code output).textWrites false)
  refine ⟨outputs, written, ?_, ?_⟩
  · simpa [textWrites, Outputs.sent] using out
  · simpa [textWrites, Outputs.sent] using err

theorem failure_written (code : Int) (output : Bytes) :
    ∃ outputs, (Report.exec false code output).writeText false .unlimited = (outputs, none) ∧
      outputs.out.content = [] ∧
      outputs.err.content = output ++ Bytes.ofText ("✗ Command exited with status " ++ toString code ++ "\n") := by
  obtain ⟨outputs, written, out, err⟩ := Outputs.write_all_unlimited ((Report.exec false code output).textWrites false)
  refine ⟨outputs, written, ?_, ?_⟩
  · simpa [textWrites, complaint, line, Style.paint, Outputs.sent] using out
  · rw [err]
    simp [textWrites, complaint, line, Style.paint, Outputs.sent, Bytes.ofText, Bytes.ofChars, Digits.signed_text_eq]

end Report

namespace ExecOrder

theorem exec_finished {m : Type → Type} [Monad m] [LawfulMonad m] (order : ExecOrder) (caller : Caller)
    (log : Logger m) (child : Finished) (command : Command) (known : order.command caller = .ok command) :
    order.exec caller (Run.runner (fun _ => pure (.finished child)) log) = (do
      log (Run.starting command)
      log (Run.completed command child)
      log (Run.captured child)
      pure (outcome command (child.result command))) := by
  rw [exec_command order caller _ command known]
  simp only [Run.runner, pure_bind, bind_assoc]

theorem exec_tells_end {m : Type → Type} [Monad m] [LawfulMonad m] (order : ExecOrder) (caller : Caller)
    (log : Logger m) (child : Finished) (number code : Int) (named : order.argv ≠ [])
    (formed : ∀ raw ∈ order.environment.assignments, IsAssignment raw) (ended : child.status.Ended number code) :
    ∃ command report outputs, order.command caller = .ok command ∧
      order.exec caller (Run.runner (fun _ => pure (.finished child)) log) = (do
        log (Run.starting command)
        log (Run.completed command child)
        log (Run.captured child)
        pure (.ok report)) ∧
      report.writeText false .unlimited = (outputs, none) ∧ report.exitCode = code ∧
      (number = 0 → child.result command = .ok child.stdout ∧ outputs.out.content = child.stdout ∧
        outputs.err.content = [] ∧ code = 0) ∧
      (number ≠ 0 → child.result command = .error (.failed order.argv number (child.stdout ++ child.stderr)) ∧
        outputs.out.content = [] ∧
        outputs.err.content = child.stdout ++ child.stderr ++
          Bytes.ofText ("✗ Command exited with status " ++ toString number ++ "\n")) := by
  obtain ⟨command, known, argv, -⟩ := order.command_known caller named formed
  have told := order.exec_finished caller log child command known
  have result := child.result_ended command number code ended
  have exitCode := child.status.ended_report number code ended
  by_cases zero : number = 0
  · subst zero
    rw [if_pos rfl] at result
    rw [result] at told
    obtain ⟨outputs, written, out, err⟩ := Report.success_written 0 child.stdout
    exact ⟨command, .exec true 0 child.stdout, outputs, known, told, written, exitCode _ _,
      fun _ => ⟨result, out, err, (exitCode [] true).symm⟩, fun other => absurd rfl other⟩
  · rw [if_neg zero, argv] at result
    rw [result] at told
    obtain ⟨outputs, written, out, err⟩ := Report.failure_written number (child.stdout ++ child.stderr)
    exact ⟨command, .exec false number (child.stdout ++ child.stderr), outputs, known, told, written, exitCode _ _,
      fun same => absurd same zero, fun _ => ⟨result, out, err⟩⟩

-- A fault of memory, with a dump, in a child whose streams are no text.
theorem exec_tells_end_dumped :
    (WaitStatus.mk 139).Ended (-11) 1 ∧
      ∃ report outputs,
        ExecOrder.exec (m := Id) ⟨["x"], none, ⟨false, []⟩⟩ ⟨.empty, none⟩
          (Run.runner (fun _ => pure (.finished ⟨⟨139⟩, [0xff], [0x80]⟩)) fun _ => pure ()) = .ok report ∧
        report.writeText false .unlimited = (outputs, none) ∧ report.exitCode = 1 ∧ outputs.out.content = [] ∧
        outputs.err.content = [0xff, 0x80] ++ Bytes.ofText "✗ Command exited with status -11\n" := by
  have ended : (WaitStatus.mk 139).Ended (-11) 1 := .killed 11 true (by decide) (by decide) (by decide)
  obtain ⟨command, report, outputs, -, told, written, exitCode, -, failed⟩ :=
    exec_tells_end (m := Id) ⟨["x"], none, ⟨false, []⟩⟩ ⟨.empty, none⟩ (fun _ => pure ())
      ⟨⟨139⟩, [0xff], [0x80]⟩ (-11) 1 (by decide) (by simp) ended
  obtain ⟨-, out, err⟩ := failed (by decide)
  exact ⟨ended, report, outputs, told, written, exitCode, out, err⟩

end ExecOrder

end HostTools
