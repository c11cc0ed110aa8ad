import Mathlib
import HostTools.Program
import HostTools.Proofs.Exec.Outcome

set_option autoImplicit false

namespace HostTools

namespace WaitStatus

-- The words that a call to wait gives: an end, a stop or a continuation.
inductive Waited (status : WaitStatus) : Prop
  | ended (number code : Int) (own : status.Ended number code)
  | stopped (signal : Nat) (byte : signal ≤ 255) (word : status.bits = signal * 256 + 127)
  | continued (word : status.bits = 65535)

-- The word has bits, but no signal and no code.
def Blank (status : WaitStatus) : Prop :=
  status.bits ≠ 0 ∧ status.bits % 128 = 0 ∧ status.bits / 256 % 256 = 0

theorem exit_code_zero (status : WaitStatus) : status.exitCode = 0 ↔ status.success = true ∨ status.Blank := by
  rw [success_iff, Blank]
  by_cases low : status.bits % 128 = 0
  · rw [status.exited_code low]
    omega
  · by_cases other : status.bits % 128 = 127
    · rw [status.stopped_code other]
      omega
    · rw [status.signalled_code low other]
      omega

theorem waited_full (status : WaitStatus) (waited : status.Waited) : ¬ status.Blank := by
  rintro ⟨some, low, high⟩
  cases waited with
  | ended number code own =>
      cases own with
      | exited code byte word => omega
      | killed signal dumped least most word =>
          rw [word, killed_low signal dumped most] at low
          omega
  | stopped signal byte word => omega
  | continued word => omega

theorem failed_code_zero (status : WaitStatus) (failed : status.success = false) : status.exitCode = 0 ↔ status.Blank := by
  rw [exit_code_zero, failed]
  simp

end WaitStatus

namespace Report

theorem exec_exit_zero (success : Bool) (code : Int) (output : Bytes) :
    (Report.exec success code output).exitCode = 0 ↔ code = 0 := by
  simp only [exitCode, failure]
  split <;> omega

theorem exec_exit_byte (success : Bool) (code : Int) (output : Bytes) :
    0 ≤ (Report.exec success code output).exitCode ∧ (Report.exec success code output).exitCode ≤ 255 := by
  simp only [exitCode, failure]
  split <;> omega

end Report

namespace Finished

-- After success the code of the word is zero too, so one form of report serves both ends.
def report (child : Finished) : Report :=
  .exec child.status.success child.status.exitCode
    (if child.status.success then child.stdout else child.stdout ++ child.stderr)

theorem outcome_result (command : Command) (child : Finished) :
    ExecOrder.outcome command (child.result command) = .ok child.report := by
  cases fine : child.status.success with
  | true =>
      have zero : child.status.exitCode = 0 := child.status.exit_code_zero.mpr (.inl fine)
      simp [report, result, ExecOrder.outcome, fine, zero]
  | false => simp [report, result, ExecOrder.outcome, fine]

theorem report_zero (child : Finished) :
    child.report.exitCode = 0 ↔ child.status.success = true ∨ child.status.Blank :=
  (Report.exec_exit_zero _ _ _).trans child.status.exit_code_zero

theorem report_bounds (child : Finished) (bad : child.status.success = false) (full : ¬ child.status.Blank) :
    1 ≤ child.report.exitCode ∧ child.report.exitCode ≤ 255 := by
  have some : child.report.exitCode ≠ 0 := mt child.report_zero.mp (by simp [bad, full])
  obtain ⟨low, high⟩ : 0 ≤ child.report.exitCode ∧ child.report.exitCode ≤ 255 := Report.exec_exit_byte _ _ _
  omega

theorem reported_zero (child : Finished) (environment : Environment) (format : OutputFormat) :
    (Program.reported environment format child.report).code = 0 ↔
      child.status.success = true ∨ child.status.Blank := by
  have low : 0 ≤ child.report.exitCode := (Report.exec_exit_byte _ _ _).1
  rw [← child.report_zero]
  simp only [Program.reported]
  omega

end Finished

namespace ExecOrder

theorem exit_zero_iff {m : Type → Type} [Monad m] [LawfulMonad m] (order : ExecOrder) (caller : Caller)
    (log : Logger m) (child : Finished) (named : order.argv ≠ [])
    (formed : ∀ raw ∈ order.environment.assignments, IsAssignment raw) :
    ∃ command report, order.command caller = .ok command ∧
      order.exec caller (Run.runner (fun _ => pure (.finished child)) log) = (do
        log (Run.starting command)
        log (Run.completed command child)
        log (Run.captured child)
        pure (.ok report)) ∧
      (child.status.success = true → child.result command = .ok child.stdout) ∧
      (child.status.success = false → ∃ code,
        child.result command = .error (.failed order.argv code (child.stdout ++ child.stderr)) ∧
        (code = 0 ↔ child.status.Blank) ∧
        (¬ child.status.Blank → 1 ≤ report.exitCode ∧ report.exitCode ≤ 255)) ∧
      (report.exitCode = 0 ↔ child.status.success = true ∨ child.status.Blank) ∧
      (∀ environment format, (Program.reported environment format report).code = 0 ↔
        child.status.success = true ∨ child.status.Blank) ∧
      (child.status.Waited →
        (child.status.success = false → ∃ code, code ≠ 0 ∧
          child.result command = .error (.failed order.argv code (child.stdout ++ child.stderr)) ∧
          1 ≤ report.exitCode ∧ report.exitCode ≤ 255) ∧
        ∀ environment format, (Program.reported environment format report).code = 0 ↔ child.status.success = true) := by
  obtain ⟨command, known, argv, -⟩ := order.command_known caller named formed
  have told := order.exec_finished caller log child command known
  rw [child.outcome_result command] at told
  refine ⟨command, child.report, known, told, ?_, ?_, child.report_zero, child.reported_zero, ?_⟩
  · intro fine
    rw [Finished.result, if_pos fine]
  · intro bad
    exact ⟨child.status.exitCode, argv ▸ child.result_failed command bad, child.status.failed_code_zero bad,
      child.report_bounds bad⟩
  · intro waited
    have full := child.status.waited_full waited
    constructor
    · intro bad
      exact ⟨child.status.exitCode, mt (child.status.failed_code_zero bad).mp full,
        argv ▸ child.result_failed command bad, child.report_bounds bad full⟩
    · intro environment format
      rw [child.reported_zero environment format]
      exact or_iff_left full

-- A stopped child, whose word has no code and no signal that ended it.
theorem exit_zero_iff_stopped :
    (WaitStatus.mk 4991).Waited ∧
      ∃ report,
        ExecOrder.exec (m := Id) ⟨["x"], none, ⟨false, []⟩⟩ ⟨.empty, none⟩
          (Run.runner (fun _ => pure (.finished ⟨⟨4991⟩, [], []⟩)) fun _ => pure ()) = .ok report ∧
        1 ≤ report.exitCode ∧ report.exitCode ≤ 255 := by
  have waited : (WaitStatus.mk 4991).Waited := .stopped 19 (by decide) (by decide)
  obtain ⟨command, report, -, told, -, -, -, -, failed⟩ :=
    exit_zero_iff (m := Id) ⟨["x"], none, ⟨false, []⟩⟩ ⟨.empty, none⟩ (fun _ => pure ()) ⟨⟨4991⟩, [], []⟩
      (by decide) (by simp)
  obtain ⟨code, -, -, bounds⟩ := (failed waited).1 (by decide)
  exact ⟨waited, report, told, bounds⟩

-- The mark of a memory dump, without a signal.
theorem blank_failure_exits_zero :
    (WaitStatus.mk 128).Blank ∧ ¬ (WaitStatus.mk 128).Waited ∧
      Finished.result ⟨⟨128⟩, [], []⟩ ⟨"x", [], none, none⟩ = .error (.failed ["x"] 0 []) ∧
      ∃ report,
        ExecOrder.exec (m := Id) ⟨["x"], none, ⟨false, []⟩⟩ ⟨.empty, none⟩
          (Run.runner (fun _ => pure (.finished ⟨⟨128⟩, [], []⟩)) fun _ => pure ()) = .ok report ∧
        report.exitCode = 0 :=
  have blank : (WaitStatus.mk 128).Blank := ⟨by decide, by decide, by decide⟩
  ⟨blank, fun waited => WaitStatus.waited_full _ waited blank, by decide, .exec false 0 [], rfl, by decide⟩

end ExecOrder

end HostTools
