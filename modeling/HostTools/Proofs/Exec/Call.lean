import Mathlib
import HostTools.Stub
import HostTools.Proofs.Exec.Environment

set_option autoImplicit false

namespace HostTools

namespace Path

-- Only a leading tilde, alone or before a slash, is replaced.
inductive Expanded (home : String) : String → String → Prop
  | bare : Expanded home "~" home
  | inside (rest : String) : Expanded home ("~/" ++ rest) (home ++ "/" ++ rest)
  | kept (path : String) (other : path ≠ "~") (outside : ∀ rest, path ≠ "~/" ++ rest) : Expanded home path path

theorem expand_expanded (home path : String) : Expanded home path (expand home path) := by
  unfold expand
  split
  · rename_i shape
    obtain rfl : path = "~" := String.toList_inj.mp shape
    exact .bare
  · rename_i rest shape
    have whole : path = "~/" ++ String.ofList rest := String.toList_inj.mp (by simpa using shape)
    have result : home ++ String.ofList ('/' :: rest) = home ++ "/" ++ String.ofList rest :=
      String.toList_inj.mp (by simp)
    rw [whole, result]
    exact .inside (String.ofList rest)
  · rename_i bare inside
    refine .kept path ?_ ?_
    · rintro rfl
      exact bare rfl
    · rintro rest rfl
      exact inside rest.toList (by simp)

theorem expanded_expand (home path place : String) (known : Expanded home path place) : expand home path = place := by
  cases known with
  | bare => rfl
  | inside rest =>
      apply String.toList_inj.mp
      simp [expand]
  | kept _ other outside =>
      unfold expand
      split
      · rename_i shape
        exact absurd (String.toList_inj.mp shape) other
      · rename_i rest shape
        refine absurd (String.toList_inj.mp ?_) (outside (String.ofList rest))
        simpa using shape
      · rfl

end Path

namespace Caller

variable (caller : Caller)

theorem home_named (home : String) (known : caller.environment.get? "HOME" = some home) (present : home ≠ "") :
    caller.home? = some home := by
  have full : home.isEmpty = false := by simpa using present
  simp [home?, known, full]

theorem home_missing
    (missing : caller.environment.get? "HOME" = none ∨ caller.environment.get? "HOME" = some "") :
    caller.home? = caller.account := by
  rcases missing with unset | empty
  · simp [home?, unset]
  · simp [home?, empty]

theorem expand_home (home path : String) (known : caller.home? = some home) :
    Path.Expanded home path (caller.expand path) := by
  rw [expand, known]
  exact Path.expand_expanded home path

theorem expand_homeless (path : String) (homeless : caller.home? = none) : caller.expand path = path := by
  rw [expand, homeless]

end Caller

namespace ExecOrder

theorem command_cwd (order : ExecOrder) (caller : Caller) (command : Command)
    (known : order.command caller = .ok command) : command.cwd = order.cwd.map caller.expand := by
  obtain ⟨argv, cwd, choice⟩ := order
  cases argv with
  | nil => cases known
  | cons program args =>
      simp only [ExecOrder.command, Command.ofArgv, bind, Except.bind] at known
      cases built : choice.build caller.environment with
      | error error =>
          rw [built] at known
          cases known
      | ok environment =>
          rw [built] at known
          cases cwd <;> cases environment <;> cases known <;> rfl

theorem outcome_report (command : Command) (result : Except RunFailure Bytes) :
    (∃ report, outcome command result = .ok report) ↔
      (∃ output, result = .ok output) ∨ ∃ argv code output, result = .error (.failed argv code output) := by
  cases result with
  | ok output => simp [outcome]
  | error failure => cases failure <;> simp [outcome]

theorem outcome_chain (command : Command) (failure : RunFailure) (cause : IoError)
    (caused : failure.cause? = some cause) :
    ∃ error, outcome command (.error failure) = .error error ∧
      error.chain = ["Failed to run " ++ command.program, failure.message, cause.message] := by
  cases failure with
  | failed argv code output => cases caused
  | spawn program own =>
      cases caused
      exact ⟨_, rfl, rfl⟩
  | wait own =>
      cases caused
      exact ⟨_, rfl, rfl⟩

theorem command_empty (order : ExecOrder) (caller : Caller) (unnamed : order.argv = []) :
    order.command caller = .error .empty := by
  simp only [ExecOrder.command, unnamed, Command.ofArgv, bind, Except.bind]

theorem exec_answered (order : ExecOrder) (caller : Caller) (answer : Command → Except RunFailure Bytes)
    (before : Stub.Recording Command) (command : Command) (known : order.command caller = .ok command) :
    (order.exec caller (Stub.answering answer)).run before =
      (outcome command (answer command), { before with calls := before.calls ++ [command] }) := by
  rw [order.exec_command caller _ command known, StateT.run_bind, Stub.answering_run]
  rfl

-- The directory of a command: none without an order for one, else that one, seen from the caller's home.
def Directed (caller : Caller) (ordered cwd : Option String) : Prop :=
  (cwd = none ↔ ordered = none) ∧
    ∀ directory, ordered = some directory → ∃ place, cwd = some place ∧
      (∀ home, caller.environment.get? "HOME" = some home → home ≠ "" → Path.Expanded home directory place) ∧
      (caller.environment.get? "HOME" = none ∨ caller.environment.get? "HOME" = some "" →
        (∀ home, caller.account = some home → Path.Expanded home directory place) ∧
          (caller.account = none → place = directory))

theorem command_directed (order : ExecOrder) (caller : Caller) (command : Command)
    (known : order.command caller = .ok command) : Directed caller order.cwd command.cwd := by
  have cwd := order.command_cwd caller command known
  refine ⟨by simp [cwd], fun directory ordered => ⟨caller.expand directory, by rw [cwd, ordered, Option.map_some], ?_, ?_⟩⟩
  · intro home set present
    exact caller.expand_home home directory (caller.home_named home set present)
  · intro missing
    have account := caller.home_missing missing
    constructor
    · intro home own
      exact caller.expand_home home directory (account.trans own)
    · intro homeless
      exact caller.expand_homeless directory (account.trans homeless)

theorem runs_once (caller : Caller) (order : ExecOrder) (answer : Command → Except RunFailure Bytes)
    (before : Stub.Recording Command) :
    ∃ result calls,
      (order.exec caller (Stub.answering answer)).run before =
        (result, { before with calls := before.calls ++ calls }) ∧
      ((∃ command, calls = [command]) ↔
        order.argv ≠ [] ∧ ∀ raw ∈ order.environment.assignments, IsAssignment raw) ∧
      ((order.argv = [] ∨ ∃ raw ∈ order.environment.assignments, ¬ IsAssignment raw) → calls = []) ∧
      (order.argv = [] → result = .error (.command .empty)) ∧
      (order.argv ≠ [] → (∃ raw ∈ order.environment.assignments, ¬ IsAssignment raw) →
        ∃ front raw back, order.environment.assignments = front ++ raw :: back ∧
          (∀ earlier ∈ front, IsAssignment earlier) ∧ ¬ IsAssignment raw ∧
          result = .error (.command (.assignment raw))) ∧
      ∀ command, calls = [command] →
        command.argv = order.argv ∧ Directed caller order.cwd command.cwd ∧
        ((∃ report, result = .ok report) ↔ (∃ output, answer command = .ok output) ∨
          ∃ argv code output, answer command = .error (.failed argv code output)) ∧
        ∀ failure cause, answer command = .error failure →
          (failure = .wait cause ∨ ∃ program, failure = .spawn program cause) →
          ∃ error program, result = .error error ∧ order.argv.head? = some program ∧
            error.chain = ["Failed to run " ++ program, failure.message, cause.message] := by
  by_cases unnamed : order.argv = []
  · have refused := order.command_empty caller unnamed
    refine ⟨.error (.command .empty), [], ?_, by simp [unnamed], by simp, by simp, by simp [unnamed], by simp⟩
    rw [exec, refused, List.append_nil]
    rfl
  · by_cases formed : ∀ raw ∈ order.environment.assignments, IsAssignment raw
    · obtain ⟨command, known, argv, -⟩ := order.command_known caller unnamed formed
      refine ⟨_, [command], order.exec_answered _ answer before command known,
        ⟨fun _ => ⟨unnamed, formed⟩, fun _ => ⟨command, rfl⟩⟩, ?_, fun empty => absurd empty unnamed, ?_, ?_⟩
      · rintro (empty | ⟨raw, member, malformed⟩)
        · exact absurd empty unnamed
        · exact absurd (formed raw member) malformed
      · rintro - ⟨raw, member, malformed⟩
        exact absurd (formed raw member) malformed
      · intro own same
        obtain rfl : command = own := by simpa using same
        refine ⟨argv, order.command_directed caller command known, outcome_report command (answer command), ?_⟩
        intro failure cause answered kind
        have caused : failure.cause? = some cause := by
          rcases kind with rfl | ⟨program, rfl⟩ <;> rfl
        obtain ⟨error, told, chain⟩ := outcome_chain command failure cause caused
        refine ⟨error, command.program, by rw [answered, told], ?_, chain⟩
        rw [← argv]
        rfl
    · have malformed : ∃ raw ∈ order.environment.assignments, ¬ IsAssignment raw := by simpa using formed
      obtain ⟨front, raw, back, shape, earlier, first⟩ := first_malformed order.environment.assignments malformed
      have unbuilt := order.environment.build_fails caller.environment front raw back shape earlier first
      refine ⟨.error (.command (.assignment raw)), [], ?_, iff_of_false (by simp) (fun fine => formed fine.2),
        fun _ => rfl, fun empty => absurd empty unnamed,
        fun _ _ => ⟨front, raw, back, shape, earlier, first, rfl⟩, by simp⟩
      rw [order.exec_unbuilt _ _ _ unnamed unbuilt, List.append_nil]
      rfl

-- An empty variable is set, but it is no home.
theorem empty_home_is_account :
    (Environment.ofList [("HOME", "")]).get? "HOME" = some "" ∧
      (ExecOrder.exec ⟨["ls"], some "~/x", ⟨false, []⟩⟩ ⟨.ofList [("HOME", "")], some "/root"⟩
        (Stub.answering fun _ => .ok [])).run .empty =
          (.ok (.exec true 0 []), ⟨[⟨"ls", [], some "/root/x", none⟩], []⟩) ∧
      ¬ Path.Expanded "" "~/x" "/root/x" :=
  ⟨rfl, rfl, fun expanded => absurd (Path.expanded_expand "" "~/x" "/root/x" expanded) (by decide)⟩

end ExecOrder

end HostTools
