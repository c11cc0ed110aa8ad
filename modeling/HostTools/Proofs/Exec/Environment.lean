import Mathlib
import HostTools.Proofs.Shell.Listing
import HostTools.Proofs.Text.Pieces

set_option autoImplicit false

namespace HostTools

theorem lookup_entry (query : String) (entry : String × String) (rest : List (String × String)) :
    (entry :: rest).lookup query = if query = entry.1 then some entry.2 else rest.lookup query := by
  by_cases same : query = entry.1
  · subst same
    simp [List.lookup]
  · have other : (query == entry.1) = false := by simpa using same
    simp [List.lookup, other, same]

theorem lookup_place (name value query : String) (entries : List (String × String)) :
    (placeEntry name value entries).lookup query = if query = name then some value else entries.lookup query := by
  fun_induction placeEntry name value entries with
  | case1 => simp only [lookup_entry]
  | case2 entry rest less => simp only [lookup_entry]
  | case3 entry rest _ found =>
      by_cases same : query = name
      · simp [same]
      · have other : query ≠ entry.1 := fun own => same (own.trans found.symm)
        simp [lookup_entry, same, other]
  | case4 entry rest _ different ih =>
      by_cases same : query = entry.1
      · have other : query ≠ name := fun own => different (own.symm.trans same)
        simp only [lookup_entry, if_pos same, if_neg other]
      · simp only [lookup_entry, if_neg same, ih]

theorem names_once (entries : List (String × String)) (ascending : Ascending entries) :
    (entries.map Prod.fst).Nodup := by
  apply List.pairwise_map.mpr
  apply List.Pairwise.imp _ ascending
  intro a b less same
  rw [same] at less
  exact String.lt_irrefl b.1 less

-- Each name stands once, so the order of the entries cannot matter.
theorem lookup_listed (name : String) (listed entries : List (String × String)) (perm : listed.Perm entries)
    (once : (entries.map Prod.fst).Nodup) : listed.lookup name = entries.lookup name := by
  induction perm with
  | nil => rfl
  | cons entry _ ih =>
      simp only [lookup_entry, ih (List.nodup_cons.mp once).2]
  | swap a b rest =>
      have different : b.1 ≠ a.1 := by
        intro same
        simp [same] at once
      by_cases first : name = b.1
      · have other : name ≠ a.1 := fun second => different (first.symm.trans second)
        simp only [lookup_entry, if_pos first, if_neg other]
      · simp only [lookup_entry, if_neg first]
  | trans _ second ihFirst ihSecond =>
      exact (ihFirst ((second.map Prod.fst).nodup_iff.mpr once)).trans (ihSecond once)

theorem Environment.get_insert (environment : Environment) (name value query : String) :
    (environment.insert name value).get? query = if query = name then some value else environment.get? query :=
  lookup_place name value query environment.entries

def Assigns (raw name value : String) : Prop := name ≠ "" ∧ '=' ∉ name.toList ∧ raw = name ++ "=" ++ value

def IsAssignment (raw : String) : Prop := ∃ name value, Assigns raw name value

theorem parse_assignment_iff (raw name value : String) :
    parseAssignment raw = .ok (name, value) ↔ Assigns raw name value := by
  constructor
  · intro known
    unfold parseAssignment at known
    split at known
    · rename_i front back cut
      split at known
      · cases known
      · rename_i present
        obtain ⟨rfl, rfl⟩ := Prod.mk.inj (Except.ok.inj known)
        obtain ⟨absent, shape⟩ := Pieces.cut_parts '=' raw.toList front back cut
        refine ⟨by simpa using present, by simpa using absent, String.toList_inj.mp ?_⟩
        simpa using shape
    · cases known
  · rintro ⟨present, absent, rfl⟩
    have cut : Pieces.cut '=' (name ++ "=" ++ value).toList = some (name.toList, value.toList) := by
      simpa using Pieces.cut_append '=' name.toList value.toList absent
    have nonempty : name.toList ≠ [] := by simpa using present
    simp only [parseAssignment, cut, if_neg nonempty, String.ofList_toList]

theorem parse_assignment_fails (raw : String) (malformed : ¬ IsAssignment raw) :
    parseAssignment raw = .error (.assignment raw) := by
  cases known : parseAssignment raw with
  | ok pair => exact absurd ⟨pair.1, pair.2, (parse_assignment_iff raw pair.1 pair.2).mp known⟩ malformed
  | error error =>
      unfold parseAssignment at known
      split at known
      · split at known <;> cases known
        rfl
      · cases known
        rfl

theorem first_malformed (assignments : List String)
    (malformed : ∃ raw ∈ assignments, ¬ IsAssignment raw) :
    ∃ before raw after, assignments = before ++ raw :: after ∧
      (∀ earlier ∈ before, IsAssignment earlier) ∧ ¬ IsAssignment raw := by
  induction assignments with
  | nil => simp at malformed
  | cons first rest ih =>
      by_cases formed : IsAssignment first
      · obtain ⟨raw, member, own⟩ := malformed
        have later : raw ∈ rest := by
          rcases List.mem_cons.mp member with rfl | later
          · exact absurd formed own
          · exact later
        obtain ⟨before, one, after, rfl, earlier, here⟩ := ih ⟨raw, later, own⟩
        refine ⟨first :: before, one, after, rfl, ?_, here⟩
        exact List.forall_mem_cons.mpr ⟨formed, earlier⟩
      · exact ⟨[], first, rest, rfl, by simp, formed⟩

-- The last assignment to a name decides its value; without one the name keeps the value it had.
def Decides (assignments : List String) (name : String) (had has : Option String) : Prop :=
  (∃ before raw after value, assignments = before ++ raw :: after ∧ Assigns raw name value ∧
      (∀ later ∈ after, ¬ ∃ other, Assigns later name other) ∧ has = some value) ∨
    (∀ raw ∈ assignments, ¬ ∃ value, Assigns raw name value) ∧ has = had

namespace EnvironmentChoice

theorem decides_cons (raw key value : String) (rest : List String) (name : String) (had has : Option String)
    (assigns : Assigns raw key value) (decided : Decides rest name (if name = key then some value else had) has) :
    Decides (raw :: rest) name had has := by
  rcases decided with ⟨before, other, after, last, rfl, own, silent, result⟩ | ⟨silent, result⟩
  · exact .inl ⟨raw :: before, other, after, last, rfl, own, silent, result⟩
  · by_cases same : name = key
    · subst same
      exact .inl ⟨[], raw, rest, value, rfl, assigns, silent, by simpa using result⟩
    · refine .inr ⟨?_, by simpa [same] using result⟩
      intro one member
      rcases List.mem_cons.mp member with rfl | later
      · rintro ⟨other, again⟩
        have first := (parse_assignment_iff one key value).mpr assigns
        have second := (parse_assignment_iff one name other).mpr again
        rw [first] at second
        exact same (Prod.mk.inj (Except.ok.inj second)).1.symm
      · exact silent one later

theorem assign_decides (environment : Environment) (assignments : List String)
    (formed : ∀ raw ∈ assignments, IsAssignment raw) :
    ∃ result, assign environment assignments = .ok result ∧
      ∀ name, Decides assignments name (environment.get? name) (result.get? name) := by
  induction assignments generalizing environment with
  | nil => exact ⟨environment, rfl, fun name => .inr ⟨by simp, rfl⟩⟩
  | cons raw rest ih =>
      obtain ⟨key, value, assigns⟩ := formed raw List.mem_cons_self
      obtain ⟨result, done, decided⟩ := ih (environment.insert key value) fun one member =>
        formed one (List.mem_cons_of_mem raw member)
      refine ⟨result, ?_, ?_⟩
      · rw [assign, (parse_assignment_iff raw key value).mpr assigns]
        exact done
      · intro name
        have later := decided name
        rw [Environment.get_insert] at later
        exact decides_cons raw key value rest name _ _ assigns later

theorem assign_fails (environment : Environment) (before : List String) (raw : String) (after : List String)
    (formed : ∀ earlier ∈ before, IsAssignment earlier)
    (malformed : ¬ IsAssignment raw) :
    assign environment (before ++ raw :: after) = .error (.assignment raw) := by
  induction before generalizing environment with
  | nil => rw [List.nil_append, assign, parse_assignment_fails raw malformed]
  | cons earlier before ih =>
      obtain ⟨key, value, assigns⟩ := formed earlier List.mem_cons_self
      rw [List.cons_append, assign, (parse_assignment_iff earlier key value).mpr assigns]
      exact ih _ fun one member => formed one (List.mem_cons_of_mem earlier member)

theorem build_fails (choice : EnvironmentChoice) (caller : Environment) (before : List String) (raw : String)
    (after : List String) (shape : choice.assignments = before ++ raw :: after)
    (formed : ∀ earlier ∈ before, IsAssignment earlier)
    (malformed : ¬ IsAssignment raw) : choice.build caller = .error (.assignment raw) := by
  have several : choice.assignments.isEmpty = false := by simp [shape]
  simp only [build, several, Bool.and_false, Bool.false_eq_true, if_false]
  rw [shape, assign_fails _ before raw after formed malformed]
  rfl

theorem build_cases (choice : EnvironmentChoice) (caller : Environment)
    (formed : ∀ raw ∈ choice.assignments, IsAssignment raw) :
    (choice.build caller = .ok none ∧ choice.clear = false ∧ choice.assignments = []) ∨
      ∃ environment, choice.build caller = .ok (some environment) ∧
        ∀ name, Decides choice.assignments name (if choice.clear then none else caller.get? name)
          (environment.get? name) := by
  -- With nothing to change the child inherits. In every other case its environment is written out.
  by_cases shortcut : choice.clear = false ∧ choice.assignments = []
  · exact .inl ⟨by simp [build, shortcut], shortcut⟩
  · right
    obtain ⟨environment, done, decided⟩ :=
      assign_decides (if choice.clear then .empty else caller) choice.assignments formed
    refine ⟨environment, ?_, ?_⟩
    · have general : (!choice.clear && choice.assignments.isEmpty) = false := by
        simpa using shortcut
      rw [build, general, if_neg (by simp), done]
      rfl
    · intro name
      have start : (if choice.clear then Environment.empty else caller).get? name =
          if choice.clear then none else caller.get? name := by
        cases choice.clear <;> rfl
      rw [← start]
      exact decided name

end EnvironmentChoice

namespace ExecOrder

theorem command_built (order : ExecOrder) (caller : Caller) (built : Option Environment) (named : order.argv ≠ [])
    (known : order.environment.build caller.environment = .ok built) :
    ∃ command, order.command caller = .ok command ∧ command.argv = order.argv ∧ command.env = built := by
  obtain ⟨program, args, shape⟩ := List.exists_cons_of_ne_nil named
  simp only [ExecOrder.command, shape, Command.ofArgv, known, bind, Except.bind]
  cases order.cwd <;> cases built <;> exact ⟨_, rfl, rfl, rfl⟩

theorem command_known (order : ExecOrder) (caller : Caller) (named : order.argv ≠ [])
    (formed : ∀ raw ∈ order.environment.assignments, IsAssignment raw) :
    ∃ command, order.command caller = .ok command ∧ command.argv = order.argv ∧
      order.environment.build caller.environment = .ok command.env := by
  obtain ⟨built, known⟩ : ∃ built, order.environment.build caller.environment = .ok built := by
    rcases order.environment.build_cases caller.environment formed with ⟨known, -⟩ | ⟨environment, known, -⟩
    · exact ⟨none, known⟩
    · exact ⟨some environment, known⟩
  obtain ⟨command, made, argv, rfl⟩ := order.command_built caller built named known
  exact ⟨command, made, argv, known⟩

theorem exec_command {m : Type → Type} [Monad m] (order : ExecOrder) (caller : Caller) (run : Runner m)
    (command : Command) (known : order.command caller = .ok command) :
    order.exec caller run = (do
      let result ← run command
      pure (outcome command result)) := by
  rw [exec, known]

theorem exec_unbuilt {m : Type → Type} [Monad m] (order : ExecOrder) (caller : Caller) (run : Runner m)
    (error : CommandError) (named : order.argv ≠ []) (known : order.environment.build caller.environment = .error error) :
    order.exec caller run = pure (.error (.command error)) := by
  obtain ⟨program, args, shape⟩ := List.exists_cons_of_ne_nil named
  have refused : order.command caller = .error error := by
    simp only [ExecOrder.command, shape, Command.ofArgv, known, bind, Except.bind]
  rw [exec, refused]

end ExecOrder

namespace Machine

theorem spawn_environment (machine : Machine) (command : Command) (child : Finished)
    (ended : machine.spawn command = .finished child) :
    ∃ place tool, machine.start command = .ok place ∧
      machine.disk.program place (((machine.environment command).lookup "PATH").getD defaultPath) command.program = .ok tool ∧
      child = machine.child place tool command.argv (machine.environment command) := by
  unfold spawn at ended
  split at ended
  · cases ended
  · dsimp only at ended
    split at ended
    · cases ended
    · rename_i place started
      split at ended <;> cases ended
      rename_i tool found
      exact ⟨place, tool, started, found, rfl⟩

-- An environment that passes untouched has the caller's entries in an order of its own.
theorem environment_decided (machine : Machine) (caller : Caller) (choice : EnvironmentChoice) (command : Command)
    (listed : machine.inherited.Perm caller.environment.entries)
    (formed : ∀ raw ∈ choice.assignments, IsAssignment raw)
    (built : choice.build caller.environment = .ok command.env) :
    ((machine.environment command).map Prod.fst).Nodup ∧
      ∀ name, Decides choice.assignments name (if choice.clear then none else caller.environment.get? name)
        ((machine.environment command).lookup name) := by
  have once := names_once caller.environment.entries caller.environment.ascending
  rcases choice.build_cases caller.environment formed with ⟨known, kept, none⟩ | ⟨environment, known, decided⟩
  · have own : machine.environment command = machine.inherited := by
      rw [environment, ← Except.ok.inj (known.symm.trans built)]
    rw [own, kept, none]
    refine ⟨(listed.map Prod.fst).nodup_iff.mpr once, fun name => .inr ⟨by simp, ?_⟩⟩
    exact lookup_listed name _ _ listed once
  · have own : machine.environment command = environment.entries := by
      rw [Machine.environment, ← Except.ok.inj (known.symm.trans built)]
    rw [own]
    exact ⟨names_once _ environment.ascending, decided⟩

end Machine

namespace ExecOrder

theorem child_environment (machine : Machine) (caller : Caller) (order : ExecOrder)
    (listed : machine.inherited.Perm caller.environment.entries) (named : order.argv ≠ []) :
    ((∀ raw ∈ order.environment.assignments, IsAssignment raw) →
        ∃ command,
          (∀ (m : Type → Type) [Monad m] (run : Runner m), order.exec caller run = (do
            let result ← run command
            pure (outcome command result))) ∧
          (∀ child, machine.spawn command = .finished child →
            ∃ place tool, machine.start command = .ok place ∧
              machine.disk.program place (((machine.environment command).lookup "PATH").getD Machine.defaultPath)
                (order.argv.head named) = .ok tool ∧
              child = machine.child place tool order.argv (machine.environment command) ∧
              (tool = "env" → order.argv.length = 1 →
                child.status = .ofExit 0 ∧ child.stdout = Machine.listing (machine.environment command))) ∧
          ((machine.environment command).map Prod.fst).Nodup ∧
          ∀ name, Decides order.environment.assignments name
            (if order.environment.clear then none else caller.environment.get? name)
            ((machine.environment command).lookup name)) ∧
      ((∃ raw ∈ order.environment.assignments, ¬ IsAssignment raw) →
        ∃ before raw after, order.environment.assignments = before ++ raw :: after ∧
          (∀ earlier ∈ before, IsAssignment earlier) ∧ (¬ IsAssignment raw) ∧
          ∀ (m : Type → Type) [Monad m] (run : Runner m),
            order.exec caller run = pure (.error (.command (.assignment raw)))) := by
  constructor
  · intro formed
    obtain ⟨command, made, argv, known⟩ := order.command_known caller named formed
    refine ⟨command, fun m _ run => order.exec_command caller run command made, ?_,
      machine.environment_decided caller order.environment command listed formed known⟩
    intro child ended
    obtain ⟨place, tool, started, found, rfl⟩ := machine.spawn_environment command child ended
    have program : order.argv.head named = command.program := by simp [← argv, Command.argv]
    refine ⟨place, tool, started, program ▸ found, by rw [argv], ?_⟩
    rintro rfl alone
    obtain ⟨name, own⟩ := List.length_eq_one_iff.mp alone
    rw [argv, own, machine.child_lists]
    exact ⟨rfl, rfl⟩
  · intro malformed
    obtain ⟨before, raw, after, shape, formed, first⟩ := first_malformed order.environment.assignments malformed
    refine ⟨before, raw, after, shape, formed, first, fun m _ run => order.exec_unbuilt caller run _ named ?_⟩
    exact order.environment.build_fails caller.environment before raw after shape formed first

-- Two assignments to one name that the caller has too, and a value with an equals sign.
theorem child_environment_last_wins :
    ∃ command,
      (∀ run : Runner Id, ExecOrder.exec ⟨["env"], none, ⟨false, ["A=x", "A=y=z"]⟩⟩
        ⟨Environment.ofList [("A", "0"), ("B", "1")], none⟩ run = (do
          let result ← run command
          pure (outcome command result))) ∧
      ∀ name, Decides ["A=x", "A=y=z"] name ((Environment.ofList [("A", "0"), ("B", "1")]).get? name)
        ((Machine.environment ⟨{ work := [], files := [] }, [("B", "1"), ("A", "0")]⟩ command).lookup name) := by
  have formed : ∀ raw ∈ ["A=x", "A=y=z"], IsAssignment raw := by
    intro raw member
    rcases List.mem_pair.mp member with rfl | rfl
    · exact ⟨"A", "x", by decide, by decide, rfl⟩
    · exact ⟨"A", "y=z", by decide, by decide, rfl⟩
  obtain ⟨command, told, -, -, decided⟩ :=
    (child_environment ⟨{ work := [], files := [] }, [("B", "1"), ("A", "0")]⟩
      ⟨Environment.ofList [("A", "0"), ("B", "1")], none⟩ ⟨["env"], none, ⟨false, ["A=x", "A=y=z"]⟩⟩ (by decide)
      (by decide)).1 formed
  exact ⟨command, told Id, decided⟩

end ExecOrder

end HostTools
