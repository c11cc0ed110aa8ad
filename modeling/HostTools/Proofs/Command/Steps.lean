import Mathlib
import HostTools.Proofs.Exec.Environment
import HostTools.Proofs.Path

set_option autoImplicit false

namespace HostTools

-- The last entry of a name in a list has the value.
def Holds (entries : List (String × String)) (name value : String) : Prop :=
  ∃ before after, entries = before ++ (name, value) :: after ∧ ∀ later ∈ after, later.1 ≠ name

namespace Environment

theorem get_mem (environment : Environment) (name value : String) :
    environment.get? name = some value ↔ (name, value) ∈ environment.entries := by
  rw [get?, List.lookup_eq_some_iff]
  constructor
  · rintro ⟨before, after, shape, -⟩
    rw [shape]
    simp
  · intro member
    obtain ⟨before, after, shape⟩ := List.append_of_mem member
    refine ⟨before, after, shape, ?_⟩
    intro earlier inside
    -- The names ascend, so an earlier one is another one.
    have ascending := environment.ascending
    rw [Ascending, shape] at ascending
    have less : earlier.1 < name := (List.pairwise_append.mp ascending).2.2 earlier inside (name, value) List.mem_cons_self
    have other : name ≠ earlier.1 := fun same => String.lt_irrefl name (same ▸ less)
    simpa using other

theorem ext_get (a b : Environment) (alike : ∀ name, a.get? name = b.get? name) : a = b := by
  have members : ∀ entry, entry ∈ a.entries ↔ entry ∈ b.entries := by
    intro entry
    rw [← a.get_mem entry.1 entry.2, ← b.get_mem entry.1 entry.2, alike]
  have apart : ∀ (entries : List (String × String)), Ascending entries → entries.Nodup := by
    intro entries ascending
    exact List.Nodup.of_map Prod.fst (names_once entries ascending)
  have perm := (List.perm_ext_iff_of_nodup (apart _ a.ascending) (apart _ b.ascending)).mpr members
  have same : a.entries = b.entries := by
    apply List.Perm.eq_of_pairwise _ a.ascending b.ascending perm
    intro first second _ _ less greater
    exact absurd (String.lt_trans less greater) (String.lt_irrefl first.1)
  cases a
  cases b
  cases same
  rfl

theorem get_of_list (entries : List (String × String)) (name : String) :
    (ofList entries).get? name = entries.reverse.lookup name := by
  induction entries using List.reverseRecOn with
  | nil => rfl
  | append_singleton entries entry ih =>
      rw [ofList, List.foldl_concat, get_insert, List.reverse_append, List.reverse_singleton, List.singleton_append,
        lookup_entry, ← ih]
      rfl

theorem of_list_holds (entries : List (String × String)) (name value : String) :
    (ofList entries).get? name = some value ↔ Holds entries name value := by
  rw [get_of_list, List.lookup_eq_some_iff]
  constructor
  · rintro ⟨after, before, shape, silent⟩
    refine ⟨before.reverse, after.reverse, ?_, ?_⟩
    · simpa using congrArg List.reverse shape
    · intro later inside
      have other := silent later (List.mem_reverse.mp inside)
      exact Ne.symm (by simpa using other)
  · rintro ⟨before, after, rfl, silent⟩
    refine ⟨after.reverse, before.reverse, by simp, ?_⟩
    intro later inside
    have other := silent later (List.mem_reverse.mp inside)
    simpa using Ne.symm other

end Environment

-- The last item that makes a choice makes this one; without such an item it is the one at the start.
def Latest {α β : Type} (choice : β → Option α) (start : α) (items : List β) (result : α) : Prop :=
  (∃ before item after, items = before ++ item :: after ∧ choice item = some result ∧ ∀ later ∈ after, choice later = none) ∨
    (∀ item ∈ items, choice item = none) ∧ result = start

theorem latest_concat {α β : Type} (choice : β → Option α) (start : α) (items : List β) (item : β) (result : α)
    (latest : Latest choice start items result) : Latest choice start (items ++ [item]) ((choice item).getD result) := by
  cases chosen : choice item with
  | some value => exact .inl ⟨items, item, [], rfl, chosen, by simp⟩
  | none =>
      rw [Option.getD_none]
      rcases latest with ⟨before, own, after, rfl, made, silent⟩ | ⟨silent, same⟩
      · refine .inl ⟨before, own, after ++ [item], by simp, made, ?_⟩
        exact List.forall_mem_append.mpr ⟨silent, by simpa using chosen⟩
      · exact .inr ⟨List.forall_mem_append.mpr ⟨silent, by simpa using chosen⟩, same⟩

namespace Command

inductive Step where
  | directory (path : String)
  | environment (entries : List (String × String))
  | inherit
deriving DecidableEq

def Step.apply (command : Command) : Step → Command
  | .directory path => command.within path
  | .environment entries => command.withEnvironment (.ofList entries)
  | .inherit => command.inheriting

def Step.directory? : Step → Option (Option String)
  | .directory path => some (some path)
  | _ => none

-- Inheriting is a choice too: it takes back a list that was given before.
def Step.environment? : Step → Option (Option (List (String × String)))
  | .directory _ => none
  | .environment entries => some (some entries)
  | .inherit => some none

-- The command with the given arguments after some steps.
def build (argv : List String) (steps : List Step) : Except CommandError Command :=
  (ofArgv argv).map fun command => steps.foldl Step.apply command

-- An environment is that of a list of entries, or both are missing.
inductive Gives : Option (List (String × String)) → Option Environment → Prop
  | inherited : Gives none none
  | exactly {entries : List (String × String)} {environment : Environment}
      (alike : ∀ name value, environment.get? name = some value ↔ Holds entries name value) :
      Gives (some entries) (some environment)

-- The steps have led to this directory, and to the environment of these entries.
structure Settled (steps : List Step) (command : Command) (entries : Option (List (String × String))) : Prop where
  directory : Latest Step.directory? none steps command.cwd
  chosen : Latest Step.environment? none steps entries
  given : Gives entries command.env

inductive SameDirectory : Option String → Option String → Prop
  | unset : SameDirectory none none
  | paths {a b : String} (components : List Path.Component) (left : Path.Reads a.toList components)
      (right : Path.Reads b.toList components) : SameDirectory (some a) (some b)

inductive SameEntries : Option (List (String × String)) → Option (List (String × String)) → Prop
  | inherited : SameEntries none none
  | alike {a b : List (String × String)} (values : ∀ name value, Holds a name value ↔ Holds b name value) :
      SameEntries (some a) (some b)

theorem step_argv (command : Command) (step : Step) : (step.apply command).argv = command.argv := by
  cases step <;> rfl

theorem steps_argv (command : Command) (steps : List Step) : (steps.foldl Step.apply command).argv = command.argv := by
  induction steps generalizing command with
  | nil => rfl
  | cons step steps ih => rw [List.foldl_cons, ih, step_argv]

theorem step_cwd (command : Command) (step : Step) : (step.apply command).cwd = step.directory?.getD command.cwd := by
  cases step <;> rfl

-- The lists are not kept in the command, so the last one is carried along beside it.
theorem step_settled (steps : List Step) (command : Command) (entries : Option (List (String × String))) (step : Step)
    (settled : Settled steps command entries) :
    Settled (steps ++ [step]) (step.apply command) (step.environment?.getD entries) := by
  refine ⟨?_, latest_concat _ none steps step entries settled.chosen, ?_⟩
  · rw [step_cwd]
    exact latest_concat _ none steps step command.cwd settled.directory
  · cases step with
    | directory path => exact settled.given
    | environment listed => exact .exactly (Environment.of_list_holds listed)
    | inherit => exact .inherited

theorem steps_settled (command : Command) (fresh : command.cwd = none ∧ command.env = none) (steps : List Step) :
    ∃ entries, Settled steps (steps.foldl Step.apply command) entries := by
  induction steps using List.reverseRecOn with
  | nil =>
      refine ⟨none, .inr ⟨by simp, fresh.1⟩, .inr ⟨by simp, rfl⟩, ?_⟩
      rw [List.foldl_nil, fresh.2]
      exact .inherited
  | append_singleton steps step ih =>
      obtain ⟨entries, settled⟩ := ih
      rw [List.foldl_concat]
      exact ⟨_, step_settled steps _ entries step settled⟩

theorem same_directory_iff (a b : Option String) : Path.same? a b = true ↔ SameDirectory a b := by
  cases a with
  | none =>
      cases b with
      | none => exact iff_of_true rfl .unset
      | some b => exact iff_of_false (by simp [Path.same?]) (by rintro ⟨⟩)
  | some a =>
      cases b with
      | none => exact iff_of_false (by simp [Path.same?]) (by rintro ⟨⟩)
      | some b =>
          rw [Path.same?, Path.same_iff]
          constructor
          · rintro ⟨components, left, right⟩
            exact .paths components left right
          · rintro ⟨⟩
            exact ⟨_, ‹_›, ‹_›⟩

theorem same_entries_iff (first second : Option (List (String × String))) (a b : Option Environment) (left : Gives first a)
    (right : Gives second b) : a = b ↔ SameEntries first second := by
  cases left with
  | inherited =>
      cases right with
      | inherited => exact iff_of_true rfl .inherited
      | exactly alike => exact iff_of_false (by simp) (by rintro ⟨⟩)
  | exactly alike =>
      cases right with
      | inherited => exact iff_of_false (by simp) (by rintro ⟨⟩)
      | exactly also =>
          constructor
          · intro same
            cases same
            exact .alike fun name value => (alike name value).symm.trans (also name value)
          · intro same
            cases same with
            | alike values =>
                congr 1
                apply Environment.ext_get
                intro name
                apply Option.ext
                intro value
                exact (alike name value).trans ((values name value).trans (also name value).symm)

theorem same_iff (a b : Command) :
    a.same b = true ↔ a.argv = b.argv ∧ Path.same? a.cwd b.cwd = true ∧ a.env = b.env := by
  simp only [same, Bool.and_eq_true, decide_eq_true_iff, and_assoc]

theorem same_path_iff (a b : Option String) : Path.same? a b = true ↔ a.map Path.components = b.map Path.components := by
  cases a <;> cases b <;> simp [Path.same?, Path.same]

theorem same_equivalence : Equivalence fun a b : Command => a.same b = true := by
  simp only [same_iff, same_path_iff]
  refine ⟨fun a => ⟨rfl, rfl, rfl⟩, ?_, ?_⟩
  · rintro a b ⟨argv, cwd, env⟩
    exact ⟨argv.symm, cwd.symm, env.symm⟩
  · rintro a b c ⟨argv, cwd, env⟩ ⟨nextArgv, nextCwd, nextEnv⟩
    exact ⟨argv.trans nextArgv, cwd.trans nextCwd, env.trans nextEnv⟩

theorem build_argv (argv : List String) (steps : List Step) (command : Command) (built : build argv steps = .ok command) :
    command.argv = argv := by
  cases argv with
  | nil => cases built
  | cons program args =>
      cases built
      exact steps_argv ⟨program, args, none, none⟩ steps

theorem build_named (argv : List String) (steps : List Step) (named : argv ≠ []) :
    ∃ command, build argv steps = .ok command ∧ command.argv = argv := by
  obtain ⟨program, args, rfl⟩ := List.exists_cons_of_ne_nil named
  exact ⟨_, rfl, steps_argv ⟨program, args, none, none⟩ steps⟩

theorem reached_settled (argv : List String) (steps : List Step) :
    (argv = [] ∧ build argv steps = .error .empty ∨
      ∃ command entries, argv ≠ [] ∧ build argv steps = .ok command ∧ argv = command.program :: command.args ∧
        command.argv = argv ∧ Settled steps command entries ∧
        ∀ otherArgv otherSteps other otherEntries, build otherArgv otherSteps = .ok other →
          Settled otherSteps other otherEntries →
          (command.same other = true ↔
            argv = otherArgv ∧ SameDirectory command.cwd other.cwd ∧ SameEntries entries otherEntries)) ∧
      Equivalence fun a b : Command => a.same b = true := by
  refine ⟨?_, same_equivalence⟩
  cases argv with
  | nil => exact .inl ⟨rfl, rfl⟩
  | cons program args =>
      right
      obtain ⟨entries, settled⟩ := steps_settled ⟨program, args, none, none⟩ ⟨rfl, rfl⟩ steps
      have built : build (program :: args) steps = .ok (steps.foldl Step.apply ⟨program, args, none, none⟩) := rfl
      have kept := build_argv (program :: args) steps _ built
      refine ⟨_, entries, by simp, built, kept.symm, kept, settled, ?_⟩
      intro otherArgv otherSteps other otherEntries otherBuilt otherSettled
      rw [same_iff, kept, build_argv otherArgv otherSteps other otherBuilt, same_directory_iff,
        same_entries_iff entries otherEntries _ _ settled.given otherSettled.given]

end Command

end HostTools
